/-
  SqlStatements.Proofs.Script.Rejoining
  ─────────────────────────────────────
  **The statements of a script are stable, and can be joined to a script again.**

  A statement of a script is read by itself as it was read in the script: from code, with
  nothing remembered.  So it is a single statement, and as a part of a tidy text that
  begins and ends with characters that are not blank it is tidy.

  Every statement but the last ends in code with no block open (`Finished`), so with a
  terminator behind it, it is a statement again, and what follows is read afresh.  The last
  one may end in an open literal or an open block; nothing follows it.

  Main results:

    • `Joinable.splitStatements_intercalate` — finished statements, joined and cut again,
    • `Pieces.joinable`                      — the statements of a text can be joined,
    • `splitScript_rejoin`                   — the statements of a script.
-/
import SqlStatements.Proofs.Script.Pieces
import SqlStatements.Proofs.Script.Tidy

namespace SqlStatements.Script

open Lexical Text

/-! ## §1. Statements by themselves. -/

/-- A text that is one statement, with no white space around it. -/
structure IsStatement (triggerBlocks : Bool) (text : List Char) : Prop where
  ne_nil : text ≠ []
  stripped : strip text = text
  uncut : Uncut triggerBlocks {} (labelsFrom .code text)

/-- A text that ends in code, and behind which a terminator ends a statement. -/
structure Finished (triggerBlocks : Bool) (text : List Char) : Prop where
  code : stateAfter .code text = .code
  ends : endsStatement (readAll triggerBlocks {} (labelsFrom .code text)) semicolon = true

section
variable {triggerBlocks : Bool}

theorem isStatement_of_mem {text statement : List Char}
    (h : statement ∈ splitStatements text triggerBlocks) : IsStatement triggerBlocks statement :=
  ⟨(exists_piece h).1, (uncut_of_mem h).2, (uncut_of_mem h).1⟩

theorem IsStatement.head? {text : List Char} (h : IsStatement triggerBlocks text) :
    ∀ c ∈ text.head?, isBlank c = false := by
  have hhead := head?_strip text
  rwa [h.stripped] at hhead

theorem IsStatement.getLast? {text : List Char} (h : IsStatement triggerBlocks text) :
    ∀ c ∈ text.getLast?, isBlank c = false := by
  have hlast := getLast?_strip text
  rwa [h.stripped] at hlast

/-- A single statement is cut to itself. -/
theorem IsStatement.splitStatements_eq {text : List Char} (h : IsStatement triggerBlocks text) :
    splitStatements text triggerBlocks = [text] :=
  splitStatements_of_uncut h.uncut h.stripped h.ne_nil

/-- **A statement of a trimmed text is tidy.** -/
theorem tidy_of_mem {text statement : List Char}
    (h : statement ∈ splitStatements (trimLines text) triggerBlocks) :
    Tidy (labelsFrom .code statement) := by
  have hstatement := isStatement_of_mem h
  have hunmark := unmark_labelsFrom .code statement
  have hinfix := labelsFrom_infix_of_mem h
  have hne : labelsFrom .code statement ≠ [] := by
    intro hnil
    rw [hnil] at hunmark
    exact hstatement.ne_nil hunmark.symm
  rcases tidy_trimLines text with hnil | htidy
  · -- an empty text has no statement
    rw [hnil] at hinfix
    exact absurd (List.infix_nil.mp hinfix) hne
  · refine htidy.of_infix hinfix hne (fun m hm => ?_) fun m hm => ?_
    · apply hstatement.head?
      rw [← hunmark]
      exact char_mem_head?_unmark hm
    · apply hstatement.getLast?
      rw [← hunmark]
      exact char_mem_getLast?_unmark hm

/-! ## §2. Joining. -/

variable (triggerBlocks) in
/-- Statements of which all but the last are finished. -/
inductive Joinable : List (List Char) → Prop where
  | nil : Joinable []
  | last {statement : List Char} (h : IsStatement triggerBlocks statement) : Joinable [statement]
  | cons {statement : List Char} {statements : List (List Char)}
      (h : IsStatement triggerBlocks statement) (finished : Finished triggerBlocks statement)
      (rest : Joinable statements) : Joinable (statement :: statements)

/-- A finished statement, a terminator and a text have the statements of both. -/
theorem splitStatements_append_terminator {statement : List Char}
    (h : IsStatement triggerBlocks statement) (finished : Finished triggerBlocks statement)
    (text : List Char) :
    splitStatements (statement ++ ';' :: text) triggerBlocks
      = statement :: splitStatements text triggerBlocks := by
  have hlabels : labelsFrom .code (statement ++ ';' :: text)
      = labelsFrom .code statement ++ semicolon :: labelsFrom .code text := by
    rw [labelsFrom_append, finished.code]
    rfl
  have hfirst : statementsOf [statement] = [statement] := by
    rw [statementsOf_singleton, h.stripped, if_neg h.ne_nil]
  rw [Script.splitStatements_eq, Script.splitStatements_eq, hlabels,
    segments_append_of_ends finished.ends, statementsOf_append, h.uncut.segments_eq,
    unmark_labelsFrom, hfirst]
  rfl

/-- **Statements that are joined with terminators are cut to the same statements.** -/
theorem Joinable.splitStatements_intercalate {statements : List (List Char)}
    (h : Joinable triggerBlocks statements) :
    splitStatements (List.intercalate [';'] statements) triggerBlocks = statements := by
  induction h with
  | nil => cases triggerBlocks <;> rfl
  | last h =>
      rw [List.intercalate_singleton]
      exact h.splitStatements_eq
  | @cons statement statements h finished rest ih =>
      by_cases hnil : statements = []
      · subst hnil
        rw [List.intercalate_singleton]
        exact h.splitStatements_eq
      · rw [List.intercalate_cons_of_ne_nil hnil, List.append_assoc, List.singleton_append,
          splitStatements_append_terminator h finished, ih]

/-! ## §3. The statements of a text. -/

/-- A piece behind which a statement ends is finished, also when it is stripped. -/
theorem finished_strip {piece : List Mark} (hlabels : Labelled .code piece .code) {m : Mark}
    (hends : endsStatement (readAll triggerBlocks {} piece) m = true) :
    Finished triggerBlocks (strip (unmark piece)) := by
  obtain ⟨before, behind, hbefore, hbehind, hpiece⟩ := exists_labelsFrom_strip (unmark piece)
  obtain ⟨hread, hstate⟩ := hlabels.labelsFrom_eq
  rw [hread] at hpiece
  constructor
  · -- the white space at the two ends changes no state
    rw [hpiece] at hlabels
    obtain ⟨s₂, hfront, hback⟩ := hlabels.of_append
    obtain ⟨s₁, hfirst, hinner⟩ := hfront.of_append
    have hbefore' := (labelled_blank hfirst fun m hm => (hbefore m hm).1).1
    have hbehind' := (labelled_blank hback fun m hm => (hbehind m hm).1).1
    subst hbefore'
    rw [← hbehind'] at hinner
    simpa [unmark_labelsFrom] using hinner.labelsFrom_eq.2
  · rw [hpiece] at hends
    simp only [endsStatement, Bool.and_eq_true, endWord_readAll_padded hbefore hbehind] at hends
    simp only [endsStatement, hends.2]
    rfl

/-- **The statements of a text can be joined.** -/
theorem Pieces.joinable {ms : List Mark} {pieces : List (List Mark)}
    (h : Pieces triggerBlocks ms pieces) {s : State} (hlabels : Labelled .code ms s) :
    Joinable triggerBlocks (statementsOf (pieces.map unmark)) := by
  have hstatement : ∀ {piece : List Mark} {s : State}, Uncut triggerBlocks {} piece →
      Labelled .code piece s → strip (unmark piece) ≠ [] →
      IsStatement triggerBlocks (strip (unmark piece)) :=
    fun huncut hpiece hne => ⟨hne, strip_strip _, uncut_strip huncut hpiece.labelsFrom_eq.1⟩
  induction h with
  | @last piece uncut =>
      rw [List.map_singleton, statementsOf_singleton]
      by_cases hne : strip (unmark piece) = []
      · rw [if_pos hne]
        exact .nil
      · rw [if_neg hne]
        exact .last (hstatement uncut hlabels hne)
  | @cons piece m rest pieces uncut ends more ih =>
      obtain ⟨hpiece, hrest⟩ := hlabels.at_terminator (terminator_of_ends ends)
      rw [List.map_cons, ← List.singleton_append, statementsOf_append, statementsOf_singleton]
      by_cases hne : strip (unmark piece) = []
      · rw [if_pos hne]
        exact ih hrest
      · rw [if_neg hne]
        exact .cons (hstatement uncut hpiece hne) (finished_strip hpiece ends) (ih hrest)

/-- The statements of a text, joined with terminators, are its statements again. -/
theorem splitStatements_intercalate (text : List Char) :
    splitStatements (List.intercalate [';'] (splitStatements text triggerBlocks)) triggerBlocks
      = splitStatements text triggerBlocks := by
  obtain ⟨pieces, hpieces⟩ := exists_pieces triggerBlocks (labelsFrom .code text)
  have hjoinable : Joinable triggerBlocks (splitStatements text triggerBlocks) := by
    rw [Script.splitStatements_eq, hpieces.segments_eq]
    exact hpieces.joinable (labelled_labelsFrom text .code)
  exact hjoinable.splitStatements_intercalate

end

/-! ## §4. The statements of a script. -/

/-- **The statements of a script are stable and can be joined again.**  Each of them is not
empty, has no white space at its ends, is trimmed to itself and cut to itself; and joined
with terminators they are cut to the same statements. -/
theorem splitScript_rejoin (text : List Char) (triggerBlocks : Bool) :
    (∀ statement ∈ splitScript text triggerBlocks,
        statement ≠ []
          ∧ (∀ c ∈ statement.head?, isBlank c = false)
          ∧ (∀ c ∈ statement.getLast?, isBlank c = false)
          ∧ trimLines statement = statement
          ∧ splitStatements statement triggerBlocks = [statement])
      ∧ splitStatements (List.intercalate [';'] (splitScript text triggerBlocks)) triggerBlocks
          = splitScript text triggerBlocks := by
  refine ⟨fun statement hmem => ?_, splitStatements_intercalate _⟩
  have hstatement := isStatement_of_mem hmem
  exact ⟨hstatement.ne_nil, hstatement.head?, hstatement.getLast?,
    trimLines_of_tidy (tidy_of_mem hmem), hstatement.splitStatements_eq⟩

/-- A trigger keeps the terminator in its block and the line break behind it, and the
literal that is never closed loses the white space at its end. -/
theorem splitScript_rejoin_open_literal :
    "create trigger t begin a;\n end".toList
        ∈ splitScript "create trigger t begin a; --'\n\n end;;/*;*/ b ;'c; \n".toList true
      ∧ (trimLines "create trigger t begin a;\n end".toList
            = "create trigger t begin a;\n end".toList
        ∧ splitStatements "create trigger t begin a;\n end".toList true
            = ["create trigger t begin a;\n end".toList])
      ∧ splitStatements (List.intercalate [';']
            ["create trigger t begin a;\n end".toList, "b".toList, "'c;".toList]) true
          = ["create trigger t begin a;\n end".toList, "b".toList, "'c;".toList] := by
  have hsplit : splitScript "create trigger t begin a; --'\n\n end;;/*;*/ b ;'c; \n".toList true
      = ["create trigger t begin a;\n end".toList, "b".toList, "'c;".toList] := by
    decide +kernel
  obtain ⟨hstable, hjoin⟩ :=
    splitScript_rejoin "create trigger t begin a; --'\n\n end;;/*;*/ b ;'c; \n".toList true
  rw [hsplit] at hstable hjoin ⊢
  obtain ⟨-, -, -, htrim, hsingle⟩ := hstable _ List.mem_cons_self
  exact ⟨List.mem_cons_self, ⟨htrim, hsingle⟩, hjoin⟩

end SqlStatements.Script
