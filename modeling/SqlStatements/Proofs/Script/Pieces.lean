/-
  SqlStatements.Proofs.Script.Pieces
  ──────────────────────────────────
  **The statements of a text one after the other.**

  A statement ends only where no block is open, so at its end all that was remembered of
  it is forgotten: the text behind a cut is read as a text of its own.  The pieces of a
  text are therefore found one by one (`Pieces`), each uncut in itself, and a fact about
  all statements is an induction from the first piece to the last.

  Blank characters end a word and are nothing else to the reading.  At the two ends of a
  text they belong to the first and the last piece, which lose them again.

  Main results:

    • `exists_pieces`, `Pieces.segments_eq` — every text has pieces: its segments,
    • `statementsOf_padded`   — blank ends change no statement,
    • `splitStatements_strip` — so a text may be stripped before it is cut.
-/
import SqlStatements.Proofs.Script.Passes

namespace SqlStatements.Script

open Lexical Text

section
variable {triggerBlocks : Bool}

/-! ## §1. The first cut. -/

/-- The label of a terminator. -/
def semicolon : Mark := ⟨';', .code, true, false⟩

/-- **At the end of a statement everything is forgotten**: no block is open there. -/
theorem readingAfter_of_ends {r : Reading} {m : Mark} (h : endsStatement r m = true) :
    readingAfter triggerBlocks r m = {} := by
  have hdepth : r.endWord.depth = 0 := by
    simp only [endsStatement, Bool.and_eq_true, beq_iff_eq] at h
    exact h.2
  simp [readingAfter, h, Reading.nextStatement, hdepth]

/-- Behind a cut a text is cut as a text of its own. -/
theorem segments_append_of_ends {r : Reading} {xs : List Mark} {m : Mark}
    (h : endsStatement (readAll triggerBlocks r xs) m = true) (ys : List Mark) :
    segments triggerBlocks r (xs ++ m :: ys)
      = segments triggerBlocks r xs ++ segments triggerBlocks {} ys := by
  have hcut : cuts triggerBlocks (readAll triggerBlocks r xs) (m :: ys)
      = (m, true) :: cuts triggerBlocks {} ys := by
    show (m, endsStatement (readAll triggerBlocks r xs) m) :: cuts triggerBlocks _ ys = _
    rw [h, readingAfter_of_ends h]
  rw [segments_eq_cuts, cuts_append, hcut, List.splitOnP_append_cons _ _ rfl, List.map_append,
    ← segments_eq_cuts, ← segments_eq_cuts]

variable (triggerBlocks) in
/-- A text is uncut, or it has a first cut. -/
theorem uncut_or_exists_cut (ms : List Mark) (r : Reading) :
    Uncut triggerBlocks r ms
      ∨ ∃ piece m rest, ms = piece ++ m :: rest ∧ Uncut triggerBlocks r piece
          ∧ endsStatement (readAll triggerBlocks r piece) m = true := by
  induction ms generalizing r with
  | nil => exact .inl (uncut_nil triggerBlocks r)
  | cons m ms ih =>
      cases hm : endsStatement r m with
      | true => exact .inr ⟨[], m, ms, rfl, uncut_nil triggerBlocks r, hm⟩
      | false =>
          rcases ih (readingAfter triggerBlocks r m) with
            huncut | ⟨piece, m', rest, rfl, hpiece, hm'⟩
          · exact .inl ((uncut_cons triggerBlocks).mpr ⟨hm, huncut⟩)
          · exact .inr ⟨m :: piece, m', rest, rfl, (uncut_cons triggerBlocks).mpr ⟨hm, hpiece⟩, hm'⟩

/-! ## §2. Pieces. -/

variable (triggerBlocks) in
/-- The pieces of a text, from the first to the last: a statement ends behind each piece
but the last, and in none of them. -/
inductive Pieces : List Mark → List (List Mark) → Prop where
  | last {piece : List Mark} (uncut : Uncut triggerBlocks {} piece) : Pieces piece [piece]
  | cons {piece : List Mark} {m : Mark} {rest : List Mark} {pieces : List (List Mark)}
      (uncut : Uncut triggerBlocks {} piece)
      (ends : endsStatement (readAll triggerBlocks {} piece) m = true)
      (more : Pieces rest pieces) : Pieces (piece ++ m :: rest) (piece :: pieces)

variable (triggerBlocks) in
/-- **Every text has pieces.** -/
theorem exists_pieces (ms : List Mark) : ∃ pieces, Pieces triggerBlocks ms pieces := by
  rcases uncut_or_exists_cut triggerBlocks ms {} with huncut | ⟨piece, m, rest, hms, huncut, hends⟩
  · exact ⟨[ms], .last huncut⟩
  · have hshorter : rest.length < ms.length := by
      simp only [hms, List.length_append, List.length_cons]
      omega
    obtain ⟨pieces, more⟩ := exists_pieces rest
    rw [hms]
    exact ⟨piece :: pieces, .cons huncut hends more⟩
termination_by ms.length

/-- **The segments of a text are its pieces.** -/
theorem Pieces.segments_eq {ms : List Mark} {pieces : List (List Mark)}
    (h : Pieces triggerBlocks ms pieces) : segments triggerBlocks {} ms = pieces.map unmark := by
  induction h with
  | last uncut => exact uncut.segments_eq
  | cons uncut ends more ih =>
      rw [segments_append_of_ends ends, uncut.segments_eq, ih]
      rfl

/-! ## §3. Blank characters. -/

/-- Letters and digits by their code points. -/
theorem toNat_of_isAlphanum {c : Char} (h : c.isAlphanum = true) :
    (65 ≤ c.toNat ∧ c.toNat ≤ 90 ∨ 97 ≤ c.toNat ∧ c.toNat ≤ 122)
      ∨ 48 ≤ c.toNat ∧ c.toNat ≤ 57 := by
  change ((decide (65 ≤ c.val ∧ c.val ≤ 90)
    || decide (97 ≤ c.val) && decide (c.val ≤ 122))
    || decide (48 ≤ c.val) && decide (c.val ≤ 57)) = true at h
  simp only [Bool.or_eq_true, Bool.and_eq_true, decide_eq_true_eq, UInt32.le_iff_toNat_le] at h
  exact h

/-- A blank character is part of no word. -/
theorem continuesWord_of_blank {c : Char} (h : isBlank c = true) : continuesWord c = false := by
  by_contra hword
  simp only [Bool.not_eq_false, continuesWord, Bool.or_eq_true, beq_iff_eq] at hword
  simp only [isBlank, Bool.or_eq_true, Bool.and_eq_true, decide_eq_true_eq, beq_iff_eq] at h
  rcases hword with (hword | rfl) | rfl
  · have hbounds := toNat_of_isAlphanum hword
    omega
  · simp at h
  · simp at h

/-- The characters that a word may begin with may also stand inside it. -/
theorem continuesWord_of_startsWord {c : Char} (h : startsWord c = true) :
    continuesWord c = true := by
  simp only [startsWord, Bool.or_eq_true] at h
  rcases h with h | h <;> simp [continuesWord, Char.isAlphanum, h]

/-- Whether a character may stand in a word where it is. -/
def inWord (m : Mark) : Bool :=
  m.state == .code && !m.terminator && continuesWord m.char

/-- Only characters that may stand in a word are taken for one. -/
theorem Reading.takes_eq_false {m : Mark} (h : inWord m = false) (r : Reading) :
    r.takes m = false := by
  cases htakes : r.takes m with
  | false => rfl
  | true =>
      simp only [Reading.takes, Bool.and_eq_true] at htakes
      obtain ⟨hcode, hchar⟩ := htakes
      have hword : continuesWord m.char = true := by
        split at hchar
        · exact continuesWord_of_startsWord hchar
        · exact hchar
      simp [inWord, hcode, hword] at h

theorem inWord_of_blank {m : Mark} (h : isBlank m.char = true) : inWord m = false := by
  simp [inWord, continuesWord_of_blank h]

/-! ## §4. Reading past what is in no word. -/

theorem readAll_append (r : Reading) (xs ys : List Mark) :
    readAll triggerBlocks r (xs ++ ys) = readAll triggerBlocks (readAll triggerBlocks r xs) ys :=
  List.foldl_append

/-- Marks that stand in no word and end no statement. -/
def Inert (ms : List Mark) : Prop :=
  ∀ m ∈ ms, inWord m = false ∧ m.terminator = false

theorem Inert.tail {m : Mark} {ms : List Mark} (h : Inert (m :: ms)) : Inert ms :=
  fun m' hm' => h m' (List.mem_cons_of_mem m hm')

theorem Reading.endWord_endWord (r : Reading) : r.endWord.endWord = r.endWord := by
  cases hword : r.word <;> simp [Reading.endWord, hword]

/-- All that reading past inert marks does is to end a word. -/
theorem readAll_inert {ms : List Mark} (h : Inert ms) (hne : ms ≠ []) (r : Reading) :
    readAll triggerBlocks r ms = if triggerBlocks then r.endWord else r := by
  have hstep : ∀ m, inWord m = false ∧ m.terminator = false → ∀ r : Reading,
      readingAfter triggerBlocks r m = if triggerBlocks then r.endWord else r := by
    rintro m ⟨hword, hterminator⟩ r
    unfold readingAfter Reading.read
    rw [endsStatement_of_not_terminator hterminator, r.takes_eq_false hword]
    rfl
  induction ms generalizing r with
  | nil => exact absurd rfl hne
  | cons m ms ih =>
      have hm := hstep m (h m List.mem_cons_self) r
      cases ms with
      | nil => exact hm
      | cons next more =>
          show readAll triggerBlocks (readingAfter triggerBlocks r m) (next :: more) = _
          rw [hm, ih h.tail (List.cons_ne_nil next more)]
          cases triggerBlocks with
          | true => exact r.endWord_endWord
          | false => rfl

/-- Behind inert marks the same words have been read. -/
theorem endWord_readAll_inert {ms : List Mark} (h : Inert ms) (r : Reading) :
    (readAll triggerBlocks r ms).endWord = r.endWord := by
  rcases eq_or_ne ms [] with rfl | hne
  · rfl
  · rw [readAll_inert h hne]
    cases triggerBlocks with
    | true => exact r.endWord_endWord
    | false => rfl

/-- Behind inert marks a text is read as from its beginning. -/
theorem readAll_inert_start {ms : List Mark} (h : Inert ms) : readAll triggerBlocks {} ms = {} := by
  rcases eq_or_ne ms [] with rfl | hne
  · rfl
  · rw [readAll_inert h hne]
    cases triggerBlocks <;> rfl

/-- Without trigger blocks nothing is remembered. -/
theorem readAll_off (ms : List Mark) : readAll false {} ms = {} := by
  induction ms with
  | nil => rfl
  | cons m ms ih =>
      have hstep : readingAfter false {} m = {} := by
        unfold readingAfter
        split <;> rfl
      show readAll false (readingAfter false {} m) ms = {}
      rw [hstep, ih]

/-- Without trigger blocks every terminator ends a statement. -/
theorem endsStatement_off (ms : List Mark) (m : Mark) :
    endsStatement (readAll false {} ms) m = m.terminator := by
  rw [readAll_off]
  exact Bool.and_true m.terminator

/-! ## §5. Blank ends. -/

theorem statementsOf_append (xs ys : List (List Char)) :
    statementsOf (xs ++ ys) = statementsOf xs ++ statementsOf ys := by
  unfold statementsOf
  rw [List.map_append, List.filter_append]

/-- Blank characters that end no statement. -/
def Padding (ms : List Mark) : Prop :=
  ∀ m ∈ ms, isBlank m.char = true ∧ m.terminator = false

theorem Padding.inert {ms : List Mark} (h : Padding ms) : Inert ms :=
  fun m hm => ⟨inWord_of_blank (h m hm).1, (h m hm).2⟩

theorem Padding.unmark_blank {ms : List Mark} (h : Padding ms) :
    ∀ c ∈ unmark ms, isBlank c = true :=
  allBlank_iff_unmark.mp fun m hm => (h m hm).1

/-- Where only a `;` is a terminator, no blank character is one. -/
theorem AllBlank.padding {ms : List Mark} (h : AllBlank ms)
    (hsemi : ∀ m ∈ ms, m.terminator = true → m.char = ';') : Padding ms := by
  intro m hm
  refine ⟨h m hm, ?_⟩
  cases hterminator : m.terminator with
  | false => rfl
  | true =>
      have hblank := h m hm
      rw [hsemi m hm hterminator] at hblank
      exact absurd hblank (by decide)

/-- Padding around a text leaves no trace in what has been read of it. -/
theorem endWord_readAll_padded {before behind : List Mark} (hbefore : Padding before)
    (hbehind : Padding behind) (ms : List Mark) :
    (readAll triggerBlocks {} (before ++ ms ++ behind)).endWord
      = (readAll triggerBlocks {} ms).endWord := by
  rw [readAll_append, readAll_append, endWord_readAll_inert hbehind.inert,
    readAll_inert_start hbefore.inert]

/-- A single segment is a statement, unless it is blank. -/
theorem statementsOf_singleton (segment : List Char) :
    statementsOf [segment] = if strip segment = [] then [] else [strip segment] := by
  by_cases h : strip segment = [] <;> simp [statementsOf, h]

/-- Padding before a text goes to its first piece, which is stripped of it. -/
theorem statementsOf_padding_append {before : List Mark} (h : Padding before) (ms : List Mark) :
    statementsOf (segments triggerBlocks {} (before ++ ms))
      = statementsOf (segments triggerBlocks {} ms) := by
  obtain ⟨first, after, hms⟩ :=
    List.exists_cons_of_ne_nil (segments_ne_nil triggerBlocks {} ms)
  have hstart : segments triggerBlocks (readAll triggerBlocks {} before) ms = first :: after := by
    rw [readAll_inert_start h.inert, hms]
  rw [segments_append_of_none triggerBlocks (fun m hm => (h m hm).2) hstart, hms]
  unfold statementsOf
  rw [List.map_cons, List.map_cons, strip_blank_append h.unmark_blank]

/-- Padding behind a text goes to its last piece, which is stripped of it. -/
theorem statementsOf_append_padding {behind : List Mark} (h : Padding behind) (ms : List Mark) :
    statementsOf (segments triggerBlocks {} (ms ++ behind))
      = statementsOf (segments triggerBlocks {} ms) := by
  obtain ⟨before, last, hms, -, happend⟩ := exists_segments_append triggerBlocks {} ms
  have hbehind := segments_of_none triggerBlocks (readAll triggerBlocks {} ms)
    fun m hm => (h m hm).2
  rw [happend behind _ _ hbehind, hms]
  unfold statementsOf
  rw [List.map_append, List.map_append, List.map_singleton, List.map_singleton,
    strip_append_blank _ h.unmark_blank]

/-- **Padding around a text changes none of its statements.** -/
theorem statementsOf_padded {before behind : List Mark} (hbefore : Padding before)
    (hbehind : Padding behind) (ms : List Mark) :
    statementsOf (segments triggerBlocks {} (before ++ ms ++ behind))
      = statementsOf (segments triggerBlocks {} ms) := by
  rw [statementsOf_append_padding hbehind, statementsOf_padding_append hbefore]

end

theorem padding_labelsFrom {text : List Char} (h : ∀ c ∈ text, isBlank c = true) (s : State) :
    Padding (labelsFrom s text) := by
  have hblank : AllBlank (labelsFrom s text) := by
    rw [allBlank_iff_unmark, unmark_labelsFrom]
    exact h
  exact hblank.padding (labelled_labelsFrom text s).char_of_terminator

/-- What is stripped off a text is padding around its labels. -/
theorem exists_labelsFrom_strip (text : List Char) :
    ∃ before behind, Padding before ∧ Padding behind
      ∧ labelsFrom .code text = before ++ labelsFrom .code (strip text) ++ behind := by
  obtain ⟨left, right, htext, hleft, hright⟩ := exists_strip_append text
  refine ⟨_, _, padding_labelsFrom hleft .code,
    padding_labelsFrom hright (stateAfter .code (strip text)), ?_⟩
  conv => lhs; rw [htext]
  rw [labelsFrom_append, labelsFrom_append, stateAfter_append, stateAfter_blank hleft]

/-- **A text may be stripped before it is cut into statements.** -/
theorem splitStatements_strip (text : List Char) (triggerBlocks : Bool) :
    splitStatements (strip text) triggerBlocks = splitStatements text triggerBlocks := by
  obtain ⟨before, behind, hbefore, hbehind, hlabels⟩ := exists_labelsFrom_strip text
  rw [splitStatements_eq, splitStatements_eq, hlabels, statementsOf_padded hbefore hbehind]

/-! ## §6. The statements of a text. -/

/-- Pieces of a text are uncut, and read from code. -/
theorem Pieces.uncut_labelled {triggerBlocks : Bool} {ms : List Mark} {pieces : List (List Mark)}
    (h : Pieces triggerBlocks ms pieces) {s : State} (hlabels : Labelled .code ms s) :
    ∀ piece ∈ pieces, Uncut triggerBlocks {} piece ∧ ∃ s', Labelled .code piece s' := by
  induction h with
  | last uncut =>
      intro piece hpiece
      obtain rfl := List.mem_singleton.mp hpiece
      exact ⟨uncut, s, hlabels⟩
  | cons uncut ends more ih =>
      intro piece hpiece
      obtain ⟨hfirst, hrest⟩ := hlabels.at_terminator (terminator_of_ends ends)
      rcases List.mem_cons.mp hpiece with rfl | hpiece
      · exact ⟨uncut, .code, hfirst⟩
      · exact ih hrest piece hpiece

/-- Pieces of a text are parts of it. -/
theorem Pieces.infix_of_mem {triggerBlocks : Bool} {ms : List Mark} {pieces : List (List Mark)}
    (h : Pieces triggerBlocks ms pieces) : ∀ piece ∈ pieces, piece <:+: ms := by
  induction h with
  | last uncut =>
      intro piece hpiece
      obtain rfl := List.mem_singleton.mp hpiece
      exact List.infix_refl piece
  | @cons first m rest pieces uncut ends more ih =>
      intro piece hpiece
      rcases List.mem_cons.mp hpiece with rfl | hpiece
      · exact (List.prefix_append piece (m :: rest)).isInfix
      · have hsuffix : rest <:+ first ++ m :: rest :=
          (List.suffix_cons m rest).trans (List.suffix_append first (m :: rest))
        exact (ih piece hpiece).trans hsuffix.isInfix

/-- A statement is a piece of its text, stripped. -/
theorem exists_piece {text statement : List Char} {triggerBlocks : Bool}
    (h : statement ∈ splitStatements text triggerBlocks) :
    statement ≠ [] ∧ ∃ piece, Uncut triggerBlocks {} piece
      ∧ piece <:+: labelsFrom .code text
      ∧ labelsFrom .code (unmark piece) = piece ∧ statement = strip (unmark piece) := by
  obtain ⟨pieces, hpieces⟩ := exists_pieces triggerBlocks (labelsFrom .code text)
  rw [splitStatements_eq, hpieces.segments_eq] at h
  obtain ⟨hmem, hne⟩ := List.mem_filter.mp h
  rw [List.map_map] at hmem
  obtain ⟨piece, hpiece, rfl⟩ := List.mem_map.mp hmem
  obtain ⟨huncut, s, hlabels⟩ :=
    hpieces.uncut_labelled (labelled_labelsFrom text .code) piece hpiece
  exact ⟨by simpa using hne, piece, huncut, hpieces.infix_of_mem piece hpiece,
    hlabels.labelsFrom_eq.1, rfl⟩

/-- A stripped piece is uncut: the padding in front of it leaves no trace. -/
theorem uncut_strip {triggerBlocks : Bool} {piece : List Mark}
    (huncut : Uncut triggerBlocks {} piece) (hlabels : labelsFrom .code (unmark piece) = piece) :
    Uncut triggerBlocks {} (labelsFrom .code (strip (unmark piece))) := by
  obtain ⟨before, behind, hbefore, -, hpiece⟩ := exists_labelsFrom_strip (unmark piece)
  rw [← hlabels, hpiece, uncut_append, uncut_append, readAll_inert_start hbefore.inert] at huncut
  exact huncut.1.2

/-- **A statement is stripped, and no statement ends in it.** -/
theorem uncut_of_mem {text statement : List Char} {triggerBlocks : Bool}
    (h : statement ∈ splitStatements text triggerBlocks) :
    Uncut triggerBlocks {} (labelsFrom .code statement) ∧ strip statement = statement := by
  obtain ⟨-, piece, huncut, -, hlabels, rfl⟩ := exists_piece h
  exact ⟨uncut_strip huncut hlabels, strip_strip _⟩

/-- **A statement is labelled as it is in its text.** -/
theorem labelsFrom_infix_of_mem {text statement : List Char} {triggerBlocks : Bool}
    (h : statement ∈ splitStatements text triggerBlocks) :
    labelsFrom .code statement <:+: labelsFrom .code text := by
  obtain ⟨-, piece, -, hinfix, hlabels, rfl⟩ := exists_piece h
  obtain ⟨before, behind, -, -, hpiece⟩ := exists_labelsFrom_strip (unmark piece)
  rw [hlabels] at hpiece
  exact List.IsInfix.trans ⟨before, behind, hpiece.symm⟩ hinfix

/-- A statement in which no statement ends is not cut any more. -/
theorem splitStatements_of_uncut {statement : List Char} {triggerBlocks : Bool}
    (huncut : Uncut triggerBlocks {} (labelsFrom .code statement))
    (hstrip : strip statement = statement) (hne : statement ≠ []) :
    splitStatements statement triggerBlocks = [statement] := by
  rw [splitStatements_eq, huncut.segments_eq, unmark_labelsFrom, statementsOf_singleton, hstrip,
    if_neg hne]

end SqlStatements.Script
