/-
  SqlStatements.Proofs.Script.Joining
  ───────────────────────────────────
  **Keeping trigger blocks only joins statements, and only those of trigger definitions.**

  The cuts with trigger blocks are some of the terminators, so each statement is a run of
  the statements without them, and falls apart into these when it is cut once more.  At a
  terminator that is no cut a block is open, so the words before it begin a trigger
  definition; they stand before the first terminator of the statement already.  A script
  in which no statement begins in such a way is cut alike by both settings.

  Main results:

    • `flatMap_splitStatements`       — cutting the statements once more,
    • `definesTrigger_of_terminator`  — terminators are kept in trigger definitions only,
    • `flatMap_splitStatements_eq`    — both, and the scripts without trigger definitions.
-/
import SqlStatements.Proofs.Script.Triggers

namespace SqlStatements.Script

open Lexical Text

/-! ## §1. Cutting once more. -/

/-- What is left of a segment is cut as the segment is. -/
theorem flatMap_statementsOf_singleton (segment : List Char) (triggerBlocks : Bool) :
    (statementsOf [segment]).flatMap (splitStatements · triggerBlocks)
      = splitStatements segment triggerBlocks := by
  rw [statementsOf_singleton, ← splitStatements_strip segment]
  by_cases hblank : strip segment = []
  · have hnil : splitStatements [] triggerBlocks = [] := by cases triggerBlocks <;> rfl
    rw [if_pos hblank, hblank, hnil]
    rfl
  · rw [if_neg hblank]
    exact List.append_nil _

/-- The statements of pieces, each cut at all its terminators.  The induction is on the
pieces, each of which is read from code. -/
theorem flatMap_statementsOf_pieces {ms : List Mark} {pieces : List (List Mark)}
    (h : Pieces true ms pieces) {s : State} (hlabels : Labelled .code ms s) :
    (statementsOf (pieces.map unmark)).flatMap (splitStatements · false)
      = statementsOf (segments false {} ms) := by
  induction h with
  | @last piece uncut =>
      rw [List.map_singleton, flatMap_statementsOf_singleton, splitStatements_eq,
        hlabels.labelsFrom_eq.1]
  | @cons piece m rest pieces uncut ends more ih =>
      have hm := terminator_of_ends ends
      obtain ⟨hpiece, hrest⟩ := hlabels.at_terminator hm
      have hcut : endsStatement (readAll false {} piece) m = true :=
        (endsStatement_off piece m).trans hm
      have hfirst : (statementsOf [unmark piece]).flatMap (splitStatements · false)
          = statementsOf (segments false {} piece) := by
        rw [flatMap_statementsOf_singleton, splitStatements_eq, hpiece.labelsFrom_eq.1]
      rw [List.map_cons, ← List.singleton_append, statementsOf_append, List.flatMap_append, hfirst,
        ih hrest, segments_append_of_ends hcut, statementsOf_append]

/-- **Cut once more without trigger blocks, the statements fall apart into those of the text.** -/
theorem flatMap_splitStatements (text : List Char) :
    (splitStatements text true).flatMap (splitStatements · false) = splitStatements text false := by
  obtain ⟨pieces, hpieces⟩ := exists_pieces true (labelsFrom .code text)
  rw [splitStatements_eq, splitStatements_eq, hpieces.segments_eq]
  exact flatMap_statementsOf_pieces hpieces (labelled_labelsFrom text .code)

/-! ## §2. Terminators that end no statement. -/

/-- Before a terminator at which no statement ends stand the words of a trigger definition. -/
theorem opensTrigger_before {before after : List Mark} {m : Mark}
    (h : Uncut true {} (before ++ m :: after)) (hm : m.terminator = true) :
    opensTrigger (wordsRead [] before) = true :=
  opensTrigger_of_blockDepth (h.blockDepth_ne_zero hm)

/-- A text in which no statement ends begins a trigger definition if it has a terminator. -/
theorem definesTrigger_of_uncut {text : List Char} (h : Uncut true {} (labelsFrom .code text))
    {m : Mark} (hmem : m ∈ labelsFrom .code text) (hm : m.terminator = true) :
    DefinesTrigger text := by
  obtain ⟨before, after, hlabels⟩ := List.append_of_mem hmem
  rw [hlabels] at h
  have hbreak : inWord m = false := by simp [inWord, hm]
  have hwords : wordsRead [] before <+: codeWords text := by
    rw [codeWords_eq, hlabels, wordsRead_append (by simpa using hbreak)]
    exact List.prefix_append _ _
  exact opensTrigger_iff.mp (opensTrigger_mono hwords (opensTrigger_before h hm))

/-- **A statement with a terminator begins as a trigger definition does.** -/
theorem definesTrigger_of_terminator {text statement : List Char}
    (h : statement ∈ splitStatements text true)
    (hterminator : ∃ s ∈ scan false statement .code, s.terminator = true) :
    DefinesTrigger statement := by
  obtain ⟨m, hmem, hm⟩ := (exists_terminator_iff statement).mp hterminator
  exact definesTrigger_of_uncut (uncut_of_mem h).1 hmem hm

/-! ## §3. Scripts without trigger definitions. -/

/-- The words of a trigger definition stand before the first terminator that is kept, so
the first of the statements that the definition falls apart into begins with them. -/
theorem exists_definesTrigger {text : List Char} (h : Uncut true {} (labelsFrom .code text))
    (hterminator : ¬ Uncut false {} (labelsFrom .code text)) :
    ∃ statement ∈ splitStatements text false, DefinesTrigger statement := by
  obtain huncut | ⟨before, m, after, hlabels, hbefore, hends⟩ :=
    uncut_or_exists_cut false (labelsFrom .code text) {}
  · exact absurd huncut hterminator
  have hm := terminator_of_ends hends
  have hread := (labelled_labelsFrom text .code)
  rw [hlabels] at h hread
  have hwords : codeWords (unmark before) = wordsRead [] before := by
    rw [codeWords_eq, (hread.at_terminator hm).1.labelsFrom_eq.1]
  have hdefines : DefinesTrigger (strip (unmark before)) := by
    unfold DefinesTrigger
    rw [codeWords_strip, hwords]
    exact opensTrigger_iff.mp (opensTrigger_before h hm)
  have hne : strip (unmark before) ≠ [] := by
    intro hnil
    rw [hnil] at hdefines
    exact absurd hdefines (by decide)
  refine ⟨strip (unmark before), ?_, hdefines⟩
  rw [splitStatements_eq, hlabels, segments_append_of_ends hends, hbefore.segments_eq,
    statementsOf_append, statementsOf_singleton, if_neg hne]
  exact List.mem_append_left _ List.mem_cons_self

/-- **Keeping trigger blocks only joins statements, and only those of trigger definitions.**
Cut once more, the statements with trigger blocks fall apart into those without; one that
holds a terminator begins as a trigger definition does; and where none of those without
begins so, the two settings agree. -/
theorem flatMap_splitStatements_eq (text : List Char) :
    (splitStatements text true).flatMap (splitStatements · false) = splitStatements text false
      ∧ (∀ statement ∈ splitStatements text true,
          (∃ s ∈ scan false statement .code, s.terminator = true) → DefinesTrigger statement)
      ∧ ((∀ statement ∈ splitStatements text false, ¬ DefinesTrigger statement) →
          splitStatements text true = splitStatements text false) := by
  refine ⟨flatMap_splitStatements text, fun _ h => definesTrigger_of_terminator h, fun hnone => ?_⟩
  -- no statement holds a terminator, so each of them is left as it is
  have hsame : ∀ statement ∈ splitStatements text true,
      splitStatements statement false = [statement] := by
    intro statement h
    obtain ⟨huncut, hstrip⟩ := uncut_of_mem h
    refine splitStatements_of_uncut ?_ hstrip (exists_piece h).1
    by_contra hterminator
    obtain ⟨part, hpart, hdefines⟩ := exists_definesTrigger huncut hterminator
    refine hnone part ?_ hdefines
    rw [← flatMap_splitStatements text]
    exact List.mem_flatMap.mpr ⟨statement, h, hpart⟩
  calc splitStatements text true
      = (splitStatements text true).flatMap fun statement => [statement] :=
        (List.flatMap_singleton' _).symm
    _ = (splitStatements text true).flatMap (splitStatements · false) :=
        (List.flatMap_congr hsame).symm
    _ = splitStatements text false := flatMap_splitStatements text

/-- A trigger holds the terminator of its body.  Transactions, and a table with the name
of a trigger, are no trigger definitions. -/
theorem flatMap_splitStatements_eq_transaction :
    ("create temp trigger t begin a; end".toList
          ∈ splitStatements "create temp trigger t begin a; end; b".toList true
        ∧ (∃ s ∈ scan false "create temp trigger t begin a; end".toList .code,
            s.terminator = true)
        ∧ DefinesTrigger "create temp trigger t begin a; end".toList)
      ∧ ((∀ statement ∈ splitStatements "begin; create table trigger; case; end".toList false,
            ¬ DefinesTrigger statement)
        ∧ splitStatements "begin; create table trigger; case; end".toList true
            = splitStatements "begin; create table trigger; case; end".toList false) := by
  have hmem : "create temp trigger t begin a; end".toList
      ∈ splitStatements "create temp trigger t begin a; end; b".toList true := by
    decide +kernel
  have hterminator : ∃ s ∈ scan false "create temp trigger t begin a; end".toList .code,
      s.terminator = true := by decide +kernel
  have hnone : ∀ statement ∈ splitStatements "begin; create table trigger; case; end".toList false,
      ¬ DefinesTrigger statement := by decide +kernel
  exact ⟨⟨hmem, hterminator, (flatMap_splitStatements_eq _).2.1 _ hmem hterminator⟩,
    hnone, (flatMap_splitStatements_eq _).2.2 hnone⟩

end SqlStatements.Script
