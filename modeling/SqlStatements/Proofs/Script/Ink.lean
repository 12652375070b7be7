/-
  SqlStatements.Proofs.Script.Ink
  ───────────────────────────────
  **The ink of a script: all of it but the white space in code.**

  Trimming and stripping remove white space, and cutting removes terminators.  All that
  they may take from a script otherwise is the white space at the end of a literal that is
  still open there, for the last statement is stripped without looking at its literals.

  Main results:

    • `inkRuns_trimmed`, `ink_trimmed` — trimming takes no ink from a script, and what
                                  white space keeps apart stays apart,
    • `exists_thinned_pieces`   — cutting takes terminators, and blank ink at the end,
    • `statementsOf_pieces_eq_nil_iff` — a text without statements has no other ink.
-/
import SqlStatements.Proofs.Script.Pieces
import SqlStatements.Proofs.Script.Tidy

namespace SqlStatements.Script

open Lexical Text

/-! ## §1. Ink. -/

/-- Whether a character is more than white space: in a literal every character is. -/
def isInk (m : Mark) : Bool :=
  m.state.isQuoted || !isBlank m.char

/-- The ink of a text. -/
def ink (ms : List Mark) : List Mark := ms.filter isInk

@[simp] theorem ink_nil : ink [] = [] := rfl

@[simp] theorem ink_append (xs ys : List Mark) : ink (xs ++ ys) = ink xs ++ ink ys :=
  List.filter_append xs ys

theorem isInk_of_not_blank {m : Mark} (h : isBlank m.char = false) : isInk m = true := by
  simp [isInk, h]

theorem ink_cons_of_not_blank {m : Mark} (h : isBlank m.char = false) (ms : List Mark) :
    ink (m :: ms) = m :: ink ms :=
  List.filter_cons_of_pos (isInk_of_not_blank h)

theorem ink_eq_nil {ms : List Mark} (hblank : AllBlank ms) (hcode : ∀ m ∈ ms, m.state = .code) :
    ink ms = [] := by
  apply List.filter_eq_nil_iff.mpr
  intro m hm
  simp [isInk, hblank m hm, hcode m hm, State.isQuoted]

/-- White space that is read from code is no ink. -/
theorem ink_blank {ms : List Mark} {s : State} (h : Labelled .code ms s) (hblank : AllBlank ms) :
    ink ms = [] :=
  ink_eq_nil hblank (labelled_blank h hblank).2

/-- A text begins with white space up to its first character that is not blank. -/
theorem exists_first_of_not_allBlank {ms : List Mark} (h : ¬ AllBlank ms) :
    ∃ before m rest, ms = before ++ m :: rest ∧ AllBlank before ∧ isBlank m.char = false := by
  cases hfind : ms.find? (!isBlank ·.char) with
  | none =>
      refine absurd (fun m hm => ?_) h
      simpa using List.find?_eq_none.mp hfind m hm
  | some m =>
      obtain ⟨hm, before, rest, hms, hbefore⟩ := List.find?_eq_some_iff_append.mp hfind
      exact ⟨before, m, rest, hms, fun m' hm' => by simpa using hbefore m' hm', by simpa using hm⟩

/-! ## §2. Trimming. -/

/-- The runs of ink in a text: what white space in code keeps apart. -/
def inkRuns (ms : List Mark) : List (List Mark) :=
  (ms.splitOnP (!isInk ·)).filter (!·.isEmpty)

/-- The ink of a text is that of its runs. -/
theorem flatten_inkRuns (ms : List Mark) : (inkRuns ms).flatten = ink ms := by
  unfold inkRuns ink
  rw [List.flatten_filter_not_isEmpty, flatten_splitOnP]
  simp

/-- White space in code ends a run. -/
theorem inkRuns_append_cons {m : Mark} (h : isInk m = false) (xs ys : List Mark) :
    inkRuns (xs ++ m :: ys) = inkRuns xs ++ inkRuns ys := by
  unfold inkRuns
  rw [List.splitOnP_append_cons xs ys (by simp [h]), List.filter_append]

theorem of_ink_cons_eq_nil {m : Mark} {ms : List Mark} (h : ink (m :: ms) = []) :
    isInk m = false ∧ ink ms = [] := by
  cases hm : isInk m with
  | true => simp [ink, hm] at h
  | false => exact ⟨rfl, by simpa [ink, hm] using h⟩

theorem inkRuns_eq_nil {ms : List Mark} (h : ink ms = []) : inkRuns ms = [] := by
  induction ms with
  | nil => rfl
  | cons m ms ih =>
      obtain ⟨hm, hms⟩ := of_ink_cons_eq_nil h
      rw [← List.nil_append (m :: ms), inkRuns_append_cons hm, ih hms]
      rfl

/-- White space at the end of a text is in no run. -/
theorem inkRuns_append_of_no_ink (xs : List Mark) {ys : List Mark} (h : ink ys = []) :
    inkRuns (xs ++ ys) = inkRuns xs := by
  cases ys with
  | nil => rw [List.append_nil]
  | cons m ys =>
      obtain ⟨hm, hys⟩ := of_ink_cons_eq_nil h
      rw [inkRuns_append_cons hm, inkRuns_eq_nil hys, List.append_nil]

/-- A line feed between two lines is no ink, so lines that are joined keep their runs. -/
theorem inkRuns_intercalate (lines : List (List Mark)) :
    inkRuns (List.intercalate [lineFeed] lines) = lines.flatMap inkRuns := by
  induction lines with
  | nil => rfl
  | cons line lines ih =>
      by_cases hlines : lines = []
      · simp [hlines]
      · rw [List.intercalate_cons_of_ne_nil hlines, List.append_assoc, List.singleton_append,
          inkRuns_append_cons rfl, ih, List.flatMap_cons]

/-- What a line loses at its end is no ink. -/
theorem inkRuns_dropTrailing (line : List Mark) :
    inkRuns (dropTrailing isCodeTail line) = inkRuns line := by
  obtain ⟨tail, hline, htail⟩ := exists_dropTrailing_append isCodeTail line
  have hnil : ink tail = [] :=
    ink_eq_nil (fun m hm => (of_isCodeTail (htail m hm)).2)
      fun m hm => (of_isCodeTail (htail m hm)).1
  conv => rhs; rw [hline, inkRuns_append_of_no_ink _ hnil]

/-- Lines that are dropped are blank, and read from code. -/
theorem inkRuns_keptLines {lines : List (List Mark)} {s : State} (h : LabelledLines lines s) :
    ((lines.filter (!isBlankLine ·)).map (dropTrailing isCodeTail)).flatMap inkRuns
      = lines.flatMap inkRuns := by
  have hfirst : ∀ {line : List Mark} {s : State}, Labelled .code line s →
      (([line].filter (!isBlankLine ·)).map (dropTrailing isCodeTail)).flatMap inkRuns
        = inkRuns line := by
    intro line s hline
    cases hblank : isBlankLine line with
    | true =>
        rw [inkRuns_eq_nil (ink_blank hline (isBlankLine_iff.mp hblank))]
        simp [hblank]
    | false => simp [hblank, inkRuns_dropTrailing]
  induction h with
  | last hline => simpa using hfirst hline
  | cons hline rest ih =>
      rw [← List.singleton_append, List.filter_append, List.map_append, List.flatMap_append,
        List.flatMap_append, hfirst hline, ih]
      simp

/-- **Trimming takes no run of ink from a script, and neither joins nor splits two.** -/
theorem inkRuns_trimmed {ms : List Mark} {s : State} (h : Labelled .code ms s) :
    inkRuns (trimmed ms) = inkRuns ms := by
  calc inkRuns (trimmed ms)
      = (keptLines ms).flatMap inkRuns := inkRuns_intercalate (keptLines ms)
    _ = (codeLines ms).flatMap inkRuns := inkRuns_keptLines (labelledLines_codeLines h)
    _ = inkRuns (List.intercalate [lineFeed] (codeLines ms)) :=
        (inkRuns_intercalate (codeLines ms)).symm
    _ = inkRuns ms := by rw [intercalate_codeLines (eq_lineFeed_of_labelled h)]

/-- **Trimming takes no ink from a script.** -/
theorem ink_trimmed {ms : List Mark} {s : State} (h : Labelled .code ms s) :
    ink (trimmed ms) = ink ms := by
  rw [← flatten_inkRuns, inkRuns_trimmed h, flatten_inkRuns]

/-! ## §3. Stripping. -/

/-- The ink of a text without comments. -/
def inkOf (text : List Char) : List Mark := ink (labelsFrom .code text)

/-- **All ink that a text loses when it is stripped stands at its end, in an open literal.** -/
theorem exists_ink_strip {ms : List Mark} {s : State} (h : Labelled .code ms s) :
    ∃ lost, ink ms = inkOf (strip (unmark ms)) ++ lost ∧ AllBlank lost
      ∧ (s = .code → lost = []) := by
  obtain ⟨before, behind, hbefore, hbehind, hms⟩ := exists_labelsFrom_strip (unmark ms)
  rw [h.labelsFrom_eq.1] at hms
  rw [hms] at h
  obtain ⟨s₂, hfront, hback⟩ := h.of_append
  obtain ⟨s₁, hfirst, -⟩ := hfront.of_append
  have hbefore' : AllBlank before := fun m hm => (hbefore m hm).1
  have hbehind' : AllBlank behind := fun m hm => (hbehind m hm).1
  refine ⟨ink behind, ?_, fun m hm => hbehind' m (List.mem_of_mem_filter hm), ?_⟩
  · conv => lhs; rw [hms, ink_append, ink_append, ink_blank hfirst hbefore', List.nil_append]
    rfl
  · -- white space changes no state, so it stands in code if the text ends there
    rintro rfl
    obtain ⟨hstate, hcode⟩ := labelled_blank hback hbehind'
    exact ink_eq_nil hbehind' fun m hm => (hcode m hm).trans hstate.symm

/-- The ink of a statement is that of its segment, stripped. -/
theorem inkOf_statementsOf_singleton (segment : List Char) :
    (statementsOf [segment]).flatMap inkOf = inkOf (strip segment) := by
  rw [statementsOf_singleton]
  by_cases hblank : strip segment = []
  · rw [if_pos hblank, hblank]
    rfl
  · rw [if_neg hblank]
    exact List.append_nil _

/-! ## §4. Cutting. -/

/-- A list without some of its terminators. -/
inductive Thinned : List Mark → List Mark → Prop where
  | nil : Thinned [] []
  | keep {xs ys : List Mark} (m : Mark) (h : Thinned xs ys) : Thinned (m :: xs) (m :: ys)
  | drop {xs ys : List Mark} {m : Mark} (hm : m.terminator = true) (h : Thinned xs ys) :
      Thinned xs (m :: ys)

theorem Thinned.append_left {xs ys : List Mark} (h : Thinned xs ys) :
    ∀ ms : List Mark, Thinned (ms ++ xs) (ms ++ ys)
  | [] => h
  | m :: ms => .keep m (h.append_left ms)

theorem Thinned.refl (ms : List Mark) : Thinned ms ms := by
  simpa using Thinned.nil.append_left ms

/-- Before the first terminator nothing is left out. -/
theorem Thinned.of_append {xs ms ys : List Mark} (h : Thinned xs (ms ++ ys))
    (hms : ∀ m ∈ ms, m.terminator = false) : ∃ rest, xs = ms ++ rest ∧ Thinned rest ys := by
  induction ms generalizing xs with
  | nil => exact ⟨xs, rfl, h⟩
  | cons m ms ih =>
      obtain ⟨hm, hms⟩ := List.forall_mem_cons.mp hms
      cases h with
      | keep _ h =>
          obtain ⟨rest, rfl, hrest⟩ := ih h hms
          exact ⟨rest, rfl, hrest⟩
      | drop hm' _ => exact absurd hm' (by simp [hm])

section
variable {triggerBlocks : Bool}

/-- A terminator behind which a text is cut is ink of its own. -/
theorem ink_at_terminator {piece rest : List Mark} {m : Mark} {s : State}
    (h : Labelled .code (piece ++ m :: rest) s) (hm : m.terminator = true) :
    ink (piece ++ m :: rest) = ink piece ++ m :: ink rest := by
  have hchar : m.char = ';' := h.char_of_terminator m (by simp) hm
  rw [ink_append, ink_cons_of_not_blank (by rw [hchar]; rfl)]

/-- **Cutting a text takes only terminators from its ink**, and white space at its end. -/
theorem exists_thinned_pieces {ms : List Mark} {pieces : List (List Mark)}
    (h : Pieces triggerBlocks ms pieces) {s : State} (hlabels : Labelled .code ms s) :
    ∃ lost, Thinned ((statementsOf (pieces.map unmark)).flatMap inkOf ++ lost) (ink ms)
      ∧ lost <:+ ink ms ∧ AllBlank lost := by
  induction h with
  | @last piece uncut =>
      obtain ⟨lost, hink, hblank, -⟩ := exists_ink_strip hlabels
      refine ⟨lost, ?_, hink ▸ List.suffix_append _ lost, hblank⟩
      rw [List.map_singleton, inkOf_statementsOf_singleton, hink]
      exact .refl _
  | @cons piece m rest pieces uncut ends more ih =>
      have hm := terminator_of_ends ends
      obtain ⟨hpiece, hrest⟩ := hlabels.at_terminator hm
      obtain ⟨lost, hthinned, hsuffix, hblank⟩ := ih hrest
      -- the piece ends in code, so stripping takes no ink from it
      obtain ⟨none, hink, -, hnone⟩ := exists_ink_strip hpiece
      rw [hnone rfl, List.append_nil] at hink
      rw [ink_at_terminator hlabels hm, hink]
      refine ⟨lost, ?_, hsuffix.trans (List.suffix_append_of_suffix (List.suffix_cons m _)), hblank⟩
      rw [List.map_cons, ← List.singleton_append, statementsOf_append, List.flatMap_append,
        inkOf_statementsOf_singleton, List.append_assoc]
      exact (Thinned.drop hm hthinned).append_left _

/-- A piece is no statement if and only if it has no ink but terminators: one that begins
with a terminator would have ended there. -/
theorem strip_eq_nil_iff_ink {piece : List Mark} (huncut : Uncut triggerBlocks {} piece) {s : State}
    (h : Labelled .code piece s) :
    strip (unmark piece) = [] ↔ ∀ m ∈ ink piece, m.terminator = true := by
  rw [strip_eq_nil_iff, ← allBlank_iff_unmark]
  constructor
  · intro hblank
    simp [ink_blank h hblank]
  · intro hall
    by_contra hblank
    obtain ⟨before, m, rest, rfl, hbefore, hm⟩ := exists_first_of_not_allBlank hblank
    have hterminator : m.terminator = true :=
      hall m (List.mem_filter.mpr ⟨by simp, isInk_of_not_blank hm⟩)
    have hpadding : Padding before :=
      hbefore.padding fun m' hm' => h.char_of_terminator m' (by simp [hm'])
    rw [uncut_append, readAll_inert_start hpadding.inert, uncut_cons] at huncut
    have hends : endsStatement {} m = true := by
      unfold endsStatement
      rw [hterminator]
      rfl
    exact absurd hends (by simp [huncut.2.1])

/-- **A text has no statement if and only if it has no ink but terminators.** -/
theorem statementsOf_pieces_eq_nil_iff {ms : List Mark} {pieces : List (List Mark)}
    (h : Pieces triggerBlocks ms pieces) {s : State} (hlabels : Labelled .code ms s) :
    statementsOf (pieces.map unmark) = [] ↔ ∀ m ∈ ink ms, m.terminator = true := by
  have hsingle : ∀ segment, statementsOf [segment] = [] ↔ strip segment = [] := by
    intro segment
    rw [statementsOf_singleton]
    by_cases hblank : strip segment = [] <;> simp [hblank]
  induction h with
  | last uncut => rw [List.map_singleton, hsingle, strip_eq_nil_iff_ink uncut hlabels]
  | @cons piece m rest pieces uncut ends more ih =>
      have hm := terminator_of_ends ends
      obtain ⟨hpiece, hrest⟩ := hlabels.at_terminator hm
      have hfirst : statementsOf [unmark piece] = [] ↔ ∀ m ∈ ink piece, m.terminator = true :=
        (hsingle _).trans (strip_eq_nil_iff_ink uncut hpiece)
      rw [List.map_cons, ← List.singleton_append, statementsOf_append, List.append_eq_nil_iff,
        ink_at_terminator hlabels hm, List.forall_mem_append, List.forall_mem_cons]
      exact and_congr hfirst ((ih hrest).trans (and_iff_right hm).symm)

/-! ## §5. Stretches that stay together. -/

/-- A stretch without terminators stands in one piece of its text. -/
theorem Pieces.exists_infix {ms : List Mark} {pieces : List (List Mark)}
    (h : Pieces triggerBlocks ms pieces) {stretch : List Mark} (hstretch : stretch <:+: ms)
    (hnone : ∀ m ∈ stretch, m.terminator = false) : ∃ piece ∈ pieces, stretch <:+: piece := by
  induction h with
  | last uncut => exact ⟨_, List.mem_singleton_self _, hstretch⟩
  | @cons piece m rest pieces uncut ends more ih =>
      have hm : m ∉ stretch := by
        intro hmem
        exact absurd (terminator_of_ends ends) (by simp [hnone m hmem])
      rcases infix_of_infix_append_cons hm hstretch with hpiece | hrest
      · exact ⟨piece, List.mem_cons_self, hpiece⟩
      · obtain ⟨piece', hmem, hpiece'⟩ := ih hrest
        exact ⟨piece', List.mem_cons_of_mem piece hmem, hpiece'⟩

end

end SqlStatements.Script
