/-
  SqlStatements.Proofs.Script.Passes
  ──────────────────────────────────
  **The three passes over a script as one function of its labels.**

  Each pass scans the text that the pass before it has left.  The labels go through all
  of them: what is left without the comments, and what is left of that after trimming, is
  labelled as it was in the script.  So the statements of a script can be read off the
  labels of its one scan (`splitScript_eq`).

  The cuts are found from left to right.  `cuts` says of every mark whether a statement
  ends at it, and the segments are the pieces between those marks, so a script may be cut
  in parts with the reading of the first part handed on to the second.

  Main results:

    • `exists_segments_append` — cutting in parts,
    • `labelsFrom_trimLines`   — a trimmed text is labelled as it was,
    • `splitScript_eq`         — the three passes from one scan.
-/
import SqlStatements.Script.Statements
import SqlStatements.Proofs.Script.CommentRemoval
import SqlStatements.Proofs.Script.Trimming

namespace SqlStatements.Script

open Lexical Text

/-! ## §1. Cuts. -/

/-- The marks of a text, each with whether a statement ends at it. -/
def cuts (triggerBlocks : Bool) (r : Reading) : List Mark → List (Mark × Bool)
  | [] => []
  | m :: rest => (m, endsStatement r m) :: cuts triggerBlocks (readingAfter triggerBlocks r m) rest

/-- What is remembered after all marks of a text. -/
def readAll (triggerBlocks : Bool) (r : Reading) (ms : List Mark) : Reading :=
  ms.foldl (readingAfter triggerBlocks) r

/-- `last` is the end of a text, from its beginning or from behind a terminator on. -/
def EndsWith (ms last : List Mark) : Prop :=
  ms = last ∨ ∃ front m, m.terminator = true ∧ ms = front ++ m :: last

theorem endsStatement_of_not_terminator {m : Mark} (h : m.terminator = false) (r : Reading) :
    endsStatement r m = false := by
  simp [endsStatement, h]

/-- A statement ends at terminators only. -/
theorem terminator_of_ends {r : Reading} {m : Mark} (h : endsStatement r m = true) :
    m.terminator = true := by
  simp only [endsStatement, Bool.and_eq_true] at h
  exact h.1

section
variable (triggerBlocks : Bool)

theorem cuts_append (r : Reading) (xs ys : List Mark) :
    cuts triggerBlocks r (xs ++ ys)
      = cuts triggerBlocks r xs ++ cuts triggerBlocks (readAll triggerBlocks r xs) ys := by
  induction xs generalizing r with
  | nil => rfl
  | cons m xs ih =>
      show (m, endsStatement r m) :: cuts triggerBlocks (readingAfter triggerBlocks r m) (xs ++ ys)
        = _
      rw [ih]
      rfl

theorem cuts_fst (r : Reading) (ms : List Mark) : (cuts triggerBlocks r ms).map (·.1) = ms := by
  induction ms generalizing r with
  | nil => rfl
  | cons m ms ih => exact congrArg (m :: ·) (ih _)

theorem terminator_of_mem_cuts {r : Reading} {ms : List Mark} {cut : Mark × Bool}
    (h : cut ∈ cuts triggerBlocks r ms) (hcut : cut.2 = true) : cut.1.terminator = true := by
  induction ms generalizing r with
  | nil => simp [cuts] at h
  | cons m ms ih =>
      rcases List.mem_cons.mp h with rfl | h
      · exact terminator_of_ends hcut
      · exact ih h

/-- The segments are the pieces between the cuts. -/
theorem segments_eq_cuts (r : Reading) (ms : List Mark) :
    segments triggerBlocks r ms
      = ((cuts triggerBlocks r ms).splitOnP (·.2)).map fun piece => unmark (piece.map (·.1)) := by
  induction ms generalizing r with
  | nil => rfl
  | cons m ms ih =>
      obtain ⟨x, xs, hx⟩ := List.exists_cons_of_ne_nil
        (List.splitOnP_ne_nil (·.2) (cuts triggerBlocks (readingAfter triggerBlocks r m) ms))
      unfold segments cuts
      rw [ih, List.splitOnP_cons_eq_if_modifyHead, hx]
      cases hcut : endsStatement r m <;> simp

theorem segments_ne_nil (r : Reading) (ms : List Mark) : segments triggerBlocks r ms ≠ [] := by
  intro hnil
  rw [segments_eq_cuts, List.map_eq_nil_iff] at hnil
  exact List.splitOnP_ne_nil (·.2) (cuts triggerBlocks r ms) hnil

/-- **The last segment of one part and the first of the next are one segment.** -/
theorem exists_segments_append (r : Reading) (xs : List Mark) :
    ∃ before last, segments triggerBlocks r xs = before ++ [unmark last]
      ∧ EndsWith xs last
      ∧ ∀ ys first after,
          segments triggerBlocks (readAll triggerBlocks r xs) ys = first :: after →
          segments triggerBlocks r (xs ++ ys) = before ++ (unmark last ++ first) :: after := by
  obtain ⟨before, last, hxs, hends, happend⟩ :=
    exists_splitOnP_append (·.2) (cuts triggerBlocks r xs)
  refine ⟨before.map fun piece => unmark (piece.map (·.1)), last.map (·.1), ?_, ?_, ?_⟩
  · rw [segments_eq_cuts, hxs]
    simp
  · have hfst := cuts_fst triggerBlocks r xs
    rcases hends with hall | ⟨front, cut, hcut, hall⟩
    · exact .inl (by rw [← hfst, hall])
    · have hmem : cut ∈ cuts triggerBlocks r xs := by simp [hall]
      exact .inr ⟨front.map (·.1), cut.1, terminator_of_mem_cuts triggerBlocks hmem hcut,
        by rw [← hfst, hall]; simp⟩
  · -- the cuts of the second part are found with the reading of the first
    intro ys first after hys
    obtain ⟨x, others, hx⟩ := List.exists_cons_of_ne_nil
      (List.splitOnP_ne_nil (·.2) (cuts triggerBlocks (readAll triggerBlocks r xs) ys))
    rw [segments_eq_cuts, hx, List.map_cons] at hys
    obtain ⟨rfl, rfl⟩ := List.cons.inj hys
    rw [segments_eq_cuts, cuts_append, happend _ _ _ hx]
    simp

/-- The text begins with its first segment. -/
theorem isPrefix_of_segments {r : Reading} {ms : List Mark} {first : List Char}
    {others : List (List Char)} (h : segments triggerBlocks r ms = first :: others) :
    first <+: unmark ms := by
  obtain ⟨piece, pieces, hpieces⟩ := List.exists_cons_of_ne_nil
    (List.splitOnP_ne_nil (·.2) (cuts triggerBlocks r ms))
  rw [segments_eq_cuts, hpieces, List.map_cons] at h
  obtain ⟨rfl, -⟩ := List.cons.inj h
  have hfst := cuts_fst triggerBlocks r ms
  rcases first_of_splitOnP hpieces with hall | ⟨cut, rest, -, hall⟩
  · exact ⟨[], by rw [← hfst, hall, List.append_nil]⟩
  · exact ⟨unmark ((cut :: rest).map (·.1)), by rw [← hfst, hall, List.map_append, unmark_append]⟩

/-- Whether no statement ends in a text. -/
def Uncut (r : Reading) (ms : List Mark) : Prop :=
  ∀ cut ∈ cuts triggerBlocks r ms, cut.2 = false

theorem uncut_nil (r : Reading) : Uncut triggerBlocks r [] := by
  simp [Uncut, cuts]

theorem uncut_cons {r : Reading} {m : Mark} {ms : List Mark} :
    Uncut triggerBlocks r (m :: ms)
      ↔ endsStatement r m = false ∧ Uncut triggerBlocks (readingAfter triggerBlocks r m) ms := by
  simp [Uncut, cuts]

theorem uncut_append {r : Reading} {xs ys : List Mark} :
    Uncut triggerBlocks r (xs ++ ys)
      ↔ Uncut triggerBlocks r xs ∧ Uncut triggerBlocks (readAll triggerBlocks r xs) ys := by
  unfold Uncut
  rw [cuts_append]
  exact List.forall_mem_append

variable {triggerBlocks} in
theorem uncut_of_none {ms : List Mark} (h : ∀ m ∈ ms, m.terminator = false) (r : Reading) :
    Uncut triggerBlocks r ms := by
  induction ms generalizing r with
  | nil => exact uncut_nil triggerBlocks r
  | cons m ms ih =>
      obtain ⟨hm, hms⟩ := List.forall_mem_cons.mp h
      exact (uncut_cons triggerBlocks).mpr ⟨endsStatement_of_not_terminator hm r, ih hms _⟩

variable {triggerBlocks} in
/-- A text in which no statement ends is one segment. -/
theorem Uncut.segments_eq {r : Reading} {ms : List Mark} (h : Uncut triggerBlocks r ms) :
    segments triggerBlocks r ms = [unmark ms] := by
  rw [segments_eq_cuts, List.splitOnP_eq_singleton h, List.map_singleton, cuts_fst]

/-- A stretch without terminators is one segment. -/
theorem segments_of_none (r : Reading) {ms : List Mark} (h : ∀ m ∈ ms, m.terminator = false) :
    segments triggerBlocks r ms = [unmark ms] :=
  (uncut_of_none h r).segments_eq

/-- A stretch without terminators belongs to the first segment of what follows it. -/
theorem segments_append_of_none {r : Reading} {xs ys : List Mark}
    (h : ∀ m ∈ xs, m.terminator = false) {first : List Char} {after : List (List Char)}
    (hys : segments triggerBlocks (readAll triggerBlocks r xs) ys = first :: after) :
    segments triggerBlocks r (xs ++ ys) = (unmark xs ++ first) :: after := by
  obtain ⟨before, last, hxs, -, happend⟩ := exists_segments_append triggerBlocks r xs
  rw [segments_of_none triggerBlocks r h] at hxs
  cases before with
  | nil => rw [happend ys first after hys, (List.cons.inj hxs).1]; rfl
  | cons b before => simp at hxs

/-- Reading does not depend on where spans begin. -/
theorem readAll_map_label (r : Reading) (ms : List Mark) :
    readAll triggerBlocks r (ms.map Mark.label) = readAll triggerBlocks r ms :=
  List.foldl_map

variable {triggerBlocks} in
/-- Where the marks of a text are read as other marks are, the text is cut alike. -/
theorem segments_map {f : Mark → Mark} {g : Char → Char} (hchar : ∀ m, (f m).char = g m.char)
    (hends : ∀ r m, endsStatement r (f m) = endsStatement r m)
    (hreading : ∀ r m, readingAfter triggerBlocks r (f m) = readingAfter triggerBlocks r m)
    (r : Reading) (ms : List Mark) :
    segments triggerBlocks r (ms.map f) = (segments triggerBlocks r ms).map (List.map g) := by
  induction ms generalizing r with
  | nil => rfl
  | cons m ms ih =>
      obtain ⟨first, others, hlater⟩ := List.exists_cons_of_ne_nil
        (segments_ne_nil triggerBlocks (readingAfter triggerBlocks r m) ms)
      rw [List.map_cons]
      unfold segments
      rw [hreading, hends, ih, hlater, hchar]
      split <;> rfl

/-- The cuts do not depend on where spans begin. -/
theorem segments_map_label (r : Reading) (ms : List Mark) :
    segments triggerBlocks r (ms.map Mark.label) = segments triggerBlocks r ms := by
  have hsame : segments triggerBlocks r (ms.map Mark.label)
      = (segments triggerBlocks r ms).map (List.map id) :=
    segments_map (f := Mark.label) (fun _ => rfl) (fun _ _ => rfl) (fun _ _ => rfl) r ms
  rwa [List.map_id_fun, List.map_id] at hsame

end

/-- Without trigger blocks every terminator is a cut. -/
theorem segments_at_terminators (ms : List Mark) :
    segments false {} ms = (ms.splitOnP (·.terminator)).map unmark := by
  have hcuts : cuts false {} ms = ms.map fun m => (m, m.terminator) := by
    induction ms with
    | nil => rfl
    | cons m ms ih =>
        have hends : endsStatement {} m = m.terminator := by simp [endsStatement, Reading.endWord]
        -- no word is ever read, so every statement is read afresh
        have hreading : readingAfter false {} m = {} := by
          unfold readingAfter
          split <;> rfl
        unfold cuts
        rw [hends, hreading, ih]
        rfl
  rw [segments_eq_cuts, hcuts, splitOnP_map]
  simp [Function.comp_def]

/-! ## §2. Trimming, from labels. -/

/-- Where the same characters are blank and stand at the end of a line, the same lines are
kept. -/
theorem keptLines_map {f : Mark → Mark} (hline : ∀ m, endsLine (f m) = endsLine m)
    (hblank : ∀ m, isBlank (f m).char = isBlank m.char)
    (htail : ∀ m, isCodeTail (f m) = isCodeTail m) (ms : List Mark) :
    keptLines (ms.map f) = (keptLines ms).map (List.map f) := by
  have hlines : endsLine ∘ f = endsLine := funext hline
  have hkept : (!isBlankLine ·) ∘ List.map f = (!isBlankLine ·) := by
    funext line
    simp [isBlankLine, Function.comp_def, hblank]
  have hcut : dropTrailing isCodeTail ∘ List.map f = List.map f ∘ dropTrailing isCodeTail := by
    funext line
    have htails : isCodeTail ∘ f = isCodeTail := funext htail
    show dropTrailing isCodeTail (line.map f) = _
    rw [dropTrailing_map, htails]
    rfl
  unfold keptLines codeLines
  rw [splitOnP_map, hlines, List.filter_map, hkept, List.map_map, hcut, List.map_map]

/-- What a line loses and whether it is blank can be told from the labels. -/
theorem keptLines_map_label (ms : List Mark) :
    keptLines (ms.map Mark.label) = (keptLines ms).map (List.map Mark.label) :=
  keptLines_map (f := Mark.label) (fun _ => rfl) (fun _ => rfl) (fun _ => rfl) ms

/-- Trimming is a function of the labels. -/
theorem trimLines_eq (text : List Char) :
    trimLines text = unmark (trimmed (labelsFrom .code text)) := by
  have hlabels : labelsFrom .code text = (marks false text .code).map Mark.label :=
    (label_marksFrom_off text rfl true).symm
  unfold trimLines trimmed
  rw [unmark_intercalate, hlabels, keptLines_map_label, List.map_map]
  congr 2
  funext line
  exact (unmark_map_label line).symm

/-- **A trimmed text is labelled as it was.** -/
theorem labelsFrom_trimLines (text : List Char) :
    labelsFrom .code (trimLines text) = trimmed (labelsFrom .code text) := by
  -- the reading of the text and the reading of its trimmed lines go through the same states
  have htrim := labelled_trimmedBetween (labelled_labelsFrom text .code) false false
  rw [trimmedBetween_alone] at htrim
  rw [trimLines_eq]
  exact htrim.labelsFrom_eq.1

/-! ## §3. The whole script. -/

theorem splitStatements_eq (text : List Char) (triggerBlocks : Bool) :
    splitStatements text triggerBlocks
      = statementsOf (segments triggerBlocks {} (labelsFrom .code text)) := by
  have hlabels : labelsFrom .code text = (marks false text .code).map Mark.label :=
    (label_marksFrom_off text rfl true).symm
  rw [hlabels, segments_map_label]
  rfl

/-- **The statements of a script, from the labels of its one scan.** -/
theorem splitScript_eq (text : List Char) (triggerBlocks : Bool) :
    splitScript text triggerBlocks
      = statementsOf (segments triggerBlocks {}
          (trimmed ((kept (marks true text .code)).map Mark.label))) := by
  unfold splitScript
  rw [splitStatements_eq, labelsFrom_trimLines, labelsFrom_removeComments]

end SqlStatements.Script
