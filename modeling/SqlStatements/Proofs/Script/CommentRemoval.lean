/-
  SqlStatements.Proofs.Script.CommentRemoval
  ──────────────────────────────────────────
  **What is left without the comments is read as it was read with them.**

  Removing a comment glues together what stood on its two sides.  The later passes scan
  the result anew, with comments off, and two quotes that come together are one doubled
  quote to them where the first scan closed a literal and opened another.  Both readings
  give both quotes to the same kind of literal, so nothing changes its label.

  Main results:

    • `labelsFrom_removeComments` — the labels of what is left, at the level of marks,
    • `labels_scan_removeComments` — the same of the spans of the two scans, and: where
      there is no comment the two scans are one.
-/
import SqlStatements.Script.Comments
import SqlStatements.Proofs.Lexical.Spans

namespace SqlStatements.Script

open Lexical

/-! ## §1. Marks. -/

/-- The label of a character says whether it is kept. -/
theorem kept_map_label (ms : List Mark) : kept (ms.map Mark.label) = (kept ms).map Mark.label := by
  simp [kept, List.filter_map, Function.comp_def]

/-- What is left of a script is labelled as it was in the script. -/
theorem labelsFrom_removeComments (text : List Char) :
    labelsFrom .code (removeComments text) = (kept (marks true text .code)).map Mark.label :=
  (label_marksFrom_kept true text (.ready .code true) .ready).symm

/-- A scan of a script in code ends where the reading of what is left does. -/
theorem stateAfter_removeComments (text : List Char) :
    stateAfter .code (removeComments text)
      = (modeAfter true (.ready .code true) text).bare :=
  (bare_modeAfter true text (.ready .code true) .ready).symm

/-! ## §2. Spans. -/

theorem kept_labels_cons (s : Span) (spans : List Span) :
    kept (labels (s :: spans))
      = (if s.state.isComment then [] else s.labels) ++ kept (labels spans) := by
  have hall : ∀ m ∈ s.labels, m.state = s.state := by
    intro m hm
    obtain ⟨c, -, rfl⟩ := List.mem_map.mp hm
    rfl
  show kept (s.labels ++ labels spans) = _
  rw [kept_append]
  congr 1
  cases hcomment : s.state.isComment with
  | true => exact kept_eq_nil fun m hm => by rw [hall m hm, hcomment]
  | false => exact kept_eq_self fun m hm => by rw [hall m hm, hcomment]

/-- Leaving out the labels of comments is leaving out their spans. -/
theorem kept_labels (spans : List Span) :
    kept (labels spans) = labels (spans.filter (!·.state.isComment)) := by
  induction spans with
  | nil => rfl
  | cons s spans ih =>
      rw [kept_labels_cons, ih]
      cases hcomment : s.state.isComment with
      | true => simp [hcomment]
      | false =>
          simp only [hcomment, List.filter_cons, Bool.not_false, if_true]
          rfl

/-- What is left of a script is labelled as its spans outside comments are. -/
theorem kept_labels_scan (text : List Char) :
    kept (labels (scan true text .code)) = labelsFrom .code (removeComments text) := by
  rw [labels_scan, kept_map_label, labelsFrom_removeComments]

/-- **Comment removal and the later passes agree on what is quoted**: each character that
is left has the state it had in the script, and is a terminator if it was one there.
Where the script has no comment, recognising comments makes no difference to its spans. -/
theorem labels_scan_removeComments (text : List Char) :
    labels (scan false (removeComments text) .code) = kept (labels (scan true text .code))
      ∧ ((∀ s ∈ scan true text .code, s.state.isComment = false) →
          scan true text .code = scan false text .code) := by
  constructor
  -- both sides are labels of marks, and there the two readings agree
  · rw [labels_scan, labels_scan, kept_map_label, ← labelsFrom_removeComments]
    exact label_marksFrom_off (removeComments text) rfl true
  · intro hnone
    -- no span of a comment means no mark of one
    have hmarks : ∀ m ∈ marks true text .code, m.state.isComment = false := by
      intro m hm
      obtain ⟨s, hs, hstate⟩ := exists_span_of_mem_marks hm
      rw [← hstate]
      exact hnone s hs
    rw [scan_code, scan_code, marks, marks,
      marksFrom_comments_irrelevant text (.ready .code true) hmarks]

/-- Comment markers inside literals are no comments: `'--'/"/*"` has one scan. -/
theorem labels_scan_removeComments_markers_quoted :
    (∀ s ∈ scan true ['\'', '-', '-', '\'', '/', '"', '/', '*', '"'] .code,
        s.state.isComment = false)
      ∧ scan true ['\'', '-', '-', '\'', '/', '"', '/', '*', '"'] .code
        = scan false ['\'', '-', '-', '\'', '/', '"', '/', '*', '"'] .code := by
  have hnone : ∀ s ∈ scan true ['\'', '-', '-', '\'', '/', '"', '/', '*', '"'] .code,
      s.state.isComment = false := by decide
  exact ⟨hnone, (labels_scan_removeComments _).2 hnone⟩

/-- Two literals that meet where a comment was: the scan of what is left is one span of
four quotes and two letters, labelled as the two literals were. -/
example :
    scan false (removeComments ['\'', 'a', '\'', '/', '*', '*', '/', '\'', 'b', '\'']) .code
      = [⟨.singleQuoted, 0, ['\'', 'a', '\'', '\'', 'b', '\''], false⟩] := by decide

end SqlStatements.Script
