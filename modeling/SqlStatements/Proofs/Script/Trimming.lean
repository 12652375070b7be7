/-
  SqlStatements.Proofs.Script.Trimming
  ────────────────────────────────────
  **Trimming the lines of a script in parts.**

  Lines know nothing of statements: a line may hold the end of one statement, a whole
  second one and the beginning of a third.  So a part of a script is trimmed knowing of
  its two neighbours only whether something stands next to it on the same line
  (`trimmedBetween`).  Around a character that is not blank, the two sides are trimmed
  independently; and what the neighbours change is lost when the part is stripped.

  Main results:

    • `trimmedBetween_append` — trimming in parts,
    • `exists_trimmedBetween` — next to neighbours a part is trimmed as it is alone, but
                                for blank characters at its ends,
    • `labelled_trimmedBetween` — trimming changes no label of what it leaves.
-/
import SqlStatements.Script.Lines
import SqlStatements.Proofs.Lexical.Label
import SqlStatements.Proofs.Text.Cutting

namespace SqlStatements.Script

open Lexical Text

/-! ## §1. A part of a text and its neighbours. -/

/-- The line feed between two lines. -/
def lineFeed : Mark := ⟨'\n', .code, false, false⟩

/-- The lines that are kept of a part of a text.  With `left` something that is not
blank stands on the first line before the part, with `right` on the last line after
it; such a line is kept, and the last line then does not end with the part. -/
def keptFrom (left right : Bool) : List (List Mark) → List (List Mark)
  | [] => []
  | [line] =>
      if right then [line]
      else if left || !isBlankLine line then [dropTrailing isCodeTail line]
      else []
  | line :: next :: more =>
      let later := keptFrom false right (next :: more)
      if left || !isBlankLine line then dropTrailing isCodeTail line :: later else later

/-- A part of a text with only its non-blank lines, each cut at its end. -/
def trimmedBetween (left right : Bool) (ms : List Mark) : List Mark :=
  List.intercalate [lineFeed] (keptFrom left right (codeLines ms))

/-- A text with only its non-blank lines, each cut at its end. -/
def trimmed (ms : List Mark) : List Mark :=
  List.intercalate [lineFeed] (keptLines ms)

theorem keptFrom_cons_of_ne_nil (left right : Bool) (line : List Mark)
    {lines : List (List Mark)} (h : lines ≠ []) :
    keptFrom left right (line :: lines)
      = if left || !isBlankLine line
          then dropTrailing isCodeTail line :: keptFrom false right lines
          else keptFrom false right lines := by
  obtain ⟨next, more, rfl⟩ := List.exists_cons_of_ne_nil h
  rfl

/-- A text without neighbours is a part of itself. -/
theorem trimmedBetween_alone (ms : List Mark) : trimmedBetween false false ms = trimmed ms := by
  unfold trimmedBetween trimmed keptLines
  congr 1
  induction codeLines ms with
  | nil => rfl
  | cons line lines ih =>
      cases lines with
      | nil => cases h : isBlankLine line <;> simp [keptFrom, h]
      | cons next more =>
          rw [keptFrom_cons_of_ne_nil _ _ _ (by simp), ih]
          cases h : isBlankLine line <;> simp [h]

/-! ## §2. Characters that stay. -/

theorem isBlank_of_isLineTail {c : Char} (h : isLineTail c = true) : isBlank c = true := by
  have hchar : (c = ' ' ∨ c = '\t') ∨ c = '\r' := by simpa [isLineTail] using h
  rcases hchar with (rfl | rfl) | rfl <;> rfl

/-- What a line may lose at its end is blank, and code. -/
theorem of_isCodeTail {m : Mark} (h : isCodeTail m = true) :
    m.state = .code ∧ isBlank m.char = true := by
  simp only [isCodeTail, Bool.and_eq_true, beq_iff_eq] at h
  obtain ⟨hstate, htail⟩ := h
  exact ⟨hstate, isBlank_of_isLineTail htail⟩

theorem isCodeTail_of_not_blank {m : Mark} (h : isBlank m.char = false) : isCodeTail m = false := by
  cases htail : isCodeTail m with
  | true => rw [← h, (of_isCodeTail htail).2]
  | false => rfl

theorem isBlankLine_append_cons {x : Mark} (h : isBlank x.char = false) (xs ys : List Mark) :
    isBlankLine (xs ++ x :: ys) = false := by
  simp [isBlankLine, h]

/-! ## §3. Trimming in parts. -/

/-- A line that is not blank is kept whatever stands on its left. -/
theorem keptFrom_of_not_blank (left right : Bool) {line : List Mark}
    (h : isBlankLine line = false) (after : List (List Mark)) :
    keptFrom left right (line :: after) = keptFrom false right (line :: after) := by
  cases after with
  | nil => cases right <;> simp [keptFrom, h]
  | cons next more => simp [keptFrom, h]

/-- Before something that is not blank the last line is left as it is. -/
theorem exists_keptFrom_last (last : List Mark) :
    ∀ (before : List (List Mark)) (left : Bool), ∃ complete,
      keptFrom left true (before ++ [last]) = complete ++ [last]
        ∧ ∀ (right : Bool) (line : List Mark) (after : List (List Mark)),
            isBlankLine line = false →
            keptFrom left right (before ++ line :: after)
              = complete ++ keptFrom left right (line :: after)
  | [], left => ⟨[], rfl, fun _ _ _ _ => rfl⟩
  | line :: before, left => by
      obtain ⟨complete, hlast, hboth⟩ := exists_keptFrom_last last before false
      have hcons : ∀ (right : Bool) (next : List Mark) (after : List (List Mark)),
          isBlankLine next = false →
          keptFrom left right (line :: before ++ next :: after)
            = (if left || !isBlankLine line then [dropTrailing isCodeTail line] else [])
              ++ (complete ++ keptFrom left right (next :: after)) := by
        intro right next after hnext
        rw [List.cons_append, keptFrom_cons_of_ne_nil left right line (by simp),
          hboth right next after hnext, keptFrom_of_not_blank left right hnext]
        cases left || !isBlankLine line <;> rfl
      rw [List.cons_append, keptFrom_cons_of_ne_nil left true line (by simp), hlast]
      cases hline : left || !isBlankLine line with
      | true =>
          refine ⟨dropTrailing isCodeTail line :: complete, rfl, ?_⟩
          simpa [hline] using hcons
      | false =>
          refine ⟨complete, rfl, ?_⟩
          simpa [hline] using hcons

/-- Behind something that is not blank the first line is kept. -/
theorem exists_keptFrom_first (left right : Bool) {x : Mark} (hx : isBlank x.char = false)
    (last first : List Mark) (after : List (List Mark)) :
    ∃ start complete, keptFrom true right (first :: after) = start :: complete
      ∧ keptFrom left right ((last ++ x :: first) :: after)
        = (last ++ x :: start) :: complete := by
  have hblank := isBlankLine_append_cons hx last first
  have hcut := dropTrailing_append_cons (isCodeTail_of_not_blank hx) last first
  cases after with
  | nil =>
      cases right with
      | true => exact ⟨first, [], rfl, rfl⟩
      | false =>
          refine ⟨dropTrailing isCodeTail first, [], rfl, ?_⟩
          simp [keptFrom, hblank, hcut]
  | cons next more =>
      refine ⟨dropTrailing isCodeTail first, keptFrom false right (next :: more), rfl, ?_⟩
      simp [keptFrom, hblank, hcut]

/-- **Around a character that is not blank, the two sides are trimmed independently.** -/
theorem trimmedBetween_append (left right : Bool) {x : Mark} (hline : endsLine x = false)
    (hx : isBlank x.char = false) (xs ys : List Mark) :
    trimmedBetween left right (xs ++ x :: ys)
      = trimmedBetween left true xs ++ x :: trimmedBetween true right ys := by
  obtain ⟨before, last, hxs, -, happend⟩ := exists_splitOnP_append endsLine xs
  obtain ⟨first, after, hys⟩ := List.exists_cons_of_ne_nil (List.splitOnP_ne_nil endsLine ys)
  have hxys : (x :: ys).splitOnP endsLine = (x :: first) :: after := by
    rw [List.splitOnP_cons_eq_if_modifyHead, hys]
    simp [hline]
  obtain ⟨complete, hleft, hboth⟩ := exists_keptFrom_last last before left
  have hblank := isBlankLine_append_cons hx last first
  obtain ⟨start, rest, hright, hglued⟩ := exists_keptFrom_first left right hx last first after
  unfold trimmedBetween codeLines
  -- the line of `x` is the last line of one side and the first of the other
  rw [happend _ _ _ hxys, hxs, hys, hboth right _ after hblank, hglued, hleft, hright,
    intercalate_append_glued]
  congr 1
  cases rest with
  | nil => simp
  | cons line rest => simp [List.intercalate_cons_cons]

/-- A stretch that ends no line is left as it is between characters that are not blank. -/
theorem trimmedBetween_inner {ms : List Mark} (h : ∀ m ∈ ms, endsLine m = false) :
    trimmedBetween true true ms = ms := by
  unfold trimmedBetween codeLines
  rw [List.splitOnP_eq_singleton h]
  simp [keptFrom]

/-! ## §4. Stripping a part. -/

theorem unmark_intercalate (lines : List (List Mark)) :
    unmark (List.intercalate [lineFeed] lines) = List.intercalate ['\n'] (lines.map unmark) :=
  map_intercalate _ [lineFeed] lines

/-- Marks of blank characters only. -/
def AllBlank (ms : List Mark) : Prop := ∀ m ∈ ms, isBlank m.char = true

theorem allBlank_nil : AllBlank [] := fun _ hm => absurd hm List.not_mem_nil

theorem AllBlank.cons {m : Mark} {ms : List Mark} (hm : isBlank m.char = true)
    (h : AllBlank ms) : AllBlank (m :: ms) :=
  List.forall_mem_cons.mpr ⟨hm, h⟩

theorem AllBlank.append {xs ys : List Mark} (hx : AllBlank xs) (hy : AllBlank ys) :
    AllBlank (xs ++ ys) :=
  List.forall_mem_append.mpr ⟨hx, hy⟩

theorem allBlank_iff_unmark {ms : List Mark} :
    AllBlank ms ↔ ∀ c ∈ unmark ms, isBlank c = true := by
  simp [AllBlank, unmark]

theorem isBlankLine_iff {line : List Mark} : isBlankLine line = true ↔ AllBlank line :=
  List.all_eq_true

theorem blank_lineFeed : isBlank lineFeed.char = true := rfl

/-- With something on its right the last line is kept. -/
theorem keptFrom_ne_nil :
    ∀ (left : Bool) {lines : List (List Mark)}, lines ≠ [] → keptFrom left true lines ≠ []
  | _, [], h => absurd rfl h
  | _, [line], _ => List.cons_ne_nil line []
  | left, line :: next :: more, _ => by
      have ih := keptFrom_ne_nil false (List.cons_ne_nil next more)
      rw [keptFrom_cons_of_ne_nil left true line (List.cons_ne_nil next more)]
      cases left || !isBlankLine line with
      | true => exact List.cons_ne_nil _ _
      | false => exact ih

/-- A first line that is kept for its left neighbour alone is blank. -/
theorem exists_keptFrom_left (right : Bool) (lines : List (List Mark)) :
    ∃ blank, AllBlank blank
      ∧ List.intercalate [lineFeed] (keptFrom true right lines)
        = blank ++ List.intercalate [lineFeed] (keptFrom false right lines) := by
  rcases lines with _ | ⟨line, lines⟩
  · exact ⟨[], allBlank_nil, rfl⟩
  cases hline : isBlankLine line with
  | false => exact ⟨[], allBlank_nil, by rw [keptFrom_of_not_blank true right hline]; rfl⟩
  | true =>
      have hcut : AllBlank (dropTrailing isCodeTail line) :=
        fun m hm => isBlankLine_iff.mp hline m (mem_of_mem_dropTrailing hm)
      cases lines with
      | nil =>
          cases right with
          | true => exact ⟨[], allBlank_nil, rfl⟩
          | false => exact ⟨dropTrailing isCodeTail line, hcut, by simp [keptFrom, hline]⟩
      | cons next more =>
          have hleft : keptFrom true right (line :: next :: more)
              = dropTrailing isCodeTail line :: keptFrom false right (next :: more) := rfl
          have hnone : keptFrom false right (line :: next :: more)
              = keptFrom false right (next :: more) := by simp [keptFrom, hline]
          rw [hleft, hnone]
          -- behind the line stands a line feed, if any line is kept there
          cases keptFrom false right (next :: more) with
          | nil => exact ⟨dropTrailing isCodeTail line, hcut, by simp⟩
          | cons start rest =>
              refine ⟨dropTrailing isCodeTail line ++ [lineFeed],
                hcut.append (allBlank_nil.cons blank_lineFeed), ?_⟩
              rw [List.intercalate_cons_cons]

/-- What is kept of a last line for its right neighbour alone is blank. -/
theorem exists_keptFrom_right :
    ∀ (left : Bool) (lines : List (List Mark)),
      ∃ blank, AllBlank blank
        ∧ List.intercalate [lineFeed] (keptFrom left true lines)
          = List.intercalate [lineFeed] (keptFrom left false lines) ++ blank
  | _, [] => ⟨[], allBlank_nil, rfl⟩
  | left, [line] => by
      cases hkept : left || !isBlankLine line with
      | true =>
          -- the line may be kept whole or cut at its end, and all that is cut is blank
          obtain ⟨tail, hline, htail⟩ := exists_dropTrailing_append isCodeTail line
          exact ⟨tail, fun m hm => (of_isCodeTail (htail m hm)).2,
            by simpa [keptFrom, hkept] using hline⟩
      | false =>
          have hline : isBlankLine line = true := by simp_all
          exact ⟨line, isBlankLine_iff.mp hline, by simp [keptFrom, hkept]⟩
  | left, line :: next :: more => by
      obtain ⟨blank, hblank, hlater⟩ := exists_keptFrom_right false (next :: more)
      have hne : next :: more ≠ [] := List.cons_ne_nil next more
      rw [keptFrom_cons_of_ne_nil left true line hne, keptFrom_cons_of_ne_nil left false line hne]
      cases left || !isBlankLine line with
      | false => exact ⟨blank, hblank, hlater⟩
      | true =>
          rw [if_pos rfl, if_pos rfl, List.intercalate_cons_of_ne_nil (keptFrom_ne_nil false hne),
            hlater]
          -- the line feed behind the line goes with the lines behind it, if none is kept
          cases keptFrom false false (next :: more) with
          | nil => exact ⟨lineFeed :: blank, hblank.cons blank_lineFeed, by simp⟩
          | cons start rest =>
              refine ⟨blank, hblank, ?_⟩
              rw [List.intercalate_cons_of_ne_nil (List.cons_ne_nil start rest)]
              simp

/-- **Next to its neighbours a part is trimmed as it is alone**, but for blank characters
at its two ends. -/
theorem exists_trimmedBetween (left right : Bool) (ms : List Mark) :
    ∃ before behind, AllBlank before ∧ AllBlank behind
      ∧ trimmedBetween left right ms = before ++ trimmed ms ++ behind := by
  obtain ⟨before, hbefore, hleft⟩ : ∃ before, AllBlank before
      ∧ trimmedBetween left right ms = before ++ trimmedBetween false right ms := by
    cases left with
    | true => exact exists_keptFrom_left right (codeLines ms)
    | false => exact ⟨[], allBlank_nil, rfl⟩
  obtain ⟨behind, hbehind, hright⟩ : ∃ behind, AllBlank behind
      ∧ trimmedBetween false right ms = trimmedBetween false false ms ++ behind := by
    cases right with
    | true => exact exists_keptFrom_right false (codeLines ms)
    | false => exact ⟨[], allBlank_nil, by simp⟩
  refine ⟨before, behind, hbefore, hbehind, ?_⟩
  rw [hleft, hright, trimmedBetween_alone, List.append_assoc]

/-- Whatever its neighbours, a part is stripped to the same. -/
theorem strip_trimmedBetween (left right : Bool) (ms : List Mark) :
    strip (unmark (trimmedBetween left right ms)) = strip (unmark (trimmed ms)) := by
  obtain ⟨before, behind, hbefore, hbehind, htrimmed⟩ := exists_trimmedBetween left right ms
  rw [htrimmed, unmark_append, unmark_append,
    strip_append_blank _ (allBlank_iff_unmark.mp hbehind),
    strip_blank_append (allBlank_iff_unmark.mp hbefore)]

/-! ## §5. Labels. -/

/-- Lines that are read from code, one after the other, to a state. -/
inductive LabelledLines : List (List Mark) → State → Prop where
  | last {line : List Mark} {s : State} (h : Labelled .code line s) : LabelledLines [line] s
  | cons {line : List Mark} {lines : List (List Mark)} {s : State}
      (h : Labelled .code line .code) (rest : LabelledLines lines s) :
      LabelledLines (line :: lines) s

/-- A line feed that ends a line is code, so the next line is read from code. -/
theorem exists_codeLines_labelled {s s' : State} {ms : List Mark} (h : Labelled s ms s') :
    ∃ first others, codeLines ms = first :: others
      ∧ ((others = [] ∧ Labelled s first s')
        ∨ (Labelled s first .code ∧ LabelledLines others s')) := by
  induction h with
  | nil => exact ⟨[], [], rfl, .inl ⟨rfl, .nil⟩⟩
  | @cons s s' c ms rest ih =>
      obtain ⟨first, others, hlines, ih⟩ := ih
      unfold codeLines at hlines ⊢
      rw [List.splitOnP_cons_eq_if_modifyHead, hlines]
      by_cases hline : endsLine (s.label c) = true
      · -- the label of a line feed that ends a line tells that it was read from code
        have hcode : (s.label c).state = .code := by
          simp only [endsLine, Bool.and_eq_true, beq_iff_eq] at hline
          exact hline.1
        obtain ⟨rfl, hafter⟩ := State.of_label_code hcode
        rw [hafter] at ih
        refine ⟨[], first :: others, by simp [hline], .inr ⟨.nil, ?_⟩⟩
        rcases ih with ⟨rfl, hfirst⟩ | ⟨hfirst, hothers⟩
        · exact .last hfirst
        · exact .cons hfirst hothers
      · refine ⟨s.label c :: first, others, by simp [hline], ?_⟩
        rcases ih with ⟨hnil, hfirst⟩ | ⟨hfirst, hothers⟩
        · exact .inl ⟨hnil, .cons hfirst⟩
        · exact .inr ⟨.cons hfirst, hothers⟩

theorem labelledLines_codeLines {ms : List Mark} {s : State} (h : Labelled .code ms s) :
    LabelledLines (codeLines ms) s := by
  obtain ⟨first, others, hlines, h⟩ := exists_codeLines_labelled h
  rw [hlines]
  rcases h with ⟨rfl, hfirst⟩ | ⟨hfirst, hothers⟩
  · exact .last hfirst
  · exact .cons hfirst hothers

/-- The white space that a line loses is code, so the line ends in the state it ended in. -/
theorem labelled_dropTrailing {s s' : State} {line : List Mark} (h : Labelled s line s') :
    Labelled s (dropTrailing isCodeTail line) s' := by
  obtain ⟨tail, hline, htail⟩ := exists_dropTrailing_append isCodeTail line
  rw [hline] at h
  obtain ⟨state, hkept, hcut⟩ := h.of_append
  have hcode : state = s' := (hcut.of_code fun m hm => (of_isCodeTail (htail m hm)).1).symm
  rwa [hcode] at hkept

/-- White space is no quote: it changes no state, and stands in the state it is read in. -/
theorem after_blank {c : Char} (h : isBlank c = true) (s : State) :
    s.after c = s ∧ (s.label c).state = s := by
  have hsingle : c ≠ '\'' := by rintro rfl; exact absurd h (by decide)
  have hdouble : c ≠ '"' := by rintro rfl; exact absurd h (by decide)
  have hopened := State.opened_plain hsingle hdouble
  cases s <;>
    simp [State.after, State.label, State.quote?, hopened, hsingle.symm, hdouble.symm]

/-- White space stands in the state it is read in. -/
theorem labelled_blank {s s' : State} {ms : List Mark} (h : Labelled s ms s')
    (hblank : AllBlank ms) : s' = s ∧ ∀ m ∈ ms, m.state = s := by
  induction h with
  | nil => exact ⟨rfl, by simp⟩
  | @cons s s' c ms rest ih =>
      have hc : isBlank c = true := by simpa using hblank (s.label c) List.mem_cons_self
      obtain ⟨hafter, hlabel⟩ := after_blank hc s
      rw [hafter] at ih
      obtain ⟨hstate, hms⟩ := ih fun m hm => hblank m (List.mem_cons_of_mem _ hm)
      exact ⟨hstate, List.forall_mem_cons.mpr ⟨hlabel, hms⟩⟩

/-- White space that is read from code is code. -/
theorem stateAfter_blank {text : List Char} (h : ∀ c ∈ text, isBlank c = true) :
    stateAfter .code text = .code := by
  have hblank : AllBlank (labelsFrom .code text) := by
    rwa [allBlank_iff_unmark, unmark_labelsFrom]
  exact (labelled_blank (labelled_labelsFrom text .code) hblank).1

/-- The lines that are kept are read as they were; a part of which none is kept was
read to code. -/
theorem LabelledLines.keep {lines : List (List Mark)} {s : State} (h : LabelledLines lines s)
    (left right : Bool) :
    (keptFrom left right lines = [] ∧ s = .code) ∨ LabelledLines (keptFrom left right lines) s := by
  induction h generalizing left with
  | @last line s hline =>
      cases right with
      | true => exact .inr (.last hline)
      | false =>
          cases hkept : left || !isBlankLine line with
          | true =>
              right
              simpa [keptFrom, hkept] using LabelledLines.last (labelled_dropTrailing hline)
          | false =>
              have hblank : AllBlank line := isBlankLine_iff.mp (by simp_all)
              exact .inl ⟨by simp [keptFrom, hkept], (labelled_blank hline hblank).1⟩
  | @cons line lines s hline rest ih =>
      have hne : lines ≠ [] := by cases rest <;> simp
      rw [keptFrom_cons_of_ne_nil left right line hne]
      cases left || !isBlankLine line with
      | false => exact ih false
      | true =>
          right
          rcases ih false with ⟨hnil, rfl⟩ | hlater
          · simpa [hnil] using LabelledLines.last (labelled_dropTrailing hline)
          · exact .cons (labelled_dropTrailing hline) hlater

theorem LabelledLines.join {lines : List (List Mark)} {s : State} (h : LabelledLines lines s) :
    Labelled .code (List.intercalate [lineFeed] lines) s := by
  induction h with
  | last hline => simpa using hline
  | @cons line lines s hline rest ih =>
      have hne : lines ≠ [] := by cases rest <;> simp
      have hfeed : Labelled .code [lineFeed] .code := .cons .nil
      rw [List.intercalate_cons_of_ne_nil hne]
      exact (hline.append hfeed).append ih

/-- **Trimming a part changes no label of what it leaves.** -/
theorem labelled_trimmedBetween {ms : List Mark} {s : State} (h : Labelled .code ms s)
    (left right : Bool) : Labelled .code (trimmedBetween left right ms) s := by
  unfold trimmedBetween
  rcases (labelledLines_codeLines h).keep left right with ⟨hnil, rfl⟩ | hkept
  · rw [hnil]
    exact .nil
  · exact hkept.join

/-! ## §6. What is left of a part. -/

theorem mem_keptFrom (right : Bool) :
    ∀ (left : Bool) (lines : List (List Mark)), ∀ line ∈ keptFrom left right lines,
      ∀ m ∈ line, ∃ whole ∈ lines, m ∈ whole
  | _, [], _, hline, _, _ => by simp [keptFrom] at hline
  | left, [whole], line, hline, m, hm => by
      have hcut : line = whole ∨ line = dropTrailing isCodeTail whole := by
        unfold keptFrom at hline
        split at hline
        · exact .inl (List.mem_singleton.mp hline)
        · split at hline
          · exact .inr (List.mem_singleton.mp hline)
          · simp at hline
      rcases hcut with rfl | rfl
      · exact ⟨line, List.mem_cons_self, hm⟩
      · exact ⟨whole, List.mem_cons_self, mem_of_mem_dropTrailing hm⟩
  | left, whole :: next :: more, line, hline, m, hm => by
      have ih := mem_keptFrom right false (next :: more) line
      have hcut : line = dropTrailing isCodeTail whole
          ∨ line ∈ keptFrom false right (next :: more) := by
        rw [keptFrom_cons_of_ne_nil left right whole (List.cons_ne_nil next more)] at hline
        split at hline
        · exact List.mem_cons.mp hline
        · exact .inr hline
      rcases hcut with rfl | hlater
      · exact ⟨whole, List.mem_cons_self, mem_of_mem_dropTrailing hm⟩
      · obtain ⟨whole', hmem, hm⟩ := ih hlater m hm
        exact ⟨whole', List.mem_cons_of_mem whole hmem, hm⟩

/-- Trimming adds nothing but line feeds. -/
theorem mem_trimmedBetween {left right : Bool} {ms : List Mark} {m : Mark}
    (h : m ∈ trimmedBetween left right ms) : m = lineFeed ∨ m ∈ ms := by
  rcases mem_intercalate h with hfeed | ⟨line, hline, hm⟩
  · exact .inl (List.mem_singleton.mp hfeed)
  · obtain ⟨whole, hwhole, hm⟩ := mem_keptFrom right left (codeLines ms) line hline m hm
    exact .inr (mem_of_mem_splitOnP hwhole hm)

/-- Behind something that is not blank, a part begins as it did or with a line feed. -/
theorem head?_trimmedBetween (right : Bool) (ms : List Mark) :
    ∀ c ∈ (unmark (trimmedBetween true right ms)).head?, c = '\n' ∨ c ∈ (unmark ms).head? := by
  intro c hc
  obtain ⟨first, after, hms⟩ := List.exists_cons_of_ne_nil (List.splitOnP_ne_nil endsLine ms)
  obtain ⟨start, complete, hkept, tail, htail⟩ : ∃ start complete,
      keptFrom true right (first :: after) = start :: complete ∧ ∃ tail, first = start ++ tail := by
    obtain ⟨tail, htail, -⟩ := exists_dropTrailing_append isCodeTail first
    cases after with
    | nil =>
        cases right with
        | true => exact ⟨first, [], rfl, [], by simp⟩
        | false => exact ⟨dropTrailing isCodeTail first, [], rfl, tail, htail⟩
    | cons next more =>
        exact ⟨dropTrailing isCodeTail first, keptFrom false right (next :: more), rfl, tail, htail⟩
  unfold trimmedBetween codeLines at hc
  rw [hms, hkept] at hc
  cases start with
  | nil =>
      -- the first line has lost everything, so only a line feed may come first
      cases complete with
      | nil => simp at hc
      | cons line complete =>
          left
          simpa [List.intercalate_cons_cons, lineFeed, eq_comm] using hc
  | cons m start =>
      right
      obtain rfl : m.char = c := by
        cases complete <;> simpa [List.intercalate_cons_cons] using hc
      rcases first_of_splitOnP hms with hall | ⟨mark, rest, -, hall⟩ <;> simp [hall, htail]

/-- Before something that is not blank, a part ends as it did or with a line feed. -/
theorem getLast?_trimmedBetween (left : Bool) (ms : List Mark) :
    ∀ c ∈ (unmark (trimmedBetween left true ms)).getLast?,
      c = '\n' ∨ c ∈ (unmark ms).getLast? := by
  intro c hc
  obtain ⟨before, last, hms, hends, -⟩ := exists_splitOnP_append endsLine ms
  obtain ⟨complete, hkept, -⟩ := exists_keptFrom_last last before left
  unfold trimmedBetween codeLines at hc
  rw [hms, hkept, intercalate_append_last, unmark_append] at hc
  rcases List.eq_nil_or_concat last with rfl | ⟨inner, m, rfl⟩
  · -- the part ends with a line feed, so only a line feed may come last
    left
    rcases List.eq_nil_or_concat complete with rfl | ⟨complete, line, rfl⟩
    · simp at hc
    · simpa [lineFeed, eq_comm] using hc
  · right
    obtain rfl : m.char = c := by simpa using hc
    rcases hends with hall | ⟨front, mark, -, hall⟩
    · simp [hall]
    · rw [hall, List.concat_eq_append, ← List.cons_append, ← List.append_assoc, unmark_append]
      exact List.getLast?_concat

end SqlStatements.Script
