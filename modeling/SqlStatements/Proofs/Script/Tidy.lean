/-
  SqlStatements.Proofs.Script.Tidy
  ────────────────────────────────
  **Tidy texts: trimming leaves them as they are.**

  A text is tidy if each of its lines holds something that is not blank and ends in nothing
  that a line may lose.  Trimming makes a text tidy, unless nothing is left of it, and does
  nothing to a text that is tidy already.

  A part of a tidy text has lines of that text, but for its first and its last, which may
  be parts of lines.  These are tidy too if the part begins and ends with characters that
  are not blank.

  Main results:

    • `trimLines_of_tidy`, `tidy_trimLines` — tidy texts and trimming,
    • `Tidy.of_infix`                       — parts of a tidy text,
    • `tidy_iff`                            — the tidy texts by the lines of their scan,
    • `normalLines_trimLines`               — the normal form that trimming leads to.
-/
import SqlStatements.Proofs.Lexical.Seam
import SqlStatements.Proofs.Script.Passes

namespace SqlStatements.Script

open Lexical Text

/-! ## §1. Tidy lines. -/

/-- Whether a line is kept, and kept whole. -/
def TidyLine (line : List Mark) : Prop :=
  isBlankLine line = false ∧ ∀ m ∈ line.getLast?, isCodeTail m = false

/-- A text of tidy lines. -/
def Tidy (ms : List Mark) : Prop := ∀ line ∈ codeLines ms, TidyLine line

/-- A line that is not blank is tidy once it has been cut at its end. -/
theorem tidyLine_dropTrailing {line : List Mark} (h : isBlankLine line = false) :
    TidyLine (dropTrailing isCodeTail line) := by
  refine ⟨?_, getLast?_dropTrailing isCodeTail line⟩
  obtain ⟨tail, hline, htail⟩ := exists_dropTrailing_append isCodeTail line
  cases hblank : isBlankLine (dropTrailing isCodeTail line) with
  | false => rfl
  | true =>
      -- what is cut off is blank, so the whole line would be
      have hall : AllBlank (dropTrailing isCodeTail line ++ tail) :=
        (isBlankLine_iff.mp hblank).append fun m hm => (of_isCodeTail (htail m hm)).2
      rw [← hline, ← isBlankLine_iff, h] at hall
      exact Bool.noConfusion hall

theorem tidyLine_of_mem_keptLines {ms line : List Mark} (h : line ∈ keptLines ms) :
    TidyLine line := by
  obtain ⟨whole, hwhole, rfl⟩ := List.mem_map.mp h
  exact tidyLine_dropTrailing (by simpa using (List.mem_filter.mp hwhole).2)

/-- A tidy line is kept whole. -/
theorem filter_map_of_tidyLine {lines : List (List Mark)} (h : ∀ line ∈ lines, TidyLine line) :
    (lines.filter (!isBlankLine ·)).map (dropTrailing isCodeTail) = lines := by
  have hkept : lines.filter (!isBlankLine ·) = lines :=
    List.filter_eq_self.mpr fun line hline => by simp [(h line hline).1]
  rw [hkept]
  calc lines.map (dropTrailing isCodeTail)
      = lines.map id :=
        List.map_congr_left fun line hline => dropTrailing_of_getLast? (h line hline).2
    _ = lines := List.map_id lines

/-! ## §2. Lines, joined and cut again. -/

/-- Lines that are joined by line feeds are cut at them again. -/
theorem codeLines_intercalate {lines : List (List Mark)} (hne : lines ≠ [])
    (h : ∀ line ∈ lines, ∀ m ∈ line, endsLine m = false) :
    codeLines (List.intercalate [lineFeed] lines) = lines := by
  unfold codeLines
  induction lines with
  | nil => exact absurd rfl hne
  | cons line lines ih =>
      obtain ⟨hline, hlines⟩ := List.forall_mem_cons.mp h
      by_cases hnil : lines = []
      · subst hnil
        rw [List.intercalate_singleton, List.splitOnP_eq_singleton hline]
      · rw [List.intercalate_cons_of_ne_nil hnil, List.append_assoc, List.singleton_append,
          List.splitOnP_append_cons_of_forall_mem hline lineFeed rfl, ih hnil hlines]

/-- The lines of a text are joined to the text again. -/
theorem intercalate_codeLines {ms : List Mark}
    (h : ∀ m ∈ ms, endsLine m = true → m = lineFeed) :
    List.intercalate [lineFeed] (codeLines ms) = ms := by
  unfold codeLines
  induction ms with
  | nil => rfl
  | cons m ms ih =>
      obtain ⟨hm, hms⟩ := List.forall_mem_cons.mp h
      obtain ⟨first, others, hlines⟩ :=
        List.exists_cons_of_ne_nil (List.splitOnP_ne_nil endsLine ms)
      have ih := ih hms
      rw [hlines] at ih
      rw [List.splitOnP_cons_eq_if_modifyHead, hlines]
      cases hends : endsLine m with
      | true =>
          rw [hm hends, if_pos rfl, List.intercalate_cons_of_ne_nil (List.cons_ne_nil _ _), ih]
          rfl
      | false =>
          rw [if_neg (by simp), List.modifyHead_cons]
          cases others with
          | nil => simpa using ih
          | cons next more => simpa [List.intercalate_cons_cons] using ih

/-- In labels, what ends a line is a line feed and nothing else. -/
theorem eq_lineFeed_of_labelled {s s' : State} {ms : List Mark} (h : Labelled s ms s') :
    ∀ m ∈ ms, endsLine m = true → m = lineFeed := by
  induction h with
  | nil => simp
  | @cons s s' c ms rest ih =>
      refine List.forall_mem_cons.mpr ⟨fun hends => ?_, ih⟩
      simp only [endsLine, Bool.and_eq_true, beq_iff_eq, State.label_char] at hends
      obtain ⟨hcode, rfl⟩ := hends
      obtain ⟨rfl, -⟩ := State.of_label_code hcode
      rfl

/-! ## §3. Tidy texts and trimming. -/

/-- **A tidy text is trimmed to itself.** -/
theorem trimmed_of_tidy {ms : List Mark} (h : Tidy ms)
    (hfeed : ∀ m ∈ ms, endsLine m = true → m = lineFeed) : trimmed ms = ms := by
  unfold trimmed keptLines
  rw [filter_map_of_tidyLine h, intercalate_codeLines hfeed]

theorem endsLine_of_mem_keptLines {ms line : List Mark} (h : line ∈ keptLines ms) :
    ∀ m ∈ line, endsLine m = false := by
  obtain ⟨whole, hwhole, rfl⟩ := List.mem_map.mp h
  intro m hm
  exact not_of_mem_splitOnP (List.mem_filter.mp hwhole).1 m (mem_of_mem_dropTrailing hm)

/-- **What trimming leaves is tidy**, unless it leaves nothing. -/
theorem tidy_trimmed (ms : List Mark) : trimmed ms = [] ∨ Tidy (trimmed ms) := by
  by_cases hne : keptLines ms = []
  · left
    unfold trimmed
    rw [hne]
    rfl
  · right
    unfold Tidy trimmed
    rw [codeLines_intercalate hne fun line hline => endsLine_of_mem_keptLines hline]
    exact fun line hline => tidyLine_of_mem_keptLines hline

theorem tidy_trimLines (text : List Char) :
    trimLines text = [] ∨ Tidy (labelsFrom .code (trimLines text)) := by
  rw [labelsFrom_trimLines, trimLines_eq]
  rcases tidy_trimmed (labelsFrom .code text) with hnil | htidy
  · left
    rw [hnil]
    rfl
  · exact .inr htidy

theorem trimLines_of_tidy {text : List Char} (h : Tidy (labelsFrom .code text)) :
    trimLines text = text := by
  rw [trimLines_eq, trimmed_of_tidy h (eq_lineFeed_of_labelled (labelled_labelsFrom text .code)),
    unmark_labelsFrom]

/-! ## §4. Parts of a tidy text. -/

theorem endsLine_of_not_blank {m : Mark} (h : isBlank m.char = false) : endsLine m = false := by
  cases hends : endsLine m with
  | false => rfl
  | true =>
      simp only [endsLine, Bool.and_eq_true, beq_iff_eq] at hends
      rw [hends.2] at h
      exact absurd h (by decide)

/-- From a character on that is not blank, a tidy text is tidy. -/
theorem Tidy.of_append_right {xs ys : List Mark} {m : Mark} (h : Tidy (xs ++ m :: ys))
    (hm : isBlank m.char = false) : Tidy (m :: ys) := by
  obtain ⟨before, last, -, -, happend⟩ := exists_splitOnP_append endsLine xs
  obtain ⟨first, after, hys⟩ := List.exists_cons_of_ne_nil (List.splitOnP_ne_nil endsLine ys)
  have hlines : codeLines (m :: ys) = (m :: first) :: after := by
    unfold codeLines
    rw [List.splitOnP_cons_eq_if_modifyHead, hys, endsLine_of_not_blank hm]
    rfl
  have hwhole : codeLines (xs ++ m :: ys) = before ++ (last ++ m :: first) :: after :=
    happend _ _ _ hlines
  unfold Tidy at h ⊢
  rw [hwhole] at h
  rw [hlines]
  -- the first line is the end of a line of the text, and the others are lines of it
  refine List.forall_mem_cons.mpr ⟨⟨isBlankLine_append_cons hm [] first, ?_⟩, ?_⟩
  · have hlast := (h (last ++ m :: first) (by simp)).2
    rwa [List.getLast?_append_of_ne_nil _ (List.cons_ne_nil m first)] at hlast
  · exact fun line hline => h line (by simp [hline])

/-- Up to a character that is not blank, a tidy text is tidy. -/
theorem Tidy.of_append_left {xs ys : List Mark} {m : Mark} (h : Tidy (xs ++ m :: ys))
    (hm : isBlank m.char = false) : Tidy (xs ++ [m]) := by
  obtain ⟨before, last, -, -, happend⟩ := exists_splitOnP_append endsLine xs
  obtain ⟨first, after, hys⟩ := List.exists_cons_of_ne_nil (List.splitOnP_ne_nil endsLine ys)
  have hcons : (m :: ys).splitOnP endsLine = (m :: first) :: after := by
    rw [List.splitOnP_cons_eq_if_modifyHead, hys, endsLine_of_not_blank hm]
    rfl
  have hwhole : codeLines (xs ++ m :: ys) = before ++ (last ++ m :: first) :: after :=
    happend _ _ _ hcons
  have hlines : codeLines (xs ++ [m]) = before ++ [last ++ [m]] :=
    happend _ _ _ (List.splitOnP_eq_singleton (by simpa using endsLine_of_not_blank hm))
  unfold Tidy at h ⊢
  rw [hwhole] at h
  rw [hlines]
  -- the last line ends with the character, and the others are lines of the text
  refine List.forall_mem_append.mpr ⟨fun line hline => h line (by simp [hline]), ?_⟩
  rw [List.forall_mem_singleton]
  exact ⟨isBlankLine_append_cons hm last [], by simpa using isCodeTail_of_not_blank hm⟩

/-- **A part of a tidy text is tidy** if it begins and ends with characters that are not
blank. -/
theorem Tidy.of_infix {ms part : List Mark} (h : Tidy ms) (hpart : part <:+: ms)
    (hne : part ≠ []) (hfirst : ∀ m ∈ part.head?, isBlank m.char = false)
    (hlast : ∀ m ∈ part.getLast?, isBlank m.char = false) : Tidy part := by
  obtain ⟨xs, ys, rfl⟩ := hpart
  obtain ⟨m, rest, rfl⟩ := List.exists_cons_of_ne_nil hne
  rw [List.append_assoc] at h
  have hright : Tidy (m :: rest ++ ys) := h.of_append_right (hfirst m rfl)
  obtain ⟨front, m', hfront⟩ : ∃ front m', m :: rest = front ++ [m'] := by
    simpa using List.eq_nil_or_concat (m :: rest)
  rw [hfront] at hright hlast ⊢
  rw [List.append_assoc] at hright
  exact hright.of_append_left (hlast m' (by simp))

/-! ## §5. Normal form. -/

/-- A text in normal form: each of its lines holds a character that is not blank, and each that
does not end inside an open literal ends in no space, tab or carriage return.  A line before
another one ends in code, and the last one where the text ends. -/
def NormalLines (text : List Char) : Prop :=
  ∀ before line after, codeLines (labels (scan false text .code)) = before ++ line :: after →
    (∃ m ∈ line, isBlank m.char = false)
      ∧ ((after = [] → endState false text = .code) →
          ∃ inner last, line = inner ++ [last] ∧ last.char ∉ [' ', '\t', '\r'])

/-- A line ends in code exactly if it is not the last one or the text ends in code. -/
theorem LabelledLines.of_append {before after : List (List Mark)} {line : List Mark} {s : State}
    (h : LabelledLines (before ++ line :: after) s) :
    ∃ s', Labelled .code line s' ∧ (s' = .code ↔ (after = [] → s = .code)) := by
  induction before with
  | nil =>
      cases h with
      | last hline => exact ⟨s, hline, by simp⟩
      | cons hline rest =>
          have hne : after ≠ [] := by cases rest <;> simp
          exact ⟨.code, hline, by simp [hne]⟩
  | cons first before ih =>
      rw [List.cons_append] at h
      generalize hlines : before ++ line :: after = lines at h ih
      cases h with
      | last hfirst => simp at hlines
      | cons hfirst rest => exact ih rest

/-- At the end of a line space, tab and carriage return are cut off if the line ends in code:
they change no state, so they stand in the state in which it ends. -/
theorem isCodeTail_last_iff {s s' : State} {inner : List Mark} {last : Mark}
    (h : Labelled s (inner ++ [last]) s') :
    isCodeTail last = true ↔ s' = .code ∧ last.char ∈ [' ', '\t', '\r'] := by
  have htail : isLineTail last.char = true ↔ last.char ∈ [' ', '\t', '\r'] := by
    simp [isLineTail, or_assoc]
  have hstate : isLineTail last.char = true → last.state = s' := by
    intro hcut
    obtain ⟨s'', -, hlast⟩ := h.of_append
    obtain ⟨hsame, hread⟩ :=
      labelled_blank hlast (allBlank_nil.cons (isBlank_of_isLineTail hcut))
    rw [hread last List.mem_cons_self, hsame]
  rw [isCodeTail, Bool.and_eq_true, beq_iff_eq, ← htail]
  constructor
  · rintro ⟨hcode, hcut⟩
    exact ⟨(hstate hcut).symm.trans hcode, hcut⟩
  · rintro ⟨rfl, hcut⟩
    exact ⟨hstate hcut, hcut⟩

/-- What it is for a line to be tidy, from the state in which it ends. -/
theorem tidyLine_iff {line : List Mark} {s : State} (h : Labelled .code line s) :
    TidyLine line ↔ (∃ m ∈ line, isBlank m.char = false)
      ∧ (s = .code → ∃ inner last, line = inner ++ [last] ∧ last.char ∉ [' ', '\t', '\r']) := by
  have hblank : isBlankLine line = false ↔ ∃ m ∈ line, isBlank m.char = false := by
    simp [isBlankLine]
  unfold TidyLine
  rw [hblank]
  refine and_congr_right fun hne => ?_
  rcases List.eq_nil_or_concat line with rfl | ⟨inner, last, rfl⟩
  · simp at hne
  rw [List.concat_eq_append] at h ⊢
  have hcut := isCodeTail_last_iff h
  constructor
  · rintro hlast rfl
    refine ⟨inner, last, rfl, fun hchar => ?_⟩
    have hkept : isCodeTail last = false := hlast last (by simp)
    rw [hcut.mpr ⟨rfl, hchar⟩] at hkept
    exact Bool.noConfusion hkept
  · intro hlast m hm
    obtain rfl : last = m := by simpa using hm
    cases hkept : isCodeTail last with
    | false => rfl
    | true =>
        obtain ⟨rfl, hchar⟩ := hcut.mp hkept
        obtain ⟨inner', last', hline, hother⟩ := hlast rfl
        obtain ⟨-, hsame⟩ := List.append_inj' hline rfl
        obtain rfl : last = last' := (List.cons.inj hsame).1
        exact absurd hchar hother

/-- **The tidy texts are those in normal form.** -/
theorem tidy_iff (text : List Char) : Tidy (labelsFrom .code text) ↔ NormalLines text := by
  have hlines := labelledLines_codeLines (labelled_labelsFrom text .code)
  unfold NormalLines
  rw [labels_scan_off, endState_off]
  constructor
  · intro htidy before line after hsplit
    have htidy := htidy line (by simp [hsplit])
    rw [hsplit] at hlines
    obtain ⟨s, hline, hcode⟩ := hlines.of_append
    rwa [tidyLine_iff hline, hcode] at htidy
  · intro hnormal line hmem
    obtain ⟨before, after, hsplit⟩ := List.append_of_mem hmem
    have hnormal := hnormal before line after hsplit
    rw [hsplit] at hlines
    obtain ⟨s, hline, hcode⟩ := hlines.of_append
    rwa [tidyLine_iff hline, hcode]

/-- **Trimming brings a text into normal form**, unless nothing is left of it, and leaves no
other text as it is.  So done twice it does no more than done once. -/
theorem normalLines_trimLines (text : List Char) :
    (trimLines text = [] ∨ NormalLines (trimLines text))
      ∧ (trimLines text = text ↔ text = [] ∨ NormalLines text)
      ∧ trimLines (trimLines text) = trimLines text := by
  have hnormal : ∀ text, trimLines text = [] ∨ NormalLines (trimLines text) := by
    intro text
    rw [← tidy_iff]
    exact tidy_trimLines text
  have hfixed : ∀ text, text = [] ∨ NormalLines text → trimLines text = text := by
    rintro text (rfl | hlines)
    · rfl
    · exact trimLines_of_tidy ((tidy_iff text).mpr hlines)
  refine ⟨hnormal text, ⟨fun hsame => ?_, hfixed text⟩, hfixed _ (hnormal text)⟩
  rw [← hsame]
  exact hnormal text

end SqlStatements.Script
