/-
  SqlStatements.Proofs.Script.TrimmedStatements
  ─────────────────────────────────────────────
  **A text may be trimmed first and cut then, or the other way round.**

  Lines and statements are cut at different places: a line may hold several statements and
  a statement several lines.  But white space in code is nothing to the reading except that
  a word ends at it.  Where trimming takes some of it, a line feed is left, or the text ends;
  so behind each line the same words have been read as in the text, and the same terminators
  end a statement.

  What is left at the two ends of a statement is white space, which the statement loses in
  either order: stripping takes it all, and trimming does not move it.

  Main results:

    • `uncut_trimmed`             — trimming moves no cut,
    • `trimLines_strip`           — a text may be stripped before it is trimmed or after,
    • `splitStatements_trimLines` — the statements of a trimmed text are the statements of
                                    the text, trimmed.
-/
import SqlStatements.Proofs.Script.Concatenation
import SqlStatements.Proofs.Script.Tidy

namespace SqlStatements.Script

open Lexical Text

/-! ## §1. Reading line after line. -/

/-- The line feed behind a line ends its last word. -/
theorem readAll_lineFeed (r : Reading) : readAll true r [lineFeed] = r.endWord := by
  have hinert : Inert [lineFeed] := by
    intro m hm
    obtain rfl := List.mem_singleton.mp hm
    exact ⟨rfl, rfl⟩
  rw [readAll_inert hinert (List.cons_ne_nil lineFeed [])]
  rfl

/-- No statement ends in lines exactly if none ends in the first and none in the others, read
with the last word of the first ended. -/
theorem uncut_intercalate_cons {r : Reading} (line : List Mark) (lines : List (List Mark)) :
    Uncut true r (List.intercalate [lineFeed] (line :: lines))
      ↔ Uncut true r line
        ∧ Uncut true (readAll true r line).endWord (List.intercalate [lineFeed] lines) := by
  by_cases hnil : lines = []
  · subst hnil
    rw [List.intercalate_singleton]
    exact (and_iff_left (uncut_nil true _)).symm
  · have hfeed : Uncut true (readAll true r line) [lineFeed] :=
      uncut_of_none (by simp [lineFeed]) _
    rw [List.intercalate_cons_of_ne_nil hnil, List.append_assoc, uncut_append, uncut_append,
      readAll_lineFeed]
    exact and_congr_right fun _ => and_iff_right hfeed

/-- Lines are read one after the other. -/
theorem endWord_readAll_intercalate_cons (r : Reading) (line : List Mark)
    (lines : List (List Mark)) :
    (readAll true r (List.intercalate [lineFeed] (line :: lines))).endWord
      = (readAll true (readAll true r line).endWord (List.intercalate [lineFeed] lines)).endWord := by
  by_cases hnil : lines = []
  · subst hnil
    rw [List.intercalate_singleton]
    exact (Reading.endWord_endWord _).symm
  · rw [List.intercalate_cons_of_ne_nil hnil, List.append_assoc, readAll_append, readAll_append,
      readAll_lineFeed]

/-- What a line loses at its end is padding. -/
theorem exists_dropTrailing_padding {line : List Mark}
    (hsemi : ∀ m ∈ line, m.terminator = true → m.char = ';') :
    ∃ tail, line = dropTrailing isCodeTail line ++ tail ∧ Padding tail := by
  obtain ⟨tail, hline, htail⟩ := exists_dropTrailing_append isCodeTail line
  have hblank : AllBlank tail := fun m hm => (of_isCodeTail (htail m hm)).2
  exact ⟨tail, hline, hblank.padding fun m hm => hsemi m (hline ▸ List.mem_append_right _ hm)⟩

/-- **The lines that are kept are read as all lines are**, and no statement ends in them if
none ends in all. -/
theorem uncut_kept {lines : List (List Mark)}
    (hsemi : ∀ line ∈ lines, ∀ m ∈ line, m.terminator = true → m.char = ';') {r : Reading}
    (hrest : r.endWord = r) (huncut : Uncut true r (List.intercalate [lineFeed] lines)) :
    Uncut true r (List.intercalate [lineFeed]
        ((lines.filter (!isBlankLine ·)).map (dropTrailing isCodeTail)))
      ∧ (readAll true r (List.intercalate [lineFeed]
          ((lines.filter (!isBlankLine ·)).map (dropTrailing isCodeTail)))).endWord
        = (readAll true r (List.intercalate [lineFeed] lines)).endWord := by
  -- at the end of each line the reading is at rest, so the induction may take any such reading
  induction lines generalizing r with
  | nil => exact ⟨uncut_nil true r, rfl⟩
  | cons line lines ih =>
      obtain ⟨hline, hlines⟩ := List.forall_mem_cons.mp hsemi
      obtain ⟨hfirst, hlater⟩ := (uncut_intercalate_cons line lines).mp huncut
      rw [endWord_readAll_intercalate_cons]
      cases hblank : isBlankLine line with
      | true =>
          have hpadding : Padding line := (isBlankLine_iff.mp hblank).padding hline
          have hend : (readAll true r line).endWord = r := by
            rw [endWord_readAll_inert hpadding.inert, hrest]
          rw [hend] at hlater ⊢
          rw [List.filter_cons_of_neg (by simp [hblank])]
          exact ih hlines hrest hlater
      | false =>
          obtain ⟨tail, hsplit, htail⟩ := exists_dropTrailing_padding hline
          have hend : (readAll true r line).endWord
              = (readAll true r (dropTrailing isCodeTail line)).endWord := by
            conv => lhs; rw [hsplit, readAll_append, endWord_readAll_inert htail.inert]
          rw [hend] at hlater ⊢
          rw [hsplit, uncut_append] at hfirst
          obtain ⟨ihUncut, ihRead⟩ := ih hlines (Reading.endWord_endWord _) hlater
          rw [List.filter_cons_of_pos (by simp [hblank]), List.map_cons, uncut_intercalate_cons,
            endWord_readAll_intercalate_cons]
          exact ⟨⟨hfirst.1, ihUncut⟩, ihRead⟩

section
variable {triggerBlocks : Bool}

/-- Without trigger blocks no statement ends in a text exactly if it has no terminator. -/
theorem uncut_off_iff {ms : List Mark} :
    Uncut false {} ms ↔ ∀ m ∈ ms, m.terminator = false := by
  refine ⟨fun huncut m hm => ?_, fun hnone => uncut_of_none hnone {}⟩
  obtain ⟨xs, ys, rfl⟩ := List.append_of_mem hm
  rw [uncut_append, uncut_cons, endsStatement_off] at huncut
  exact huncut.2.1

/-- **Trimming moves no cut.** -/
theorem uncut_trimmed {ms : List Mark} {s : State} (h : Labelled .code ms s)
    (huncut : Uncut triggerBlocks {} ms) :
    Uncut triggerBlocks {} (trimmed ms)
      ∧ (readAll triggerBlocks {} (trimmed ms)).endWord
        = (readAll triggerBlocks {} ms).endWord := by
  cases triggerBlocks with
  | false =>
      rw [uncut_off_iff] at huncut ⊢
      rw [readAll_off, readAll_off]
      refine ⟨fun m hm => ?_, rfl⟩
      rw [← trimmedBetween_alone] at hm
      rcases mem_trimmedBetween hm with rfl | hm
      · rfl
      · exact huncut m hm
  | true =>
      have hjoined := intercalate_codeLines (eq_lineFeed_of_labelled h)
      have hlines : ∀ line ∈ codeLines ms, ∀ m ∈ line, m.terminator = true → m.char = ';' :=
        fun line hline m hm => h.char_of_terminator m (mem_of_mem_splitOnP hline hm)
      rw [← hjoined] at huncut
      have hkept := uncut_kept hlines rfl huncut
      rwa [hjoined] at hkept

end

/-! ## §2. Stripping. -/

/-- A text that begins with a character that is not blank begins with it when trimmed. -/
theorem trimmed_cons {x : Mark} (hx : isBlank x.char = false) (ys : List Mark) :
    trimmed (x :: ys) = x :: trimmedBetween true false ys := by
  rw [← trimmedBetween_alone]
  exact trimmedBetween_append false false (endsLine_of_not_blank hx) hx [] ys

/-- A text that ends with a character that is not blank ends with it when trimmed. -/
theorem trimmed_concat {x : Mark} (hx : isBlank x.char = false) (xs : List Mark) :
    trimmed (xs ++ [x]) = trimmedBetween false true xs ++ [x] := by
  rw [← trimmedBetween_alone]
  exact trimmedBetween_append false false (endsLine_of_not_blank hx) hx xs []

/-- What is left of white space is white space. -/
theorem AllBlank.trimmedBetween {ms : List Mark} (h : AllBlank ms) (left right : Bool) :
    AllBlank (trimmedBetween left right ms) := by
  intro m hm
  rcases mem_trimmedBetween hm with rfl | hm
  · rfl
  · exact h m hm

/-- **White space at the ends of a text is trimmed by itself**, and nothing of it comes into
the text. -/
theorem exists_trimmed_padded {before ms behind : List Mark} (hbefore : AllBlank before)
    (hbehind : AllBlank behind) (hne : ms ≠ []) (hfirst : ∀ m ∈ ms.head?, isBlank m.char = false)
    (hlast : ∀ m ∈ ms.getLast?, isBlank m.char = false) :
    ∃ left right, AllBlank left ∧ AllBlank right
      ∧ trimmed (before ++ ms ++ behind) = left ++ trimmed ms ++ right := by
  refine ⟨_, _, hbefore.trimmedBetween false true, hbehind.trimmedBetween true false, ?_⟩
  obtain ⟨x, ys, hx⟩ := List.exists_cons_of_ne_nil hne
  obtain ⟨xs, y, hy⟩ : ∃ xs y, ms = xs ++ [y] := by simpa [hne] using List.eq_nil_or_concat ms
  have hxblank : isBlank x.char = false := hfirst x (by simp [hx])
  have hyblank : isBlank y.char = false := hlast y (by simp [hy])
  -- first the white space before the text is split off, then that behind it
  have hleft : trimmed (before ++ (ms ++ behind))
      = trimmedBetween false true before ++ trimmed (ms ++ behind) := by
    rw [hx, List.cons_append, trimmed_cons hxblank, ← trimmedBetween_alone]
    exact trimmedBetween_append false false (endsLine_of_not_blank hxblank) hxblank before _
  have hright : trimmed (ms ++ behind) = trimmed ms ++ trimmedBetween true false behind := by
    rw [hy, trimmed_concat hyblank, List.append_assoc, ← trimmedBetween_alone]
    rw [List.append_assoc]
    exact trimmedBetween_append false false (endsLine_of_not_blank hyblank) hyblank xs behind
  rw [List.append_assoc, hleft, hright, List.append_assoc]

/-- A text that is stripped is stripped when it has been trimmed. -/
theorem strip_trimmed {ms : List Mark} (hfirst : ∀ m ∈ ms.head?, isBlank m.char = false)
    (hlast : ∀ m ∈ ms.getLast?, isBlank m.char = false) :
    strip (unmark (trimmed ms)) = unmark (trimmed ms) := by
  refine strip_eq_self ?_ ?_
  · cases ms with
    | nil => simp [trimmed, keptLines, codeLines, isBlankLine]
    | cons x ys =>
        rw [trimmed_cons (hfirst x rfl)]
        simpa using hfirst x rfl
  · rcases List.eq_nil_or_concat ms with rfl | ⟨xs, y, rfl⟩
    · simp [trimmed, keptLines, codeLines, isBlankLine]
    · have hy : isBlank y.char = false := hlast y (by simp)
      rw [List.concat_eq_append, trimmed_concat hy]
      simpa using hy

/-- **A text may be stripped before it is trimmed or after.** -/
theorem trimLines_strip (text : List Char) : trimLines (strip text) = strip (trimLines text) := by
  obtain ⟨before, behind, hbefore, hbehind, hlabels⟩ := exists_labelsFrom_strip text
  have hbefore' : AllBlank before := fun m hm => (hbefore m hm).1
  have hbehind' : AllBlank behind := fun m hm => (hbehind m hm).1
  rw [trimLines_eq, trimLines_eq, hlabels]
  by_cases hnil : strip text = []
  · -- the text is blank, and so is what is left of it
    have hblank : AllBlank (trimmed (before ++ behind)) := by
      rw [← trimmedBetween_alone]
      exact (hbefore'.append hbehind').trimmedBetween false false
    have hnone : strip (unmark (trimmed (before ++ behind))) = [] :=
      strip_eq_nil_iff.mpr (allBlank_iff_unmark.mp hblank)
    rw [hnil]
    show [] = strip (unmark (trimmed (before ++ [] ++ behind)))
    rw [List.append_nil, hnone]
  · have hunmark := unmark_labelsFrom .code (strip text)
    generalize labelsFrom .code (strip text) = ms at hunmark ⊢
    have hfirst : ∀ m ∈ ms.head?, isBlank m.char = false := by
      intro m hm
      apply head?_strip text
      rw [← hunmark]
      exact char_mem_head?_unmark hm
    have hlast : ∀ m ∈ ms.getLast?, isBlank m.char = false := by
      intro m hm
      apply getLast?_strip text
      rw [← hunmark]
      exact char_mem_getLast?_unmark hm
    have hne : ms ≠ [] := by
      rintro rfl
      exact hnil hunmark.symm
    obtain ⟨left, right, hleft, hright, htrimmed⟩ :=
      exists_trimmed_padded hbefore' hbehind' hne hfirst hlast
    rw [htrimmed, unmark_append, unmark_append,
      strip_append_blank _ (allBlank_iff_unmark.mp hright),
      strip_blank_append (allBlank_iff_unmark.mp hleft), strip_trimmed hfirst hlast]

/-- Of a text that begins with a character that is not blank, something is left. -/
theorem trimLines_eq_nil_iff {text : List Char} (h : ∀ c ∈ text.head?, isBlank c = false) :
    trimLines text = [] ↔ text = [] := by
  cases text with
  | nil => exact iff_of_true rfl rfl
  | cons c rest =>
      have hc : isBlank (State.code.label c).char = false := by
        rw [State.label_char]
        exact h c rfl
      rw [trimLines_eq]
      show unmark (trimmed (State.code.label c :: labelsFrom _ rest)) = [] ↔ _
      rw [trimmed_cons hc]
      exact iff_of_false (List.cons_ne_nil _ _) (List.cons_ne_nil c rest)

/-! ## §3. Statements. -/

section
variable {triggerBlocks : Bool}

/-- A single segment is trimmed before or after it is stripped to a statement. -/
theorem statementsOf_trimLines (segment : List Char) :
    statementsOf [trimLines segment] = (statementsOf [segment]).map trimLines := by
  have hempty := trimLines_eq_nil_iff (head?_strip segment)
  rw [statementsOf_singleton, statementsOf_singleton, ← trimLines_strip]
  by_cases hnil : strip segment = []
  · rw [if_pos hnil, if_pos (hempty.mpr hnil)]
    rfl
  · rw [if_neg hnil, if_neg (mt hempty.mp hnil)]
    rfl

/-- **A piece between its neighbours has the statement of the piece**, trimmed. -/
theorem statementsOf_trimmedBetween {piece : List Mark} {s : State} (h : Labelled .code piece s)
    (huncut : Uncut triggerBlocks {} piece) (left right : Bool) :
    statementsOf (segments triggerBlocks {} (trimmedBetween left right piece))
        = (statementsOf [unmark piece]).map trimLines
      ∧ (readAll triggerBlocks {} (trimmedBetween left right piece)).endWord
        = (readAll triggerBlocks {} piece).endWord := by
  obtain ⟨hlabels, -⟩ := h.labelsFrom_eq
  obtain ⟨before, behind, hbefore, hbehind, htrimmed⟩ :=
    exists_trimmedBetween_padding left right (unmark piece)
  rw [hlabels, labelsFrom_trimLines, hlabels] at htrimmed
  obtain ⟨hcuts, hread⟩ := uncut_trimmed h huncut
  have htext : unmark (trimmed piece) = trimLines (unmark piece) := by
    rw [trimLines_eq, hlabels]
  rw [htrimmed, endWord_readAll_padded hbefore hbehind, statementsOf_padded hbefore hbehind,
    hcuts.segments_eq, htext, statementsOf_trimLines]
  exact ⟨rfl, hread⟩

/-- **Between its neighbours a text has the statements of the text**, each trimmed. -/
theorem Pieces.statementsOf_trimmedBetween {ms : List Mark} {pieces : List (List Mark)}
    (h : Pieces triggerBlocks ms pieces) {s : State} (hlabels : Labelled .code ms s)
    (left right : Bool) :
    statementsOf (segments triggerBlocks {} (trimmedBetween left right ms))
      = (statementsOf (pieces.map unmark)).map trimLines := by
  induction h generalizing left with
  | last uncut => exact (Script.statementsOf_trimmedBetween hlabels uncut left right).1
  | @cons piece m rest pieces uncut ends more ih =>
      have hm : m.terminator = true := terminator_of_ends ends
      obtain ⟨hpiece, hrest⟩ := hlabels.at_terminator hm
      have hsemi : m.char = ';' := hlabels.char_of_terminator m (by simp) hm
      have hblank : isBlank m.char = false := by rw [hsemi]; rfl
      obtain ⟨hfirst, hread⟩ := Script.statementsOf_trimmedBetween hpiece uncut left true
      -- the terminator still ends a statement, for the same words stand before it
      have hends : endsStatement
          (readAll triggerBlocks {} (trimmedBetween left true piece)) m = true := by
        unfold endsStatement at ends ⊢
        rwa [hread]
      rw [trimmedBetween_append left right (endsLine_of_not_blank hblank) hblank,
        segments_append_of_ends hends, statementsOf_append, hfirst, ih hrest true,
        ← List.map_append, ← statementsOf_append]
      rfl

end

/-- **A text may be trimmed before it is cut into statements, or statement by statement
after.** -/
theorem splitStatements_trimLines (text : List Char) (triggerBlocks : Bool) :
    splitStatements (trimLines text) triggerBlocks
      = (splitStatements text triggerBlocks).map trimLines := by
  obtain ⟨pieces, hpieces⟩ := exists_pieces triggerBlocks (labelsFrom .code text)
  have hlabels := labelled_labelsFrom text .code
  rw [splitStatements_eq, splitStatements_eq, labelsFrom_trimLines, ← trimmedBetween_alone,
    hpieces.statementsOf_trimmedBetween hlabels, hpieces.segments_eq]

end SqlStatements.Script
