/-
  SqlStatements.Proofs.Script.SelfContained
  ─────────────────────────────────────────
  **Texts that stand for themselves wherever a script is expected.**

  A text is self-contained if the scan finds no comment and no terminator in it and is back
  in code behind it, and if a script of this text alone has this text as its one statement.
  All of this can be read off its labels: no marker, no terminator and no line break stands
  in its code, and it does not begin or end with a blank character.

  Main results:

    • `SelfContained.of_labels`  — from the labels,
    • `PlainWord.selfContained`  — words and numbers,
    • `selfContained_literal`    — literals, also with a word in front of them.
-/
import SqlStatements.Proofs.Script.GluedMarkers
import SqlStatements.Proofs.Script.QuoteSafety
import SqlStatements.Proofs.Script.Tidy
import SqlStatements.Proofs.Script.Triggers

namespace SqlStatements.Script

open Lexical Text

/-! ## §1. Self-contained texts. -/

/-- A text without comments and terminators that ends outside literals and is the only
statement of itself. -/
structure SelfContained (text : List Char) : Prop where
  noComment : ∀ s ∈ scan true text .code, s.state.isComment = false
  noTerminator : ∀ s ∈ scan true text .code, s.terminator = false
  endsInCode : endState true text = .code
  single : ∀ triggerBlocks, splitScript text triggerBlocks = [text]

/-- A text of one line that is not blank at its ends is tidy. -/
theorem tidy_line {ms : List Mark} (hne : ms ≠ []) (hline : ∀ m ∈ ms, endsLine m = false)
    (hlast : ∀ m ∈ ms.getLast?, isBlank m.char = false) : Tidy ms := by
  intro line hmem
  obtain rfl : line = ms := by
    unfold codeLines at hmem
    rw [List.splitOnP_eq_singleton hline] at hmem
    exact List.mem_singleton.mp hmem
  have hm : line.getLast? = some (line.getLast hne) := List.getLast?_eq_some_getLast hne
  refine ⟨?_, fun m' hm' => isCodeTail_of_not_blank (hlast m' hm')⟩
  cases hblank : isBlankLine line with
  | false => rfl
  | true =>
      have hall := isBlankLine_iff.mp hblank (line.getLast hne) (List.mem_of_getLast? hm)
      rw [hlast _ hm] at hall
      exact absurd hall (by decide)

/-- **A text is self-contained if its labels are**: no marker, terminator or line break in
its code. -/
theorem SelfContained.of_labels {text : List Char} (hne : text ≠ [])
    (hfirst : ∀ c ∈ text.head?, isBlank c = false)
    (hlast : ∀ c ∈ text.getLast?, isBlank c = false)
    (hmarkers : (labelsFrom .code text).IsChain NoMarker)
    (hlabels : ∀ m ∈ labelsFrom .code text, m.terminator = false ∧ endsLine m = false)
    (hstate : stateAfter .code text = .code) : SelfContained text := by
  have hmarks := (isChain_labelsFrom_iff text).mp hmarkers
  have hcomment : ∀ s ∈ scan true text .code, s.state.isComment = false := by
    intro s hs
    obtain ⟨m, hm, hsame⟩ := exists_mark_of_mem_scan hs
    rw [← hsame, hmarks m hm]
  refine ⟨hcomment, ?_, ?_, ?_⟩
  · -- without comments the scan is the one that does not look for them
    rw [(labels_scan_removeComments text).2 hcomment]
    intro s hs
    cases hterminator : s.terminator with
    | false => rfl
    | true =>
        obtain ⟨m, hm, hsemi⟩ := (exists_terminator_iff text).mp ⟨s, hs, hterminator⟩
        rw [(hlabels m hm).1] at hsemi
        exact absurd hsemi (by decide)
  · rw [← hstate, ← endState_off]
    unfold endState
    rw [modeAfter_comments_irrelevant text (.ready .code true) hmarks]
  · intro triggerBlocks
    have hlength : labelsFrom .code text ≠ [] := by
      rw [← List.length_pos_iff, length_labelsFrom]
      exact List.length_pos_iff.mpr hne
    have hend : ∀ m ∈ (labelsFrom .code text).getLast?, isBlank m.char = false := by
      intro m hm
      have hchar := char_mem_getLast?_unmark hm
      rw [unmark_labelsFrom] at hchar
      exact hlast m.char hchar
    have htidy := tidy_line hlength (fun m hm => (hlabels m hm).2) hend
    have huncut : Uncut triggerBlocks {} (labelsFrom .code text) :=
      uncut_of_none (fun m hm => (hlabels m hm).1) {}
    unfold splitScript
    rw [removeComments_of_isChain hmarkers, trimLines_of_tidy htidy]
    exact splitStatements_of_uncut huncut (strip_eq_self hfirst hlast) hne

/-! ## §2. Words and numbers. -/

/-- The characters of words and numbers. -/
def isPlainChar (c : Char) : Bool :=
  c.isAlphanum || c == '.' || c == '+' || c == '-'

/-- Whether two characters that meet are not two minus signs. -/
def NoDash (c next : Char) : Prop := c = '-' → next ≠ '-'

/-- A word or a number: characters of words, and nowhere two minus signs in a row. -/
structure PlainWord (run : List Char) : Prop where
  chars : ∀ c ∈ run, isPlainChar c = true
  noDash : run.IsChain NoDash

/-- A word may follow one without a minus sign. -/
theorem PlainWord.append {run rest : List Char} (hrun : ∀ c ∈ run, isPlainChar c = true)
    (hdash : '-' ∉ run) (hrest : PlainWord rest) : PlainWord (run ++ rest) where
  chars c hc := (List.mem_append.mp hc).elim (hrun c) (hrest.chars c)
  noDash := by
    have hnot : ∀ c ∈ run, c ≠ '-' := fun c hc heq => hdash (heq ▸ hc)
    refine List.isChain_append.mpr ⟨isChain_iff_pairs.mpr fun c d hpair hc => ?_, hrest.noDash,
      fun c hlast d _ hc => absurd hc (hnot c (List.mem_of_getLast? hlast))⟩
    exact absurd hc (hnot c (hpair.subset (by simp)))

/-- A text without a minus sign is a word by its characters. -/
theorem PlainWord.of_not_mem {run : List Char} (hrun : ∀ c ∈ run, isPlainChar c = true)
    (hdash : '-' ∉ run) : PlainWord run := by
  have hnil : PlainWord [] := ⟨by simp, .nil⟩
  have key := PlainWord.append hrun hdash hnil
  rwa [List.append_nil] at key

/-- A sign may stand in front of a word that does not begin with one. -/
theorem PlainWord.cons {c : Char} {rest : List Char} (hc : isPlainChar c = true)
    (hhead : rest.head? ≠ some '-') (hrest : PlainWord rest) : PlainWord (c :: rest) where
  chars d hd := by
    rcases List.mem_cons.mp hd with rfl | hd
    · exact hc
    · exact hrest.chars d hd
  noDash := by
    refine List.isChain_cons.mpr ⟨?_, hrest.noDash⟩
    rintro d hd - rfl
    exact hhead hd

theorem ne_of_isPlainChar {c : Char} (h : isPlainChar c = true) (d : Char)
    (hd : isPlainChar d = false) : c ≠ d := by
  rintro rfl
  exact absurd h (by simp [hd])

theorem not_blank_of_isPlainChar {c : Char} (h : isPlainChar c = true) : isBlank c = false := by
  cases hblank : isBlank c with
  | false => rfl
  | true =>
      have hword := continuesWord_of_blank hblank
      simp only [continuesWord, Bool.or_eq_false_iff] at hword
      simp only [isPlainChar, hword.1.1, Bool.false_or, Bool.or_eq_true, beq_iff_eq] at h
      rcases h with (rfl | rfl) | rfl <;> exact absurd hblank (by decide)

/-- The labels of words and numbers. -/
theorem PlainWord.labelsFrom_eq {run : List Char} (h : PlainWord run) :
    labelsFrom .code run = codeLabels run ∧ stateAfter .code run = .code
      ∧ (codeLabels run).IsChain NoMarker
      ∧ ∀ m ∈ codeLabels run, m.terminator = false ∧ endsLine m = false := by
  have hne : ∀ c ∈ run, ∀ d, isPlainChar d = false → c ≠ d :=
    fun c hc d hd => ne_of_isPlainChar (h.chars c hc) d hd
  obtain ⟨hlabels, hstate⟩ := labelsFrom_codeLabels fun c hc =>
    ⟨hne c hc _ (by decide), hne c hc _ (by decide), hne c hc _ (by decide)⟩
  refine ⟨hlabels, hstate, ?_, ?_⟩
  · unfold codeLabels
    rw [isChain_iff_pairs]
    rintro m m' hpair - - hmarker
    obtain ⟨pair, hnext, hmap⟩ := List.infix_map_iff.mp hpair
    match pair, hmap with
    | [c, d], hmap =>
        obtain ⟨rfl, rfl⟩ : _ ∧ _ := by simpa using hmap
        rcases hmarker with ⟨hc, hd⟩ | ⟨hc, -⟩
        · exact isChain_iff_pairs.mp h.noDash c d hnext hc (Option.some.inj hd)
        · exact hne c (hnext.subset (by simp)) '/' (by decide) hc
  · intro m hm
    obtain ⟨c, hc, rfl⟩ := List.mem_map.mp hm
    exact ⟨rfl, by simp [endsLine, hne c hc '\n' (by decide)]⟩

/-- **Words and numbers are self-contained.** -/
theorem PlainWord.selfContained {run : List Char} (h : PlainWord run) (hne : run ≠ []) :
    SelfContained run := by
  obtain ⟨hlabels, hstate, hmarkers, hplain⟩ := h.labelsFrom_eq
  rw [← hlabels] at hmarkers hplain
  exact .of_labels hne
    (fun c hc => not_blank_of_isPlainChar (h.chars c (List.mem_of_mem_head? hc)))
    (fun c hc => not_blank_of_isPlainChar (h.chars c (List.mem_of_getLast? hc)))
    hmarkers hplain hstate

/-! ## §3. Literals. -/

section
variable {kind : State} {q : Char} (quote : kind.quote? = some q)
include quote

/-- Behind its content a literal is still open. -/
theorem stateAfter_doubled (content : List Char) : stateAfter kind (doubled q content) = kind := by
  have hcode := State.quote?_ne_code quote
  induction content with
  | nil => rfl
  | cons c content ih =>
      by_cases hc : c = q
      · -- the first of two quotes closes the literal, and the second opens it again
        subst hc
        have hclosed : kind.after c = .code := by simp [State.after, hcode, quote]
        have hopened : State.code.after c = kind := State.opened_of_quote? quote
        rw [doubled_cons_quote]
        show stateAfter ((kind.after c).after c) (doubled c content) = kind
        rw [hclosed, hopened, ih]
      · have hstays : kind.after c = kind := by
          simp [State.after, hcode, quote, Ne.symm hc]
        rw [doubled_cons_other hc]
        show stateAfter (kind.after c) (doubled q content) = kind
        rw [hstays, ih]

/-- The labels of a literal, and where it ends. -/
theorem labelsFrom_literal (content : List Char) :
    labelsFrom .code (literal q content) = quotedLabels kind (literal q content)
      ∧ stateAfter .code (literal q content) = .code := by
  constructor
  · have hmarks := marksFrom_literal false quote true content 0
      (show ([] : List Char).head? ≠ some q by simp)
    rw [List.append_nil] at hmarks
    calc labelsFrom .code (literal q content)
        = (marksFrom false (.ready .code true) (literal q content)).map Mark.label :=
          (label_marksFrom_off _ rfl true).symm
      _ = ((⟨kind, 0, literal q content, false⟩ : Span).marks).map Mark.label := by
          rw [hmarks, marksFrom, List.append_nil]
      _ = quotedLabels kind (literal q content) := Span.marks_map_label _
  · have hopened : State.code.after q = kind := State.opened_of_quote? quote
    have hclosed : kind.after q = .code := by
      simp [State.after, State.quote?_ne_code quote, quote]
    show stateAfter (State.code.after q) (doubled q content ++ [q]) = .code
    rw [hopened, stateAfter_append, stateAfter_doubled quote]
    exact hclosed

/-- No marker stands in a literal or in front of it. -/
theorem isChain_append_quotedLabels {ms : List Mark} (h : ms.IsChain NoMarker)
    (text : List Char) : (ms ++ quotedLabels kind text).IsChain NoMarker := by
  have hkind : ∀ m ∈ quotedLabels kind text, m.state ≠ .code := by
    intro m hm
    obtain ⟨c, -, rfl⟩ := List.mem_map.mp hm
    exact State.quote?_ne_code quote
  refine List.isChain_append.mpr ⟨h, isChain_iff_pairs.mpr fun m m' hpair hcode => ?_,
    fun m _ m' hm' _ hcode => absurd hcode (hkind m' (List.mem_of_mem_head? hm'))⟩
  exact absurd hcode (hkind m (hpair.subset (by simp)))

/-- **A literal is self-contained**, and so is one behind a word. -/
theorem selfContained_literal {run : List Char} (h : PlainWord run) (content : List Char) :
    SelfContained (run ++ literal q content) := by
  obtain ⟨hrun, hrunState, hrunMarkers, hrunPlain⟩ := h.labelsFrom_eq
  obtain ⟨hliteral, hliteralState⟩ := labelsFrom_literal quote content
  have hlabels : labelsFrom .code (run ++ literal q content)
      = codeLabels run ++ quotedLabels kind (literal q content) := by
    rw [labelsFrom_append, hrunState, hrun, hliteral]
  have hblank : isBlank q = false := isBlank_quote quote
  refine .of_labels (by simp [literal]) ?_ ?_ ?_ ?_ ?_
  · intro c hc
    cases run with
    | nil =>
        obtain rfl : q = c := by simpa [literal] using hc
        exact hblank
    | cons d run =>
        obtain rfl : d = c := by simpa using hc
        exact not_blank_of_isPlainChar (h.chars d List.mem_cons_self)
  · intro c hc
    rw [literal, ← List.cons_append, ← List.append_assoc, List.getLast?_concat] at hc
    obtain rfl : q = c := Option.some.inj hc
    exact hblank
  · rw [hlabels]
    exact isChain_append_quotedLabels quote hrunMarkers _
  · rw [hlabels]
    intro m hm
    rcases List.mem_append.mp hm with hm | hm
    · exact hrunPlain m hm
    · obtain ⟨c, -, rfl⟩ := List.mem_map.mp hm
      exact ⟨rfl, endsLine_quoted quote c⟩
  · rw [stateAfter_append, hrunState, hliteralState]

end

end SqlStatements.Script
