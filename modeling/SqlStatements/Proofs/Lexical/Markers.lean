/-
  SqlStatements.Proofs.Lexical.Markers
  ────────────────────────────────────
  **A text has a comment if and only if a comment marker stands in its code.**

  The scan takes a marker in code for the beginning of a comment, so in the marks of a scan
  no marker stands in code.  The labels of a text are read without looking for comments; if
  no marker stands in code there, the scan finds none and gives the same labels.

  Main results:

    • `isChain_marksFrom`  — the marks of a scan hold no marker in code,
    • `exists_comment_iff` — a scan finds a comment if and only if the labels hold a marker.
-/
import SqlStatements.Proofs.Lexical.Grammar
import SqlStatements.Proofs.Text.Cutting

namespace SqlStatements.Lexical

/-! ## §1. Markers in code. -/

/-- Whether two characters that meet are no comment marker in code. -/
def NoMarker (m next : Mark) : Prop :=
  m.state = .code → next.state = .code → ¬ startsComment m.char (some next.char)

theorem head?_marksFrom (comments : Bool) (mode : Mode) (text : List Char) :
    (marksFrom comments mode text).head?.map Mark.char = text.head? := by
  rw [← List.head?_map]
  exact congrArg List.head? (unmark_marksFrom comments text mode)

/-- With comments on, a character that is left in code begins no marker. -/
theorem Reads.not_startsComment {mode : Mode} {c : Char} {lookahead : Option Char} {m : Mark}
    {after : Mode} (h : Reads true mode c lookahead m after) (howes : mode.Owes (some c))
    (hm : m.state = .code) : ¬ startsComment c lookahead := by
  cases h with
  | terminator => simp [startsComment]
  | lineMarker | blockMarker | lineText | blockEnd | blockText => simp at hm
  | opening quote | doubled quote | closing quote | content quote =>
      exact absurd hm (State.quote?_ne_code quote)
  | plain code => exact code.2.2.2 rfl
  | lineEnd atBreak =>
      have hc : c = '\n' ∨ c = '\r' := by simpa [isLineBreak] using atBreak
      rcases hc with rfl | rfl <;> simp [startsComment]
  | second =>
      -- what is owed belongs to a comment or to a literal
      cases howes with
      | lineMarker | blockMarker | blockEnd => simp at hm
      | doubled quote => exact absurd hm (State.quote?_ne_code quote)

/-- Outside comments a comment begins with a marker in code. -/
theorem Reads.begins_comment {mode : Mode} {c : Char} {lookahead : Option Char} {m : Mark}
    {after : Mode} (h : Reads true mode c lookahead m after) (hmode : mode.inComment = false)
    (hm : m.state.isComment = true) : mode.bare = .code ∧ startsComment c lookahead := by
  cases h with
  | terminator | plain | lineEnd => simp [State.isComment] at hm
  | lineMarker => exact ⟨rfl, .inl ⟨rfl, rfl⟩⟩
  | blockMarker => exact ⟨rfl, .inr ⟨rfl, rfl⟩⟩
  | opening quote | doubled quote | closing quote | content quote =>
      simp [State.quote?_not_comment quote] at hm
  | lineText | blockEnd | blockText => simp [Mode.inComment, State.isComment] at hmode
  | second => simp [Mode.inComment, hm] at hmode

/-! ## §2. Whole runs. -/

/-- **The marks of a scan hold no comment marker in code.** -/
theorem isChain_marksFrom :
    ∀ (text : List Char) (mode : Mode), mode.Owes text.head? →
      (marksFrom true mode text).IsChain NoMarker
  | [], _, _ => .nil
  | c :: rest, mode, howes => by
      obtain ⟨m, after, step⟩ := exists_reads true mode c rest.head?
      rw [step.marksFrom_cons]
      refine (isChain_marksFrom rest after step.owes).cons fun next hnext hm _ => ?_
      -- the next mark is of the character that the step has looked at
      have hlookahead : some next.char = rest.head? := by
        rw [← head?_marksFrom true after rest, hnext]
        rfl
      rw [step.char, hlookahead]
      exact step.not_startsComment howes hm

/-- Where the labels hold no marker, no comment is found. -/
theorem not_comment_of_isChain :
    ∀ (text : List Char) (mode : Mode), mode.Owes text.head? → mode.inComment = false →
      (labelsFrom mode.bare text).IsChain NoMarker →
      ∀ m ∈ marksFrom true mode text, m.state.isComment = false
  | [], _, _, _, _ => by simp [marksFrom]
  | c :: rest, mode, howes, hmode, hchain => by
      obtain ⟨m, after, step⟩ := exists_reads true mode c rest.head?
      have hm : m.state.isComment = false := by
        by_contra hcomment
        obtain ⟨hbare, hmarker⟩ := step.begins_comment hmode (by simpa using hcomment)
        rw [hbare] at hchain
        -- both characters of the marker are labelled as code
        rcases hmarker with ⟨rfl, hhead⟩ | ⟨rfl, hhead⟩ <;>
          obtain ⟨rest, rfl⟩ := List.head?_eq_some_iff.mp hhead
        · exact (List.isChain_cons_cons.mp hchain).1 rfl rfl (.inl ⟨rfl, rfl⟩)
        · exact (List.isChain_cons_cons.mp hchain).1 rfl rfl (.inr ⟨rfl, rfl⟩)
      have hrest : (labelsFrom after.bare rest).IsChain NoMarker := by
        rw [(step.bare_kept howes hm).2]
        exact hchain.tail
      have hoff : after.inComment = false := ((step.comments_irrelevant hm).off hmode).2
      rw [step.marksFrom_cons]
      intro m' hm'
      rcases List.mem_cons.mp hm' with rfl | hm'
      · exact hm
      · exact not_comment_of_isChain rest after step.owes hoff hrest m' hm'

/-- **A scan finds no comment if and only if the labels hold no marker in code.** -/
theorem isChain_labelsFrom_iff (text : List Char) :
    (labelsFrom .code text).IsChain NoMarker
      ↔ ∀ m ∈ marks true text .code, m.state.isComment = false := by
  constructor
  · exact not_comment_of_isChain text (.ready .code true) .ready rfl
  · intro hnone
    have hmarks := isChain_marksFrom text (.ready .code true) .ready
    -- nothing is left out, so the labels are those of the marks
    have hlabels : (kept (marks true text .code)).map Mark.label
        = labelsFrom .code (unmark (kept (marks true text .code))) :=
      label_marksFrom_kept true text (.ready .code true) .ready
    rw [kept_eq_self hnone, unmark_marks] at hlabels
    rw [← hlabels, List.isChain_map]
    exact hmarks

/-! ## §3. Spans. -/

/-- Every span of a script has a mark of its state. -/
theorem exists_mark_of_mem_scan {comments : Bool} {text : List Char} {s : Span}
    (hs : s ∈ scan comments text .code) : ∃ m ∈ marks comments text .code, m.state = s.state := by
  obtain ⟨c, cs, htext⟩ := List.exists_cons_of_ne_nil ((lexed_scan comments text).text_ne_nil s hs)
  have hlabel : (⟨c, s.state, s.terminator, false⟩ : Mark)
      ∈ labels (scan comments text .code) := by
    refine List.mem_flatMap.mpr ⟨s, hs, ?_⟩
    simp [Span.labels, htext]
  rw [labels_scan] at hlabel
  obtain ⟨m, hm, heq⟩ := List.mem_map.mp hlabel
  exact ⟨m, hm, congrArg Mark.state heq⟩

/-- A script has a comment if and only if its labels hold a marker in code. -/
theorem exists_comment_iff (text : List Char) :
    (∃ s ∈ scan true text .code, s.state.isComment = true)
      ↔ ¬ (labelsFrom .code text).IsChain NoMarker := by
  rw [isChain_labelsFrom_iff]
  constructor
  · rintro ⟨s, hs, hcomment⟩ hnone
    obtain ⟨m, hm, hstate⟩ := exists_mark_of_mem_scan hs
    rw [← hstate, hnone m hm] at hcomment
    exact Bool.noConfusion hcomment
  · intro hsome
    obtain ⟨m, hm, hcomment⟩ : ∃ m ∈ marks true text .code, m.state.isComment = true := by
      simpa using hsome
    obtain ⟨s, hs, hstate⟩ := exists_span_of_mem_marks hm
    exact ⟨s, hs, by rw [hstate, hcomment]⟩

end SqlStatements.Lexical
