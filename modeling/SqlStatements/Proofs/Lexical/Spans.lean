/-
  SqlStatements.Proofs.Lexical.Spans
  ──────────────────────────────────
  **Spans and marks say the same of every character.**

  A mark that opens no span belongs to the span of the mark before it.  In a scan such a
  mark has the state of the mark before it, and neither is a terminator (`Joined`), so a
  span is in one state and the labels of its characters are those of its marks.

  Main results:

    • `joined_marksFrom`   — the invariant, from what a mode knows of the open span,
    • `labels_scan`        — the labels read off the spans are those of the marks,
    • `groupMarks_span`    — marks that make a span are grouped to that span.
-/
import SqlStatements.Proofs.Lexical.Label

namespace SqlStatements.Lexical

/-! ## §1. The open span. -/

/-- The state of the span that is open, if one is. -/
def Mode.current : Mode → Option State
  | .ready s fresh => if fresh then none else some s
  | .owed owner _ => some owner

/-- A mark that opens no span stands in the span that is open. -/
theorem Reads.joins {comments : Bool} {mode : Mode} {c : Char} {lookahead : Option Char}
    {m : Mark} {after : Mode} (h : Reads comments mode c lookahead m after)
    (hm : m.opens = false) : mode.current = some m.state ∧ m.terminator = false := by
  cases h with
  | terminator | lineMarker | blockMarker | opening | lineEnd => simp at hm
  | plain | lineText | blockEnd | blockText | doubled | closing | content =>
      exact ⟨by simpa [Mode.current] using hm, rfl⟩
  | second => exact ⟨rfl, rfl⟩

/-- The span that is open after a character is the span of that character. -/
theorem Reads.current {comments : Bool} {mode : Mode} {c : Char} {lookahead : Option Char}
    {m : Mark} {after : Mode} (h : Reads comments mode c lookahead m after) {s : State}
    (hs : after.current = some s) : m.state = s ∧ m.terminator = false := by
  cases h with
  | terminator | closing => simp [Mode.current] at hs
  | second =>
      obtain ⟨hnext, rfl⟩ : _ ∧ _ = s := by simpa [Mode.current] using hs
      exact ⟨hnext.symm, rfl⟩
  | _ => exact ⟨Option.some.inj hs, rfl⟩

/-- Marks in which only a mark that opens a span may differ from the one before it. -/
def Joined : List Mark → Prop
  | [] => True
  | m :: rest =>
      (∀ next ∈ rest.head?, next.opens = false →
        next.state = m.state ∧ next.terminator = m.terminator) ∧ Joined rest

/-- **The marks of a scan are joined.** -/
theorem joined_marksFrom (comments : Bool) :
    ∀ (text : List Char) (mode : Mode), Joined (marksFrom comments mode text)
  | [], _ => trivial
  | [c], mode => by
      obtain ⟨m, after, step⟩ := exists_reads comments mode c ([] : List Char).head?
      rw [step.marksFrom_cons]
      exact ⟨by simp [marksFrom], trivial⟩
  | c :: d :: rest, mode => by
      obtain ⟨m, after, step⟩ := exists_reads comments mode c (d :: rest).head?
      obtain ⟨m', after', step'⟩ := exists_reads comments after d rest.head?
      have ih := joined_marksFrom comments (d :: rest) after
      rw [step.marksFrom_cons]
      refine ⟨?_, ih⟩
      -- the second mark, if it opens no span, stands in the one that the first has left open
      rw [step'.marksFrom_cons]
      rintro next hnext hopens
      obtain rfl : m' = next := by simpa using hnext
      obtain ⟨hcurrent, hterminator⟩ := step'.joins hopens
      obtain ⟨hstate, hterminator'⟩ := step.current hcurrent
      exact ⟨hstate.symm, hterminator.trans hterminator'.symm⟩

/-- The first mark of a scan that starts afresh opens a span. -/
theorem opens_marksFrom_fresh (comments : Bool) (state : State) (text : List Char) :
    ∀ m ∈ (marksFrom comments (.ready state true) text).head?, m.opens = true := by
  intro m hm
  cases text with
  | nil => simp [marksFrom] at hm
  | cons c rest =>
      obtain ⟨m', after, step⟩ := exists_reads comments (.ready state true) c rest.head?
      rw [step.marksFrom_cons] at hm
      obtain rfl : m' = m := by simpa using hm
      cases hopens : m'.opens with
      | true => rfl
      | false => simpa [Mode.current] using (step.joins hopens).1

/-! ## §2. Grouping. -/

theorem groupMarks_cons_opens {ms : List Mark} (h : ∀ m ∈ ms.head?, m.opens = true)
    (position : Nat) (m : Mark) :
    groupMarks position (m :: ms) = m.toSpan position :: groupMarks (position + 1) ms := by
  cases ms with
  | nil => rfl
  | cons next rest =>
      have hnext : next.opens = true := h next rfl
      conv => lhs; unfold groupMarks
      cases groupMarks (position + 1) (next :: rest) <;> simp [hnext]

theorem groupMarks_cons_joins {next : Mark} (h : next.opens = false) {position : Nat}
    {rest : List Mark} {span : Span} {spans : List Span}
    (hrest : groupMarks (position + 1) (next :: rest) = span :: spans) (m : Mark) :
    groupMarks position (m :: next :: rest)
      = { span with start := position, text := m.char :: span.text } :: spans := by
  conv => lhs; unfold groupMarks
  rw [hrest]
  simp [h]

/-- Where the marks behind do not open a span, the first of them joins the one before. -/
theorem exists_joins_of_not_opens {ms : List Mark} (h : ¬ ∀ m ∈ ms.head?, m.opens = true) :
    ∃ next rest, ms = next :: rest ∧ next.opens = false := by
  cases ms with
  | nil => simp at h
  | cons next rest => exact ⟨next, rest, rfl, by simpa using h⟩

theorem groupMarks_ne_nil (position : Nat) (m : Mark) (ms : List Mark) :
    groupMarks position (m :: ms) ≠ [] := by
  unfold groupMarks
  split
  · split <;> simp
  · simp

/-- Marks that open a span are grouped by themselves. -/
theorem groupMarks_append {ys : List Mark} (h : ∀ m ∈ ys.head?, m.opens = true) :
    ∀ (xs : List Mark) (position : Nat),
      groupMarks position (xs ++ ys)
        = groupMarks position xs ++ groupMarks (position + xs.length) ys
  | [], _ => rfl
  | [m], position => groupMarks_cons_opens h position m
  | m :: next :: rest, position => by
      have ih := groupMarks_append h (next :: rest) (position + 1)
      rw [show position + 1 + (next :: rest).length = position + (m :: next :: rest).length by
        simp only [List.length_cons]; omega] at ih
      obtain ⟨span, spans, hgroup⟩ :=
        List.exists_cons_of_ne_nil (groupMarks_ne_nil (position + 1) next rest)
      rw [hgroup] at ih
      cases hopens : next.opens with
      | true =>
          have hnext : ∀ m ∈ (next :: rest ++ ys).head?, m.opens = true := by simp [hopens]
          have hnext' : ∀ m ∈ (next :: rest).head?, m.opens = true := by simp [hopens]
          -- the next mark opens a span, with the second list behind it or without
          rw [List.cons_append, groupMarks_cons_opens hnext, groupMarks_cons_opens hnext', ih,
            hgroup]
          rfl
      | false =>
          -- the first mark joins the first span of the rest, which is the same in both
          rw [groupMarks_cons_joins hopens hgroup]
          exact groupMarks_cons_joins hopens ih m

/-- The marks that make a span: the first opens it. -/
def Span.marks (s : Span) : List Mark :=
  match s.text with
  | [] => []
  | c :: rest =>
      ⟨c, s.state, s.terminator, true⟩ :: rest.map (⟨·, s.state, s.terminator, false⟩)

theorem Span.state_of_mem_marks {s : Span} {m : Mark} (h : m ∈ s.marks) : m.state = s.state := by
  unfold Span.marks at h
  split at h
  · simp at h
  · rcases List.mem_cons.mp h with rfl | h
    · rfl
    · obtain ⟨c, -, rfl⟩ := List.mem_map.mp h
      rfl

theorem Span.unmark_labels (s : Span) : unmark s.labels = s.text := by
  simp [Span.labels, unmark, Function.comp_def]

/-- The labels of some spans are of their texts. -/
theorem unmark_labels (spans : List Span) : unmark (labels spans) = spans.flatMap (·.text) := by
  induction spans with
  | nil => rfl
  | cons s spans ih =>
      show unmark (s.labels ++ labels spans) = s.text ++ spans.flatMap (·.text)
      rw [unmark_append, ih, s.unmark_labels]

/-- The marks of a span are labelled as the span is. -/
theorem Span.marks_map_label (s : Span) : s.marks.map Mark.label = s.labels := by
  obtain ⟨state, start, text, terminator⟩ := s
  cases text with
  | nil => rfl
  | cons c cs => simp [Span.marks, Span.labels, Mark.label]

theorem groupMarks_append_run (state : State) (terminator : Bool) {ms : List Mark}
    (h : ∀ m ∈ ms.head?, m.opens = true) :
    ∀ (cs : List Char) (position : Nat) (c : Char) (opens : Bool),
      groupMarks position
          (⟨c, state, terminator, opens⟩ :: cs.map (⟨·, state, terminator, false⟩) ++ ms)
        = ⟨state, position, c :: cs, terminator⟩
          :: groupMarks (position + (c :: cs).length) ms
  | [], position, c, opens => groupMarks_cons_opens h position _
  | d :: ds, position, c, opens => by
      have ih := groupMarks_append_run state terminator h ds (position + 1) d false
      rw [show position + 1 + (d :: ds).length = position + (c :: d :: ds).length by
        simp only [List.length_cons]; omega] at ih
      exact groupMarks_cons_joins rfl ih ⟨c, state, terminator, opens⟩

/-- **Marks that make a span are grouped to that span**, whatever opens after it. -/
theorem groupMarks_span (s : Span) (hs : s.text ≠ []) {ms : List Mark}
    (h : ∀ m ∈ ms.head?, m.opens = true) :
    groupMarks s.start (s.marks ++ ms) = s :: groupMarks s.stop ms := by
  obtain ⟨state, start, text, terminator⟩ := s
  cases text with
  | nil => exact absurd rfl hs
  | cons c cs => exact groupMarks_append_run state terminator h cs start c true

/-- A span is in the state of its first mark, and its characters are labelled as its
marks are. -/
theorem labels_groupMarks :
    ∀ (ms : List Mark) (position : Nat), Joined ms →
      labels (groupMarks position ms) = ms.map Mark.label
        ∧ ∀ m ∈ ms.head?, ∀ s ∈ (groupMarks position ms).head?,
            s.state = m.state ∧ s.terminator = m.terminator
  | [], _, _ => ⟨rfl, by simp⟩
  | m :: ms, position, ⟨hnext, hjoined⟩ => by
      obtain ⟨ihLabels, ihHead⟩ := labels_groupMarks ms (position + 1) hjoined
      by_cases hopens : ∀ next ∈ ms.head?, next.opens = true
      · rw [groupMarks_cons_opens hopens]
        refine ⟨?_, by simp [Mark.toSpan]⟩
        show (m.toSpan position).labels ++ labels _ = _
        rw [ihLabels]
        rfl
      · obtain ⟨next, rest, rfl, hfalse⟩ := exists_joins_of_not_opens hopens
        obtain ⟨span, spans, hgroup⟩ :=
          List.exists_cons_of_ne_nil (groupMarks_ne_nil (position + 1) next rest)
        rw [hgroup] at ihLabels ihHead
        obtain ⟨hstate, hterminator⟩ := ihHead next rfl span rfl
        obtain ⟨hstate', hterminator'⟩ := hnext next rfl hfalse
        -- the span takes the first mark in; it is in the state of both
        rw [groupMarks_cons_joins hfalse hgroup]
        refine ⟨?_, ?_⟩
        · show (⟨m.char, span.state, span.terminator, false⟩ : Mark)
              :: labels (span :: spans) = _
          rw [ihLabels, hstate, hterminator, hstate', hterminator']
          rfl
        · intro m' hm' s hs
          obtain rfl : m = m' := by simpa using hm'
          obtain rfl : _ = s := by simpa using hs
          exact ⟨hstate.trans hstate', hterminator.trans hterminator'⟩

/-! ## §3. The scan of a script. -/

/-- A script starts in code, where no span is left before it has begun. -/
theorem scan_code (comments : Bool) (text : List Char) :
    scan comments text .code = groupMarks 0 (marks comments text .code) := rfl

/-- The spans of a scan label its characters as the marks do, from whatever state it starts:
an empty span labels none. -/
theorem labels_scan_from (comments : Bool) (text : List Char) (state : State) :
    labels (scan comments text state) = (marks comments text state).map Mark.label := by
  have hgroup := (labels_groupMarks _ 0 (joined_marksFrom comments text (.ready state true))).1
  unfold scan
  split
  · exact hgroup
  · exact hgroup

/-- **The spans of a script label its characters as the marks do.** -/
theorem labels_scan (comments : Bool) (text : List Char) :
    labels (scan comments text .code) = (marks comments text .code).map Mark.label :=
  labels_scan_from comments text .code

/-- With comments off they are labelled as the reading without lookahead labels them. -/
theorem labels_scan_off (text : List Char) :
    labels (scan false text .code) = labelsFrom .code text := by
  rw [labels_scan]
  exact label_marksFrom_off text rfl true

/-- Every mark stands in a span of its state. -/
theorem exists_span_of_mem_marks {comments : Bool} {text : List Char} {m : Mark}
    (hm : m ∈ marks comments text .code) :
    ∃ s ∈ scan comments text .code, s.state = m.state := by
  have hlabel : m.label ∈ labels (scan comments text .code) := by
    rw [labels_scan]
    exact List.mem_map_of_mem hm
  obtain ⟨s, hs, hc⟩ := List.mem_flatMap.mp hlabel
  obtain ⟨c, -, hcm⟩ := List.mem_map.mp hc
  exact ⟨s, hs, congrArg Mark.state hcm⟩

end SqlStatements.Lexical
