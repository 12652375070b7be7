/-
  SqlStatements.Proofs.Lexical.Resuming
  ─────────────────────────────────────
  **A scan may be cut at any step and resumed there.**

  Where the loop of a scan stands, the step before has looked at nothing behind it that it
  did not take: a step that looks ahead either takes what it looks at, or is the step it would
  be at the end of the text.  So the text up to there is read as a text of its own, and the
  rest goes on from the state of the loop (`Stands`).  Only the span that is open may be cut in
  two; at the end of a span none is.

  Main results:

    • `marksFrom_take_drop` — a scan cut where no step is in the middle,
    • `stands_run`          — the loop always stands at such a place,
    • `Lexed.of_append`     — a reading cut between two spans,
    • `scan_resumes`        — states and terminators resume at every step, spans at their ends.
-/
import Mathlib.Data.List.Basic
import SqlStatements.Proofs.Lexical.Covering
import SqlStatements.Proofs.Lexical.Seam

namespace SqlStatements.Lexical

/-! ## §1. The mode at a position. -/

/-- The mode in which a scan stands at a position of a text, with the rest of it in sight. -/
def modeAt (comments : Bool) (mode : Mode) : Nat → List Char → Mode
  | 0, _ => mode
  | _ + 1, [] => mode
  | k + 1, c :: rest => modeAt comments (mode.advance comments c rest.head?).2 k rest

theorem Reads.modeAt_succ {comments : Bool} {mode : Mode} {c : Char} {rest : List Char} {m : Mark}
    {after : Mode} (h : Reads comments mode c rest.head? m after) (k : Nat) :
    modeAt comments mode (k + 1) (c :: rest) = modeAt comments after k rest := by
  simp only [modeAt, h.advance_eq]

theorem modeAt_nil (comments : Bool) (mode : Mode) (k : Nat) : modeAt comments mode k [] = mode := by
  cases k <;> rfl

theorem modeAt_add (comments : Bool) (k : Nat) :
    ∀ (j : Nat) (text : List Char) (mode : Mode), modeAt comments mode (j + k) text
      = modeAt comments (modeAt comments mode j text) k (text.drop j)
  | 0, _, _ => by
      rw [Nat.zero_add]
      rfl
  | j + 1, [], mode => by rw [List.drop_nil, modeAt_nil, modeAt_nil, modeAt_nil]
  | j + 1, c :: rest, mode => by
      rw [Nat.add_right_comm]
      exact modeAt_add comments k j rest _

/-- A step that owes nothing is the same at the end of a text. -/
theorem Reads.at_end_of_ready {comments : Bool} {mode : Mode} {c : Char} {lookahead : Option Char}
    {m : Mark} {s : State} {fresh : Bool}
    (h : Reads comments mode c lookahead m (.ready s fresh)) :
    Reads comments mode c none m (.ready s fresh) := by
  generalize hafter : Mode.ready s fresh = after at h ⊢
  cases h with
  | terminator => exact .terminator
  | lineMarker | blockMarker | blockEnd | doubled => simp at hafter
  | opening quote => exact .opening quote
  | plain code => exact .plain ⟨code.1, code.2.1, code.2.2.1, fun _ => by simp [startsComment]⟩
  | lineEnd atBreak => exact .lineEnd atBreak
  | lineText noBreak => exact .lineText noBreak
  | blockText => exact .blockText (by simp)
  | closing quote => exact .closing quote (by simp)
  | content quote other => exact .content quote other
  | second => exact .second

/-- **A scan is cut where no step is in the middle.** -/
theorem marksFrom_take_drop (comments : Bool) {s : State} {fresh : Bool} :
    ∀ (k : Nat) (text : List Char) (mode : Mode), modeAt comments mode k text = .ready s fresh →
      marksFrom comments mode text
        = marksFrom comments mode (text.take k)
          ++ marksFrom comments (.ready s fresh) (text.drop k)
  | 0, _, mode, h => by
      obtain rfl : mode = .ready s fresh := h
      rfl
  | _ + 1, [], _, _ => rfl
  | k + 1, c :: rest, mode, h => by
      obtain ⟨m, after, step⟩ := exists_reads comments mode c rest.head?
      rw [step.modeAt_succ] at h
      have ih := marksFrom_take_drop comments k rest after h
      -- only the last character before the cut does not see the one behind it
      have step' : Reads comments mode c (rest.take k).head? m after := by
        cases k with
        | zero =>
            obtain rfl : after = .ready s fresh := h
            exact step.at_end_of_ready
        | succ k => rwa [List.head?_take, if_neg (by simp)]
      rw [step.marksFrom_cons, List.take_succ_cons, step'.marksFrom_cons, ih]
      rfl

/-! ## §2. The loop stands between two steps. -/

/-- The loop stands at a character in the mode of the scan, but for a line break that it has
handed back already. -/
inductive Cursor.Stands (text : List Char) (c : Cursor) : Mode → Prop where
  | ready {fresh : Bool} : Stands text c (.ready c.state fresh)
  | handedBack {fresh : Bool} (code : c.state = .code)
      (atBreak : isLineBreak text[c.position]? = true) : Stands text c (.ready .lineComment fresh)

/-- The mode behind the characters of a step. -/
theorem exists_modeAt_transition {comments : Bool} {s next : State} {c : Char} {rest : List Char}
    {consumed : Nat} (hstep : transition comments s (some c) rest.head? = ⟨next, consumed⟩)
    (hsome : consumed ≠ 0) (fresh : Bool) :
    ∃ fresh', modeAt comments (.ready s fresh) consumed (c :: rest) = .ready next fresh' := by
  by_cases hsemi : s = .code ∧ c = ';'
  · obtain ⟨rfl, rfl⟩ := hsemi
    obtain ⟨rfl, rfl⟩ : State.code = next ∧ 1 = consumed := by simpa [transition] using hstep
    exact ⟨true, Reads.modeAt_succ .terminator 0⟩
  · have hconsumed := transition_consumed comments s c rest.head?
    rw [hstep] at hconsumed
    have hadvance := @advance_transition comments fresh s next _ c _ consumed hsemi hstep rfl hsome
    rcases hconsumed with rfl | ⟨rfl, d, hd⟩ | ⟨hnone, -⟩
    · rw [modeAt, hadvance]
      exact ⟨_, rfl⟩
    · obtain ⟨rest', rfl⟩ := List.head?_eq_some_iff.mp hd
      rw [modeAt, hadvance]
      exact ⟨_, rfl⟩
    · exact absurd (Step.mk.inj hnone).2 hsome

namespace Cursor

variable {comments : Bool} {text : List Char}

/-- **An iteration leads on from where the loop stands to where it stands.** -/
theorem Stands.step {c next : Cursor}
    (h : c.Stands text (modeAt comments mode c.position text))
    (hstep : c.step comments text = some next) :
    next.Stands text (modeAt comments mode next.position text) := by
  obtain ⟨char, consumed, here, htransition, hposition⟩ := (iterates_of_step hstep).transition_eq
  rw [← List.head?_drop] at htransition
  rw [hposition, modeAt_add, drop_eq_cons here]
  generalize modeAt comments mode c.position text = before at h
  cases h with
  | @ready fresh =>
      by_cases hnone : consumed = 0
      · -- the loop does not move, and only its state goes on
        obtain hmoves | ⟨hstate, hbreak, hcode, hsame⟩ := (position_of_step hstep).1
        · omega
        · rw [hnone, hstate]
          exact .handedBack hcode (by rwa [hsame])
      · obtain ⟨fresh', hmode⟩ := exists_modeAt_transition htransition hnone fresh
        rw [hmode]
        exact .ready
  | @handedBack fresh code atBreak =>
      -- what was handed back is plain code
      rw [here] at atBreak
      have hchar : char = '\n' ∨ char = '\r' := by simpa [isLineBreak] using atBreak
      obtain ⟨hnext, rfl⟩ : State.code = next.state ∧ 1 = consumed := by
        rw [code] at htransition
        rcases hchar with rfl | rfl <;> simpa [transition] using htransition
      rw [Reads.modeAt_succ (.lineEnd atBreak) 0]
      show next.Stands text (.ready .code false)
      rw [hnext]
      exact .ready

theorem stands_run (state : State) (n : Nat) :
    ((initial state).run comments text n).Stands text
      (modeAt comments (.ready state true) ((initial state).run comments text n).position text) :=
  run_invariant (P := fun c => c.Stands text (modeAt comments (.ready state true) c.position text))
    .ready (fun _ _ h hstep => h.step hstep) n

/-- Where the loop stands, the rest of the text is labelled as a text read from its state. -/
theorem Stands.labels_eq {c : Cursor} {mode : Mode} (h : c.Stands text mode) :
    (marksFrom comments mode (text.drop c.position)).map Mark.label
      = labels (scan comments (text.drop c.position) c.state) := by
  rw [labels_scan_from]
  cases h with
  | ready => exact map_label_marksFrom_ready comments _ c.state _
  | handedBack code atBreak =>
      rw [← List.head?_drop] at atBreak
      rw [marksFrom_lineEnd comments (.inr atBreak), code]
      rfl

theorem Stands.exists_ready {c : Cursor} {mode : Mode} (h : c.Stands text mode) :
    ∃ s fresh, mode = .ready s fresh := by
  cases h with
  | ready => exact ⟨_, _, rfl⟩
  | handedBack => exact ⟨_, _, rfl⟩

/-- **A scan is labelled in two parts wherever its loop comes to stand.** -/
theorem labels_scan_run (state : State) (n : Nat) :
    let c := (initial state).run comments text n
    labels (scan comments text state)
      = labels (scan comments (text.take c.position) state)
        ++ labels (scan comments (text.drop c.position) c.state) := by
  intro c
  have hstands : c.Stands text (modeAt comments (.ready state true) c.position text) :=
    stands_run state n
  obtain ⟨s, fresh, hmode⟩ := hstands.exists_ready
  rw [hmode] at hstands
  rw [labels_scan_from, labels_scan_from, marks, marksFrom_take_drop comments _ _ _ hmode,
    List.map_append, hstands.labels_eq]
  rfl

end Cursor

/-! ## §3. The positions of the terminators. -/

/-- The positions of the terminators among some spans. -/
def terminators (spans : List Span) : List Nat :=
  (spans.filter (·.terminator)).map (·.start)

theorem terminators_append (spans spans' : List Span) :
    terminators (spans ++ spans') = terminators spans ++ terminators spans' := by
  simp [terminators]

/-- The terminators of a span, which is one itself or has none. -/
theorem findIdxs_labels {s : Span} (h : s.terminator = true → s.text = [';']) :
    s.labels.findIdxs (·.terminator) s.start = terminators [s] := by
  cases hterminator : s.terminator with
  | true => simp [Span.labels, terminators, h hterminator, hterminator]
  | false =>
      have hnone : ∀ m ∈ s.labels, m.terminator = false := by
        simp [Span.labels, hterminator]
      rw [List.findIdxs_eq_nil_iff.mpr hnone]
      simp [terminators, hterminator]

/-- The terminators of spans that cover a text stand where their labels do. -/
theorem Covers.terminators_eq {text : List Char} {spans : List Span} {stop : Nat}
    (h : Covers text spans stop) :
    (∀ s ∈ spans, s.terminator = true → s.text = [';']) →
      terminators spans = (labels spans).findIdxs (·.terminator)
        ∧ (labels spans).length = stop := by
  induction h with
  | nil => exact fun _ => ⟨rfl, rfl⟩
  | @push spans s before content ih =>
      intro hsingle
      obtain ⟨ihTerminators, ihLength⟩ := ih fun s' hs' =>
        hsingle s' (List.mem_append_left _ hs')
      have hlast := findIdxs_labels (hsingle s (by simp))
      have hlabels : labels (spans ++ [s]) = labels spans ++ s.labels := by
        simp [labels]
      rw [terminators_append, hlabels, List.findIdxs_append, ihLength, Nat.zero_add, hlast,
        ihTerminators, List.length_append, ihLength]
      exact ⟨rfl, by simp [Span.labels, Span.stop]⟩

theorem terminators_scan (comments : Bool) (text : List Char) (state : State) :
    terminators (scan comments text state)
      = (labels (scan comments text state)).findIdxs (·.terminator) :=
  ((covers_scan comments text state).terminators_eq text_of_mem_scan_terminator).1

/-! ## §4. A cut at the end of a span. -/

/-- A span that stands further on. -/
def Span.shift (k : Nat) (s : Span) : Span := { s with start := s.start + k }

/-- Where marks stand moves their spans and changes nothing else. -/
theorem groupMarks_shift (k : Nat) :
    ∀ (ms : List Mark) (position : Nat),
      groupMarks (position + k) ms = (groupMarks position ms).map (Span.shift k)
  | [], _ => rfl
  | m :: ms, position => by
      have ih := groupMarks_shift k ms (position + 1)
      rw [Nat.add_right_comm] at ih
      by_cases hopens : ∀ next ∈ ms.head?, next.opens = true
      · rw [groupMarks_cons_opens hopens, groupMarks_cons_opens hopens, ih]
        rfl
      · obtain ⟨next, rest, rfl, hfalse⟩ := exists_joins_of_not_opens hopens
        obtain ⟨span, spans, hgroup⟩ :=
          List.exists_cons_of_ne_nil (groupMarks_ne_nil (position + 1) next rest)
        rw [hgroup, List.map_cons] at ih
        rw [groupMarks_cons_joins hfalse hgroup, groupMarks_cons_joins hfalse ih]
        rfl

/-- What a text looks like to the span before it when the text is cut: it ends there, or it
begins as before. -/
def CutTo (rest rest' : List Char) : Prop :=
  rest' = [] ∨ rest'.head? = rest.head?

theorem PlainRun.cut {comments : Bool} {rest rest' : List Char} (hcut : CutTo rest rest') :
    ∀ {run : List Char}, PlainRun comments rest run → PlainRun comments rest' run
  | [], _ => trivial
  | [c], ⟨hc, _⟩ => by
      refine ⟨?_, trivial⟩
      rcases hcut with rfl | hhead
      · exact ⟨hc.1, hc.2.1, hc.2.2.1, fun _ => by simp [startsComment]⟩
      · rw [List.nil_append, hhead]
        exact hc
  | _ :: _ :: _, ⟨hc, hrun⟩ => ⟨hc, PlainRun.cut hcut hrun⟩

/-- **A span stays well-formed when the text behind it is cut.** -/
theorem Span.WellFormed.cut {comments : Bool} {s : Span} {rest rest' : List Char}
    {next next' : Option Span} (h : s.WellFormed comments rest next) (hcut : CutTo rest rest')
    (hnext : ∀ s' ∈ next', s' ∈ next) : s.WellFormed comments rest' next' := by
  have hnil : rest = [] → rest' = [] := by
    rintro rfl
    exact hcut.elim id List.head?_eq_none_iff.mp
  cases h with
  | terminator => exact .terminator
  | code plain maximal => exact .code (plain.cut hcut) fun s' hs' => maximal s' (hnext s' hs')
  | lineComment on noBreak stop =>
      refine .lineComment on noBreak ?_
      rcases hcut with hempty | hhead
      · exact .inl hempty
      · rw [hhead]
        exact stop.imp_left hnil
  | blockComment on inside => exact .blockComment on inside
  | openBlockComment on inside =>
      obtain rfl := hnil rfl
      exact .openBlockComment on inside
  | literal quote single =>
      refine .literal quote ?_
      rcases hcut with rfl | hhead
      · simp
      · rwa [hhead]
  | openLiteral quote =>
      obtain rfl := hnil rfl
      exact .openLiteral quote

/-- A text that is read as some spans is cut to them, or to nothing. -/
theorem Lexed.cutTo {comments : Bool} {position : Nat} {front : List Char} {spans : List Span}
    (h : Lexed comments position front spans) (rest : List Char) :
    CutTo (front ++ rest) front := by
  cases h with
  | nil => exact .inl rfl
  | cons nonempty wellFormed more =>
      obtain ⟨c, cs, htext⟩ := List.exists_cons_of_ne_nil nonempty
      right
      simp [htext]

/-- **A reading is cut between two of its spans.** -/
theorem Lexed.of_append {comments : Bool} {ys : List Span} :
    ∀ (xs : List Span) {position : Nat} {text : List Char},
      Lexed comments position text (xs ++ ys) →
      ∃ front rest, text = front ++ rest ∧ Lexed comments position front xs
        ∧ Lexed comments (position + front.length) rest ys
  | [], _, text, h => ⟨[], text, rfl, .nil, h⟩
  | s :: xs, _, _, .cons nonempty wellFormed more => by
      obtain ⟨front, rest, rfl, hfront, hrest⟩ := Lexed.of_append xs more
      have hnext : ∀ s' ∈ xs.head?, s' ∈ (xs ++ ys).head? := by
        cases xs with
        | nil => simp
        | cons s' xs => exact fun _ h => h
      refine ⟨s.text ++ front, rest, (List.append_assoc _ _ _).symm,
        .cons nonempty (wellFormed.cut (hfront.cutTo rest) hnext) hfront, ?_⟩
      rw [List.length_append, ← Nat.add_assoc]
      exact hrest

theorem Lexed.eq_nil {comments : Bool} {position : Nat} {text : List Char}
    (h : Lexed comments position text []) : text = [] := by
  cases h
  rfl

/-- A reading ends where its last span does. -/
theorem Lexed.stop_eq {comments : Bool} {position : Nat} {text : List Char} {xs : List Span}
    {s : Span} (h : Lexed comments position text (xs ++ [s])) :
    s.stop = position + text.length := by
  obtain ⟨front, rest, rfl, -, hlast⟩ := Lexed.of_append xs h
  generalize hstart : position + front.length = start at hlast
  cases hlast with
  | cons nonempty wellFormed more =>
      obtain rfl := more.eq_nil
      simp only [List.append_nil, List.length_append, Span.stop]
      omega

/-- **A script is scanned in two parts at the end of any span.** -/
theorem scan_take_drop_stop {comments : Bool} {text : List Char} {s : Span}
    (h : s ∈ scan comments text .code) :
    scan comments text .code
      = scan comments (text.take s.stop) .code
        ++ (scan comments (text.drop s.stop) .code).map (Span.shift s.stop) := by
  obtain ⟨xs, ys, hspans⟩ := List.append_of_mem h
  have hlexed := lexed_scan comments text
  rw [hspans, ← List.singleton_append, ← List.append_assoc] at hlexed
  obtain ⟨front, rest, rfl, hfront, hrest⟩ := Lexed.of_append (xs ++ [s]) hlexed
  have hstop : s.stop = front.length := by rw [hfront.stop_eq, Nat.zero_add]
  have hfirst : scan comments front .code = xs ++ [s] := hfront.groupMarks_eq
  have hsecond : (scan comments rest .code).map (Span.shift front.length) = ys := by
    rw [scan_code, ← groupMarks_shift]
    exact hrest.groupMarks_eq
  rw [hspans, hstop, List.take_left, List.drop_left, hfirst, hsecond, List.append_assoc]
  rfl

/-! ## §5. Resuming. -/

open Cursor in
/-- **A scan may be resumed at any step.**  Wherever its loop stands after any number of
iterations, the states of the characters and the positions of the terminators are those of the
text up to there, and behind them those of the rest, scanned from the state of the loop and
moved by the length of the first part.  At the end of a span of a script the rest is read from
code, and the spans themselves are those of the two parts. -/
theorem scan_resumes (comments : Bool) (text : List Char) (state : State) :
    (∀ n, let c := (initial state).run comments text n
      states (scan comments text state)
          = states (scan comments (text.take c.position) state)
            ++ states (scan comments (text.drop c.position) c.state)
        ∧ terminators (scan comments text state)
          = terminators (scan comments (text.take c.position) state)
            ++ (terminators (scan comments (text.drop c.position) c.state)).map (· + c.position))
      ∧ ∀ s ∈ scan comments text .code,
          scan comments text .code
            = scan comments (text.take s.stop) .code
              ++ (scan comments (text.drop s.stop) .code).map (Span.shift s.stop) := by
  refine ⟨fun n => ?_, fun s hs => scan_take_drop_stop hs⟩
  intro c
  have hlabels : labels (scan comments text state) = _ := labels_scan_run state n
  have hlength : (labels (scan comments (text.take c.position) state)).length = c.position := by
    rw [labels_scan_from, List.length_map]
    have hmarks := length_marksFrom comments (.ready state true) (text.take c.position)
    rw [List.length_take, Nat.min_eq_left (position_run_le state n)] at hmarks
    exact hmarks
  constructor
  · rw [states_eq_map_labels, hlabels, List.map_append, ← states_eq_map_labels,
      ← states_eq_map_labels]
  · rw [terminators_scan, hlabels, List.findIdxs_append, ← terminators_scan, hlength,
      Nat.zero_add, List.findIdxs_start, ← terminators_scan]

/-- At the end of a line comment, where the loop has handed the line break back. -/
theorem scan_resumes_behind_line_comment :
    let text := ['-', '-', '\n', 'a', ';']
    (⟨.lineComment, 0, ['-', '-'], false⟩ : Span) ∈ scan true text .code
      ∧ scan true text .code
        = scan true (text.take 2) .code
          ++ (scan true (text.drop 2) .code).map (Span.shift 2) :=
  ⟨by decide, (scan_resumes true _ .code).2 ⟨.lineComment, 0, ['-', '-'], false⟩ (by decide)⟩

end SqlStatements.Lexical
