/-
  SqlStatements.Proofs.Lexical.Covering
  ─────────────────────────────────────
  **The loop hands out the scan, and its spans cover the text.**

  The spans that the loop has handed out cover the text up to the span that is open
  (`Cursor.Sound`).  Together with those that are still to come they are the spans of the
  scan, and an iteration only moves the border between the two (`Sound.spans_append`): it
  closes the open span, or the marks of the characters it takes join that span.

  A line comment that is left where the scan begins is the only empty span.

  Main results:

    • `Sound.step`           — what is handed out covers the text up to the open span,
    • `marksFrom_transition` — the marks of the characters that one step takes,
    • `finish_run`           — the loop hands out the spans of the scan,
    • `loop_ends_covering`   — the loop ends, and what it hands out covers the text.
-/
import SqlStatements.Proofs.Lexical.Grammar
import SqlStatements.Proofs.Lexical.Loop

namespace SqlStatements.Lexical

/-! ## §1. Spans that cover a text. -/

/-- The spans that a loop has handed out when it has come to a position: each is what the text
holds from its start to its end, and begins where the one before it ends. -/
inductive Covers (text : List Char) : List Span → Nat → Prop where
  | nil : Covers text [] 0
  | push {spans : List Span} {s : Span} (before : Covers text spans s.start)
      (content : s.text = (text.take s.stop).drop s.start) : Covers text (spans ++ [s]) s.stop

section
variable {text : List Char} {start stop : Nat}

theorem length_slice (hstart : start ≤ stop) (hstop : stop ≤ text.length) :
    start + ((text.take stop).drop start).length = stop := by
  simp only [List.length_drop, List.length_take]
  omega

theorem drop_eq_cons {c : Char} (here : text[start]? = some c) :
    text.drop start = c :: text.drop (start + 1) := by
  rw [List.drop_eq_getElem?_toList_append, here]
  rfl

theorem slice_add (hstart : start ≤ stop) (hstop : stop ≤ text.length) (n : Nat) :
    (text.take (stop + n)).drop start
      = (text.take stop).drop start ++ (text.drop stop).take n := by
  rw [List.take_add, List.drop_append_of_le_length]
  simp only [List.length_take]
  omega

theorem Span.between_nil (state : State) (terminator : Bool) :
    (Span.between text state start start terminator).text = [] :=
  List.drop_eq_nil_of_le (List.length_take_le start text)

theorem Span.marks_between_nil (state : State) (terminator : Bool) :
    (Span.between text state start start terminator).marks = [] := by
  simp [Span.marks, Span.between_nil]

/-- The span of a single character. -/
theorem Span.between_single {c : Char} (here : text[start]? = some c) (state : State)
    (terminator : Bool) :
    Span.between text state start (start + 1) terminator = ⟨state, start, [c], terminator⟩ := by
  have inside : start ≤ text.length := Nat.le_of_lt (List.getElem?_eq_some_iff.mp here).1
  have single : (text.drop start).take 1 = [c] := by
    rw [drop_eq_cons here]
    rfl
  have empty : (text.take start).drop start = [] := Span.between_nil state terminator
  unfold Span.between
  rw [slice_add (Nat.le_refl start) inside, single, empty]
  rfl

theorem Covers.push_between {spans : List Span} (h : Covers text spans start)
    (hstart : start ≤ stop) (hstop : stop ≤ text.length) (state : State) (terminator : Bool) :
    Covers text (spans ++ [Span.between text state start stop terminator]) stop := by
  have hend : (Span.between text state start stop terminator).stop = stop :=
    length_slice hstart hstop
  have key : Covers text (spans ++ [Span.between text state start stop terminator])
      (Span.between text state start stop terminator).stop :=
    .push h (by rw [hend]; rfl)
  rwa [hend] at key

end

namespace Cursor

/-! ## §2. The spans that are handed out. -/

variable {comments : Bool} {text : List Char}

theorem covers_pending {c : Cursor} {stop : Nat} (h : Covers text c.spans c.start)
    (hstart : c.start ≤ stop) (hstop : stop ≤ text.length) :
    Covers text (c.spans ++ c.pending text stop) stop := by
  unfold pending
  split
  · exact h.push_between hstart hstop c.state false
  · have heq : c.start = stop := by omega
    rwa [List.append_nil, ← heq]

/-- What the loop keeps: the open span begins in the text that is read, the spans before it
cover that text up to it, and those among them that are terminators are a `;` each. -/
structure Sound (text : List Char) (c : Cursor) : Prop where
  start_le : c.start ≤ c.position
  position_le : c.position ≤ text.length
  covers : Covers text c.spans c.start
  terminators : ∀ s ∈ c.spans, s.terminator = true → s.text = [';']

theorem sound_initial (state : State) : (initial state).Sound text :=
  ⟨Nat.le_refl 0, Nat.zero_le _, .nil, by simp [initial]⟩

theorem terminator_of_mem_pending {c : Cursor} {stop : Nat} {s : Span}
    (h : s ∈ c.pending text stop) : s.terminator = false := by
  unfold pending at h
  split at h
  · rw [List.mem_singleton.mp h]
    rfl
  · simp at h

/-- **An iteration keeps the cursor sound.** -/
theorem Sound.step {c next : Cursor} (h : c.Sound text)
    (hstep : c.step comments text = some next) : next.Sound text := by
  have hafter := (position_of_step hstep).2
  have hflush := covers_pending h.covers h.start_le h.position_le
  have hsingle : ∀ s ∈ c.spans ++ c.pending text c.position, s.terminator = true →
      s.text = [';'] := by
    refine List.forall_mem_append.mpr ⟨h.terminators, ?_⟩
    intro s hs hterminator
    simp [terminator_of_mem_pending hs] at hterminator
  cases iterates_of_step hstep with
  | terminator here code =>
      refine ⟨Nat.le_refl _, hafter, hflush.push_between (Nat.le_succ _) hafter _ _, ?_⟩
      refine List.forall_mem_append.mpr ⟨hsingle, List.forall_mem_singleton.mpr fun _ => ?_⟩
      rw [Span.between_single here]
  | stay here other step =>
      exact ⟨Nat.le_add_right_of_le h.start_le, hafter, h.covers, h.terminators⟩
  | enter here code other leaves step =>
      exact ⟨Nat.le_add_right _ _, hafter, hflush, hsingle⟩
  | @leave char next consumed here inside leaves step =>
      have hstop : c.start ≤ c.position + consumed := Nat.le_add_right_of_le h.start_le
      refine ⟨Nat.le_refl _, hafter, h.covers.push_between hstop hafter _ _, ?_⟩
      refine List.forall_mem_append.mpr ⟨h.terminators, List.forall_mem_singleton.mpr ?_⟩
      intro hterminator
      simp [Span.between] at hterminator

theorem sound_run (state : State) (n : Nat) : ((initial state).run comments text n).Sound text :=
  run_invariant (sound_initial state) (fun _ _ h hstep => h.step hstep) n

/-- What is handed out in all covers the text. -/
theorem Sound.covers_finish {c : Cursor} (h : c.Sound text) :
    Covers text (c.finish text) text.length :=
  covers_pending h.covers (Nat.le_trans h.start_le h.position_le) (Nat.le_refl _)

end Cursor

/-! ## §3. The marks of a step. -/

/-- The marks of characters that stand in one state, none of them a terminator. -/
def runOf (state : State) (opens : Bool) : List Char → List Mark
  | [] => []
  | c :: cs => ⟨c, state, false, opens⟩ :: cs.map (⟨·, state, false, false⟩)

theorem opens_runOf {state : State} {cs : List Char} (h : cs ≠ []) (ms : List Mark) :
    ∀ m ∈ (runOf state true cs ++ ms).head?, m.opens = true := by
  cases cs with
  | nil => exact absurd rfl h
  | cons c cs => simp [runOf]

/-- A span goes on with the characters that are read in its state. -/
theorem Span.marks_append {state : State} {start : Nat} {xs : List Char} {fresh : Bool}
    (h : fresh = true ↔ xs = []) (ys : List Char) :
    (⟨state, start, xs ++ ys, false⟩ : Span).marks
      = (⟨state, start, xs, false⟩ : Span).marks ++ runOf state fresh ys := by
  cases xs with
  | nil =>
      obtain rfl : fresh = true := h.mpr rfl
      cases ys <;> rfl
  | cons x xs =>
      obtain rfl : fresh = false := by simpa using h
      cases ys <;> simp [Span.marks, runOf]

/-- A step that takes a character gives it to one state: the state that it leads to if it
starts in code, and else the one that it starts in. -/
theorem advance_transition {comments fresh : Bool} {s next owner : State} {c : Char}
    {lookahead : Option Char} {consumed : Nat} (other : ¬ (s = .code ∧ c = ';'))
    (hstep : transition comments s (some c) lookahead = ⟨next, consumed⟩)
    (howner : owner = if s = .code then next else s) (hsome : consumed ≠ 0) :
    (Mode.ready s fresh).advance comments c lookahead
      = (⟨c, owner, false, fresh || owner ≠ s⟩, .after owner next consumed) := by
  simp only [Mode.advance, if_neg other, hstep, if_neg hsome]
  subst howner
  by_cases hs : s = .code
  · by_cases hnext : next = .code <;> simp [hs, hnext]
  · simp [hs]

/-- **The marks of a step**: all it takes goes to one state, and a span ends behind it if it
leads to another. -/
theorem marksFrom_transition {comments fresh : Bool} {s next owner : State} {c : Char}
    {rest : List Char} {consumed : Nat} (other : ¬ (s = .code ∧ c = ';'))
    (hstep : transition comments s (some c) rest.head? = ⟨next, consumed⟩)
    (howner : owner = if s = .code then next else s) :
    marksFrom comments (.ready s fresh) (c :: rest)
      = runOf owner (fresh || owner ≠ s) ((c :: rest).take consumed)
        ++ marksFrom comments (.ready next (next ≠ owner)) ((c :: rest).drop consumed) := by
  have hconsumed := transition_consumed comments s c rest.head?
  rw [hstep] at hconsumed
  have hadvance := @advance_transition comments fresh s next owner c _ consumed other hstep howner
  rcases hconsumed with rfl | ⟨rfl, d, hd⟩ | ⟨hcode, rfl, hbreak⟩
  · simp only [marksFrom, hadvance (by decide)]
    simp [runOf, Mode.after]
  · obtain ⟨rest', rfl⟩ := List.head?_eq_some_iff.mp hd
    simp only [marksFrom, hadvance (by decide)]
    simp [runOf, Mode.after, Mode.advance]
  · -- the line break is read in code as it is behind the comment
    obtain ⟨rfl, rfl⟩ := Step.mk.inj hcode
    obtain rfl : owner = .lineComment := howner
    exact marksFrom_lineEnd comments (.inr hbreak)

namespace Cursor

/-! ## §4. The spans that are still to come. -/

variable {comments : Bool} {text : List Char}

/-- The spans that a scan has from an open one on: it is in `state` at a position, and in the
open span since `start`. -/
def spansFrom (comments : Bool) (text : List Char) (state : State) (start position : Nat) :
    List Span :=
  let rest := text.drop position
  let spans := groupMarks start ((Span.between text state start position false).marks
    ++ marksFrom comments (.ready state (start = position)) rest)
  if start = position ∧ leavesAtOnce rest state = true
    then ⟨.lineComment, start, [], false⟩ :: spans else spans

theorem spansFrom_initial (state : State) :
    spansFrom comments text state 0 0 = scan comments text state := by
  simp [spansFrom, Span.between, Span.marks, scan, marks]

theorem spansFrom_open {state : State} {start position : Nat}
    (h : start = position → ¬ leavesAtOnce (text.drop position) state = true) :
    spansFrom comments text state start position
      = groupMarks start ((Span.between text state start position false).marks
        ++ marksFrom comments (.ready state (start = position)) (text.drop position)) :=
  if_neg fun hleaves => h hleaves.1 hleaves.2

/-- In code, and with no span open, the spans are those of the rest of the text. -/
theorem spansFrom_code (position : Nat) :
    spansFrom comments text .code position position
      = groupMarks position (marks comments (text.drop position) .code) := by
  rw [spansFrom_open fun _ => by simp [leavesAtOnce]]
  simp [Span.marks_between_nil, marks]

theorem leavesAtOnce_iff {c : Cursor} {char : Char} (here : text[c.position]? = some char)
    {next : State} {consumed : Nat}
    (hstep : transition comments c.state (some char) text[c.position + 1]? = ⟨next, consumed⟩) :
    leavesAtOnce (text.drop c.position) c.state = true ↔ consumed = 0 := by
  have hhead : (text.drop c.position).head? = some char := by rw [List.head?_drop, here]
  constructor
  · intro h
    obtain ⟨hstate, hbreak⟩ : c.state = .lineComment ∧ isLineBreak (some char) = true := by
      simpa [leavesAtOnce, hhead] using h
    rw [hstate, transition, if_pos hbreak] at hstep
    exact (Step.mk.inj hstep).2.symm
  · rintro rfl
    rcases transition_consumed comments c.state char text[c.position + 1]?
      with hone | ⟨htwo, -⟩ | ⟨-, hstate, hbreak⟩
    · simp [hstep] at hone
    · simp [hstep] at htwo
    · simp [leavesAtOnce, hhead, hstate, hbreak]

/-- The open span is closed before marks that open a span. -/
theorem groupMarks_pending {c : Cursor} {stop : Nat} (hstart : c.start ≤ stop)
    (hstop : stop ≤ text.length) {ms : List Mark} (h : ∀ m ∈ ms.head?, m.opens = true) :
    groupMarks c.start ((Span.between text c.state c.start stop false).marks ++ ms)
      = c.pending text stop ++ groupMarks stop ms := by
  unfold pending
  split
  · next hlt =>
      have hend : (Span.between text c.state c.start stop false).stop = stop :=
        length_slice hstart hstop
      have hsome : (Span.between text c.state c.start stop false).text ≠ [] := by
        intro hnil
        rw [Span.stop, hnil] at hend
        exact absurd hend (Nat.ne_of_lt hlt)
      have key := groupMarks_span (Span.between text c.state c.start stop false) hsome h
      rw [hend] at key
      exact key
  · next hlt =>
      obtain rfl : c.start = stop := by omega
      simp [Span.marks_between_nil]

/-- The marks of a step, at a position of a text. -/
theorem marksFrom_drop {c : Cursor} {char : Char} {next : State} {consumed : Nat}
    (owner : State) (here : text[c.position]? = some char)
    (other : ¬ (c.state = .code ∧ char = ';'))
    (hstep : transition comments c.state (some char) text[c.position + 1]? = ⟨next, consumed⟩)
    (howner : owner = if c.state = .code then next else c.state) (fresh : Bool) :
    marksFrom comments (.ready c.state fresh) (text.drop c.position)
      = runOf owner (fresh || owner ≠ c.state) ((text.drop c.position).take consumed)
        ++ marksFrom comments (.ready next (next ≠ owner)) (text.drop (c.position + consumed)) := by
  rw [← List.head?_drop] at hstep
  rw [← List.drop_drop, drop_eq_cons here]
  exact marksFrom_transition other hstep howner

/-- The open span takes the characters of a step. -/
theorem marks_between_add {state : State} {start stop : Nat} (hstart : start ≤ stop)
    (hstop : stop ≤ text.length) (n : Nat) :
    (Span.between text state start (stop + n) false).marks
      = (Span.between text state start stop false).marks
        ++ runOf state (start = stop) ((text.drop stop).take n) := by
  have hnil : decide (start = stop) = true ↔ (text.take stop).drop start = [] := by
    have hlength := length_slice hstart hstop
    rw [← List.length_eq_zero_iff, decide_eq_true_iff]
    omega
  unfold Span.between
  rw [slice_add hstart hstop]
  exact Span.marks_append hnil _

section
variable {c : Cursor} (hstart : c.start ≤ c.position)
include hstart

theorem spansFrom_terminator (here : text[c.position]? = some ';') (code : c.state = .code) :
    spansFrom comments text c.state c.start c.position
      = c.pending text c.position
        ++ .between text .code c.position (c.position + 1) true
          :: spansFrom comments text .code (c.position + 1) (c.position + 1) := by
  have inside : c.position < text.length := (List.getElem?_eq_some_iff.mp here).1
  have hmarks : marksFrom comments (.ready c.state (c.start = c.position)) (text.drop c.position)
      = ⟨';', .code, true, true⟩ :: marks comments (text.drop (c.position + 1)) .code := by
    rw [drop_eq_cons here, code]
    exact Reads.marksFrom_cons .terminator
  have hopens := opens_marksFrom_fresh comments .code (text.drop (c.position + 1))
  rw [spansFrom_open fun _ => by simp [leavesAtOnce, code], hmarks,
    groupMarks_pending hstart (Nat.le_of_lt inside) (by simp), spansFrom_code,
    Span.between_single here]
  exact congrArg _ (groupMarks_cons_opens hopens c.position _)

variable {char : Char} {next : State} {consumed : Nat} (here : text[c.position]? = some char)
include here

theorem spansFrom_stay (other : ¬ (c.state = .code ∧ char = ';'))
    (hstep : transition comments c.state (some char) text[c.position + 1]?
      = ⟨c.state, consumed⟩) :
    spansFrom comments text c.state c.start c.position
      = spansFrom comments text c.state c.start (c.position + consumed) := by
  have inside : c.position < text.length := (List.getElem?_eq_some_iff.mp here).1
  have hsome : consumed ≠ 0 := by
    intro hnone
    rcases transition_consumed comments c.state char text[c.position + 1]?
      with h | ⟨h, -⟩ | ⟨h, hstate, -⟩
    · simp [hstep, hnone] at h
    · simp [hstep, hnone] at h
    · rw [hstep, hstate] at h
      simp at h
  have hopen : c.start ≠ c.position + consumed := by omega
  rw [spansFrom_open fun _ hleaves => hsome ((leavesAtOnce_iff here hstep).mp hleaves),
    spansFrom_open fun h => absurd h hopen,
    marksFrom_drop c.state here other hstep (by simp),
    marks_between_add hstart (Nat.le_of_lt inside), List.append_assoc]
  simp [hopen]

theorem spansFrom_enter (code : c.state = .code) (other : char ≠ ';') (leaves : next ≠ .code)
    (hstep : transition comments c.state (some char) text[c.position + 1]? = ⟨next, consumed⟩) :
    spansFrom comments text c.state c.start c.position
      = c.pending text c.position
        ++ spansFrom comments text next c.position (c.position + consumed) := by
  have inside : c.position < text.length := (List.getElem?_eq_some_iff.mp here).1
  have hsome : consumed ≠ 0 := by
    intro hnone
    have hleaves := (leavesAtOnce_iff here hstep).mpr hnone
    simp [leavesAtOnce, code] at hleaves
  have hopen : c.position ≠ c.position + consumed := by omega
  -- what the step takes is the new span so far, and it opens that span
  have htaken : (text.drop c.position).take consumed ≠ [] := by
    simp only [ne_eq, List.take_eq_nil_iff, List.drop_eq_nil_iff]
    omega
  have hbetween : (Span.between text next c.position (c.position + consumed) false).marks
      = runOf next true ((text.drop c.position).take consumed) := by
    rw [marks_between_add (Nat.le_refl _) (Nat.le_of_lt inside), Span.marks_between_nil]
    simp
  have hmarks := marksFrom_drop next here (fun h => other h.2) hstep (by simp [code])
    (c.start = c.position)
  have hopens : next ≠ c.state := by rwa [code]
  rw [spansFrom_open fun _ => by simp [leavesAtOnce, code],
    spansFrom_open fun h => absurd h hopen, hmarks, hbetween]
  simp only [hopens, hopen, ne_eq, not_false_eq_true, not_true_eq_false, decide_true, decide_false,
    Bool.or_true]
  exact groupMarks_pending hstart (Nat.le_of_lt inside) (opens_runOf htaken _)

theorem spansFrom_leave (hafter : c.position + consumed ≤ text.length) (inside : c.state ≠ .code)
    (leaves : next ≠ c.state)
    (hstep : transition comments c.state (some char) text[c.position + 1]? = ⟨next, consumed⟩) :
    spansFrom comments text c.state c.start c.position
      = .between text c.state c.start (c.position + consumed) false
        :: spansFrom comments text next (c.position + consumed) (c.position + consumed) := by
  have inside' : c.position < text.length := (List.getElem?_eq_some_iff.mp here).1
  obtain rfl : next = .code := by
    have hnext := transition_inside comments inside (some char) text[c.position + 1]?
    rw [hstep] at hnext
    exact hnext.resolve_left leaves
  have hopens := opens_marksFrom_fresh comments .code (text.drop (c.position + consumed))
  have hspans : groupMarks c.start ((Span.between text c.state c.start c.position false).marks
        ++ marksFrom comments (.ready c.state (c.start = c.position)) (text.drop c.position))
      = c.pending text (c.position + consumed)
        ++ spansFrom comments text .code (c.position + consumed) (c.position + consumed) := by
    rw [marksFrom_drop c.state here (fun h => inside h.1) hstep (by simp [inside]),
      spansFrom_code, marks, ← groupMarks_pending (Nat.le_add_right_of_le hstart) hafter hopens,
      marks_between_add hstart (Nat.le_of_lt inside'), List.append_assoc]
    simp [leaves]
  by_cases hempty : c.start = c.position + consumed
  · -- a line comment that is left where the scan begins has an empty span
    obtain rfl : consumed = 0 := by omega
    have hleaves := (leavesAtOnce_iff here hstep).mpr rfl
    have hstate : c.state = .lineComment := by
      simpa [leavesAtOnce] using (Bool.and_eq_true_iff.mp hleaves).1
    have hnone : c.pending text (c.position + 0) = [] := if_neg (by omega)
    rw [spansFrom, if_pos ⟨hempty, hleaves⟩, hspans, hnone, hempty, hstate]
    simp [Span.between]
  · have hsome : c.pending text (c.position + consumed)
        = [.between text c.state c.start (c.position + consumed) false] := if_pos (by omega)
    rw [spansFrom_open, hspans, hsome]
    · rfl
    · intro h hleaves
      exact hempty (by rw [(leavesAtOnce_iff here hstep).mp hleaves, h]; rfl)

end

/-- **An iteration hands out the first of the spans that are still to come.** -/
theorem Sound.spans_append {c next : Cursor} (h : c.Sound text)
    (hstep : c.step comments text = some next) :
    next.spans ++ spansFrom comments text next.state next.start next.position
      = c.spans ++ spansFrom comments text c.state c.start c.position := by
  have hposition := (position_of_step hstep).2
  cases iterates_of_step hstep with
  | terminator here code =>
      rw [spansFrom_terminator h.start_le here code]
      simp
  | stay here other step => rw [spansFrom_stay h.start_le here other step]
  | enter here code other leaves step =>
      rw [spansFrom_enter h.start_le here code other leaves step, List.append_assoc]
  | leave here inside leaves step =>
      rw [spansFrom_leave h.start_le here hposition inside leaves step]
      simp

/-- Where the loop has stopped, only the open span is still to come. -/
theorem Sound.spansFrom_stopped {c : Cursor} (h : c.Sound text)
    (hstop : c.step comments text = none) :
    spansFrom comments text c.state c.start c.position = c.pending text text.length := by
  have hend : c.position = text.length :=
    Nat.le_antisymm h.position_le (step_eq_none_iff.mp hstop)
  have hrest : text.drop c.position = [] := List.drop_eq_nil_of_le (Nat.le_of_eq hend.symm)
  have hopen : groupMarks c.start ((Span.between text c.state c.start c.position false).marks ++ [])
      = c.pending text c.position ++ groupMarks c.position [] :=
    groupMarks_pending h.start_le h.position_le (by simp)
  rw [spansFrom_open (by simp [hrest, leavesAtOnce, isLineBreak]), hrest]
  show groupMarks c.start (_ ++ []) = _
  rw [hopen, hend]
  exact List.append_nil _

/-- At every iteration, the spans handed out and those still to come are those of the scan. -/
theorem spans_append_run (state : State) (n : Nat) :
    let c := (initial state).run comments text n
    c.spans ++ spansFrom comments text c.state c.start c.position = scan comments text state :=
  (run_invariant
    (P := fun c => c.Sound text
      ∧ c.spans ++ spansFrom comments text c.state c.start c.position = scan comments text state)
    ⟨sound_initial state, spansFrom_initial state⟩
    (fun _ _ ⟨hsound, hspans⟩ hstep =>
      ⟨hsound.step hstep, (hsound.spans_append hstep).trans hspans⟩) n).2

/-- **The loop hands out the spans of the scan.** -/
theorem finish_run (state : State) {n : Nat} (h : 2 * text.length ≤ n) :
    ((initial state).run comments text n).finish text = scan comments text state := by
  have hleft : (initial state).iterationsLeft text ≤ n := by
    simp only [iterationsLeft, initial]
    omega
  have hstop := step_run_eq_none comments hleft
  rw [finish, ← (sound_run state n).spansFrom_stopped hstop]
  exact spans_append_run state n

end Cursor

/-! ## §5. The scan of any text. -/

/-- **The spans of a scan cover the text.** -/
theorem covers_scan (comments : Bool) (text : List Char) (state : State) :
    Covers text (scan comments text state) text.length := by
  rw [← Cursor.finish_run state (Nat.le_refl _)]
  exact (Cursor.sound_run state _).covers_finish

/-- The state of each character that some spans cover. -/
def states (spans : List Span) : List State :=
  spans.flatMap fun s => List.replicate (s.stop - s.start) s.state

theorem states_eq_map_labels (spans : List Span) : states spans = (labels spans).map (·.state) := by
  simp [states, labels, Span.labels, Span.stop, List.map_flatMap, Function.comp_def,
    List.map_const']

theorem classify_eq_states (text : List Char) (state : State) :
    classify text state = states (scan true text state) := by
  rw [states_eq_map_labels, labels_scan_from]
  simp [classify, Function.comp_def]

theorem length_classify (text : List Char) (state : State) :
    (classify text state).length = text.length := by
  unfold classify
  rw [List.length_map]
  exact length_marksFrom true _ text

/-- A terminator of a scan is a single `;`. -/
theorem text_of_mem_scan_terminator {comments : Bool} {text : List Char} {state : State} :
    ∀ s ∈ scan comments text state, s.terminator = true → s.text = [';'] := by
  rw [← Cursor.finish_run state (Nat.le_refl _)]
  intro s hs hterminator
  rcases List.mem_append.mp hs with hs | hs
  · exact (Cursor.sound_run state _).terminators s hs hterminator
  · simp [Cursor.terminator_of_mem_pending hs] at hterminator

/-- Grouping makes no empty span. -/
theorem text_ne_nil_of_mem_groupMarks :
    ∀ (ms : List Mark) (position : Nat), ∀ s ∈ groupMarks position ms, s.text ≠ []
  | [], _, _, hs => by simp [groupMarks] at hs
  | m :: ms, position, s, hs => by
      have ih := text_ne_nil_of_mem_groupMarks ms (position + 1)
      unfold groupMarks at hs
      split at hs
      · next span more hgroup =>
          rw [hgroup] at ih
          split at hs
          · rcases List.mem_cons.mp hs with rfl | hs
            · simp [Mark.toSpan]
            · exact ih s hs
          · rcases List.mem_cons.mp hs with rfl | hs
            · simp
            · exact ih s (List.mem_cons_of_mem _ hs)
      · rcases List.mem_cons.mp hs with rfl | hs
        · simp [Mark.toSpan]
        · exact ih s hs

/-- A scan has an empty span just where it begins in a line comment at a line break, and that
one is the comment. -/
theorem mem_scan_empty_iff (comments : Bool) (text : List Char) (state : State) (s : Span) :
    s ∈ scan comments text state ∧ s.text = []
      ↔ leavesAtOnce text state = true ∧ s = ⟨.lineComment, 0, [], false⟩ := by
  have hgroup := text_ne_nil_of_mem_groupMarks (marks comments text state) 0 s
  unfold scan
  constructor
  · rintro ⟨hs, hempty⟩
    split at hs
    · next hleaves =>
        rcases List.mem_cons.mp hs with rfl | hs
        · exact ⟨hleaves, rfl⟩
        · exact absurd hempty (hgroup hs)
    · exact absurd hempty (hgroup hs)
  · rintro ⟨hleaves, rfl⟩
    simp [hleaves]

open Cursor in
/-- **The loop of a scan ends, and its spans cover the text.**  It stops after at most two
iterations for each character.  Its position never decreases and never passes the end of the
text; it stays where it is only when a line comment hands a line break back to the code, and
then the next iteration moves.  What it has handed out by then is the scan: the spans cover the
text, each beginning where the one before it ends, with an empty one just where the scan begins
in a line comment at a line break.  So every character is classified. -/
theorem loop_ends_covering (comments : Bool) (text : List Char) (state : State) :
    let cursor := (initial state).run comments text
    (cursor (2 * text.length)).step comments text = none
      ∧ (cursor (2 * text.length)).finish text = scan comments text state
      ∧ (∀ n, (cursor n).position ≤ (cursor (n + 1)).position
          ∧ (cursor n).position ≤ text.length)
      ∧ (∀ n next, (cursor n).step comments text = some next →
          next.position = (cursor n).position →
            (cursor n).HandsBack text next
              ∧ ∃ second, next.step comments text = some second ∧ next.position < second.position)
      ∧ Covers text (scan comments text state) text.length
      ∧ (∀ s, s ∈ scan comments text state ∧ s.text = []
          ↔ leavesAtOnce text state = true ∧ s = ⟨.lineComment, 0, [], false⟩)
      ∧ classify text state = states (scan true text state)
      ∧ (classify text state).length = text.length := by
  intro cursor
  have hleft : (initial state).iterationsLeft text ≤ 2 * text.length := by
    simp only [iterationsLeft, initial]
    omega
  refine ⟨step_run_eq_none comments hleft, finish_run state (Nat.le_refl _), ?_, ?_,
    covers_scan comments text state, mem_scan_empty_iff comments text state,
    classify_eq_states text state, length_classify text state⟩
  · intro n
    exact ⟨position_run_mono (initial state) n, position_run_le state n⟩
  · intro n next hstep hsame
    have hands : (cursor n).HandsBack text next :=
      (position_of_step hstep).1.resolve_left fun hmoves => by omega
    exact ⟨hands, hands.moves_on⟩

/-- Behind `--` the line break is handed back: the second iteration stays before it, and the
third takes it. -/
theorem loop_ends_covering_line_comment :
    let text := ['-', '-', '\n', ';']
    let before : Cursor := (Cursor.initial .code).run true text 1
    let next : Cursor := ⟨2, .code, 2, [⟨.lineComment, 0, ['-', '-'], false⟩]⟩
    before.step true text = some next ∧ next.position = before.position
      ∧ before.HandsBack text next
      ∧ ∃ second, next.step true text = some second ∧ next.position < second.position :=
  ⟨by decide, by decide,
    (loop_ends_covering true ['-', '-', '\n', ';'] .code).2.2.2.1 1 _ (by decide) (by decide)⟩

/-- Two iterations for a character may be needed: after one the loop has not yet stopped. -/
example : ((Cursor.initial .lineComment).run true ['\n'] 1).step true ['\n'] ≠ none := by decide

end SqlStatements.Lexical
