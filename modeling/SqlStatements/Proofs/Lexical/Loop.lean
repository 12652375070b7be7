/-
  SqlStatements.Proofs.Lexical.Loop
  ─────────────────────────────────
  **The scan as a loop over positions.**

  `Mode` takes the characters one by one.  The same scan is a loop whose iterations are the
  steps of `transition`: it stands at a position, in a state, with a span open since an
  earlier position and the spans before that one handed out (`Cursor`).  An iteration takes
  one character or two, or none where a line comment hands its line break back to the code.

  What an iteration can do is said once (`iterates_of_step`).  The measure of the loop counts
  two iterations for each character and gives one back where the next iteration is sure to
  move, so it also goes down in an iteration that takes nothing.

  Main results:

    • `position_of_step`   — an iteration moves on inside the text, or hands a line break back,
    • `step_run_eq_none`   — the loop stops within the iterations that its measure leaves.
-/
import Mathlib.Tactic.SplitIfs
import SqlStatements.Lexical.Span

namespace SqlStatements.Lexical

/-! ## §1. What a step takes. -/

/-- **What a step consumes**: one character, two if there are two, or none where a line
comment hands its line break back to the code. -/
theorem transition_consumed (comments : Bool) (s : State) (c : Char) (lookahead : Option Char) :
    (transition comments s (some c) lookahead).consumed = 1
      ∨ ((transition comments s (some c) lookahead).consumed = 2 ∧ ∃ d, lookahead = some d)
      ∨ (transition comments s (some c) lookahead = ⟨.code, 0⟩ ∧ s = .lineComment
          ∧ isLineBreak (some c) = true) := by
  have present : ∀ d, (lookahead == some d) = true → ∃ d, lookahead = some d := by
    intro d hd
    exact ⟨d, by simpa using hd⟩
  cases s with
  | code =>
      simp only [transition]
      split_ifs with hline hblock
      · exact .inr (.inl ⟨rfl, present '-' (by simp_all)⟩)
      · exact .inr (.inl ⟨rfl, present '*' (by simp_all)⟩)
      all_goals exact .inl rfl
  | lineComment =>
      simp only [transition]
      split_ifs with hbreak
      · exact .inr (.inr ⟨rfl, trivial, hbreak⟩)
      · exact .inl rfl
  | blockComment =>
      simp only [transition]
      split_ifs with hend
      · exact .inr (.inl ⟨rfl, present '/' (by simp_all)⟩)
      · exact .inl rfl
  | singleQuoted | doubleQuoted =>
      simp only [transition, transition.quoted]
      split_ifs with hquote hdouble
      · exact .inr (.inl ⟨rfl, present _ hdouble⟩)
      all_goals exact .inl rfl

/-- A step out of a comment or a literal leads to code. -/
theorem transition_inside (comments : Bool) {s : State} (h : s ≠ .code)
    (c lookahead : Option Char) :
    (transition comments s c lookahead).next = s
      ∨ (transition comments s c lookahead).next = .code := by
  cases s with
  | code => exact absurd rfl h
  | lineComment | blockComment =>
      simp only [transition]
      split <;> simp
  | singleQuoted | doubleQuoted =>
      simp only [transition, transition.quoted]
      repeat' split
      all_goals simp

/-! ## §2. The loop. -/

/-- The span of a text from one position up to another. -/
def Span.between (text : List Char) (state : State) (start stop : Nat) (terminator : Bool) :
    Span :=
  ⟨state, start, (text.take stop).drop start, terminator⟩

/-- Where the loop of a scan stands: before the character at `position` and in `state`, with
`spans` handed out and a further one open from `start` on. -/
structure Cursor where
  position : Nat
  state : State
  start : Nat
  spans : List Span
  deriving Repr, DecidableEq

namespace Cursor

/-- The loop before its first iteration. -/
def initial (state : State) : Cursor := ⟨0, state, 0, []⟩

/-- The open span, ended at a position, unless it would be empty. -/
def pending (text : List Char) (c : Cursor) (stop : Nat) : List Span :=
  if c.start < stop then [.between text c.state c.start stop false] else []

/-- One iteration; there is none at the end of the text. -/
def step (comments : Bool) (text : List Char) (c : Cursor) : Option Cursor :=
  match text[c.position]? with
  | none => none
  | some char =>
      if c.state = .code ∧ char = ';' then
        let after := c.position + 1
        some ⟨after, .code, after,
          c.spans ++ c.pending text c.position ++ [.between text .code c.position after true]⟩
      else
        let taken := transition comments c.state (some char) text[c.position + 1]?
        let after := c.position + taken.consumed
        if taken.next = c.state then some { c with position := after }
        else if c.state = .code then
          some ⟨after, taken.next, c.position, c.spans ++ c.pending text c.position⟩
        else
          some ⟨after, taken.next, after, c.spans ++ [.between text c.state c.start after false]⟩

/-- The cursor after `n` iterations, or after all of them where the loop ends before. -/
def run (comments : Bool) (text : List Char) (c : Cursor) : Nat → Cursor
  | 0 => c
  | n + 1 => ((run comments text c n).step comments text).getD (run comments text c n)

/-- What the loop hands out in all, with the span that is open when it ends. -/
def finish (text : List Char) (c : Cursor) : List Span :=
  c.spans ++ c.pending text text.length

/-! ## §3. One iteration. -/

/-- What an iteration does at a character: a terminator is handed out as a span of its own,
and otherwise the step of `transition` stays in the open span, enters a comment or a literal,
or leaves one. -/
inductive Iterates (comments : Bool) (text : List Char) (c : Cursor) : Cursor → Prop where
  | terminator (here : text[c.position]? = some ';') (code : c.state = .code) :
      Iterates comments text c
        ⟨c.position + 1, .code, c.position + 1,
          c.spans ++ c.pending text c.position
            ++ [.between text .code c.position (c.position + 1) true]⟩
  | stay {char : Char} {consumed : Nat} (here : text[c.position]? = some char)
      (other : ¬ (c.state = .code ∧ char = ';'))
      (step : transition comments c.state (some char) text[c.position + 1]?
        = ⟨c.state, consumed⟩) :
      Iterates comments text c { c with position := c.position + consumed }
  | enter {char : Char} {next : State} {consumed : Nat} (here : text[c.position]? = some char)
      (code : c.state = .code) (other : char ≠ ';') (leaves : next ≠ .code)
      (step : transition comments c.state (some char) text[c.position + 1]? = ⟨next, consumed⟩) :
      Iterates comments text c
        ⟨c.position + consumed, next, c.position, c.spans ++ c.pending text c.position⟩
  | leave {char : Char} {next : State} {consumed : Nat} (here : text[c.position]? = some char)
      (inside : c.state ≠ .code) (leaves : next ≠ c.state)
      (step : transition comments c.state (some char) text[c.position + 1]? = ⟨next, consumed⟩) :
      Iterates comments text c
        ⟨c.position + consumed, next, c.position + consumed,
          c.spans ++ [.between text c.state c.start (c.position + consumed) false]⟩

theorem iterates_of_step {comments : Bool} {text : List Char} {c next : Cursor}
    (h : c.step comments text = some next) : c.Iterates comments text next := by
  -- the tests of the loop in their order: the end, a terminator, and where the step leads
  unfold step at h
  split at h
  · simp at h
  · next char here =>
      by_cases hsemi : c.state = .code ∧ char = ';'
      · rw [if_pos hsemi] at h
        obtain ⟨code, rfl⟩ := hsemi
        obtain rfl := Option.some.inj h
        exact .terminator here code
      · rw [if_neg hsemi] at h
        generalize hstep : transition comments c.state (some char) text[c.position + 1]? = t at h
        obtain ⟨state, consumed⟩ := t
        dsimp only at h
        split at h
        · next hstay =>
            obtain rfl := Option.some.inj h
            subst hstay
            exact .stay here hsemi hstep
        · next hleaves =>
            split at h
            · next code =>
                obtain rfl := Option.some.inj h
                exact .enter here code (fun hc => hsemi ⟨code, hc⟩) (by rwa [code] at hleaves) hstep
            · next inside =>
                obtain rfl := Option.some.inj h
                exact .leave here inside hleaves hstep

/-- The loop stops at the end of the text and nowhere else. -/
theorem step_eq_none_iff {comments : Bool} {text : List Char} {c : Cursor} :
    c.step comments text = none ↔ text.length ≤ c.position := by
  rw [← List.getElem?_eq_none_iff]
  unfold step
  split
  · next here => simp [here]
  · next char here =>
      rw [here]
      dsimp only
      repeat' split
      all_goals simp

/-- Every iteration is a step of `transition`, that of a terminator included. -/
theorem Iterates.transition_eq {comments : Bool} {text : List Char} {c next : Cursor}
    (h : c.Iterates comments text next) :
    ∃ char consumed, text[c.position]? = some char
      ∧ transition comments c.state (some char) text[c.position + 1]? = ⟨next.state, consumed⟩
      ∧ next.position = c.position + consumed := by
  cases h with
  | terminator here code => exact ⟨_, 1, here, by rw [code]; simp [transition], rfl⟩
  | stay here other step => exact ⟨_, _, here, step, rfl⟩
  | enter here code other leaves step => exact ⟨_, _, here, step, rfl⟩
  | leave here inside leaves step => exact ⟨_, _, here, step, rfl⟩

/-! ## §4. Positions. -/

/-- The iteration that does not move: a line comment hands its line break to the code. -/
def HandsBack (text : List Char) (c next : Cursor) : Prop :=
  c.state = .lineComment ∧ isLineBreak text[c.position]? = true
    ∧ next.state = .code ∧ next.position = c.position

/-- **An iteration moves on inside the text, or hands a line break back.** -/
theorem position_of_step {comments : Bool} {text : List Char} {c next : Cursor}
    (h : c.step comments text = some next) :
    (c.position < next.position ∨ c.HandsBack text next) ∧ next.position ≤ text.length := by
  obtain ⟨char, consumed, here, hstep, hposition⟩ := (iterates_of_step h).transition_eq
  have inside : c.position < text.length := (List.getElem?_eq_some_iff.mp here).1
  rcases transition_consumed comments c.state char text[c.position + 1]?
    with hone | ⟨htwo, d, behind⟩ | ⟨hnone, hstate, hbreak⟩
  · rw [hstep] at hone
    dsimp only at hone
    omega
  · rw [hstep] at htwo
    dsimp only at htwo
    have inside' : c.position + 1 < text.length := (List.getElem?_eq_some_iff.mp behind).1
    omega
  · rw [hstep] at hnone
    obtain ⟨hcode, rfl⟩ := Step.mk.inj hnone
    rw [← here] at hbreak
    exact ⟨.inr ⟨hstate, hbreak, hcode, hposition⟩, by omega⟩

/-- After it has handed a line break back, the loop takes it as code. -/
theorem HandsBack.moves_on {comments : Bool} {text : List Char} {c next : Cursor}
    (h : c.HandsBack text next) :
    ∃ second, next.step comments text = some second ∧ next.position < second.position := by
  obtain ⟨-, hbreak, hcode, hposition⟩ := h
  cases hsecond : next.step comments text with
  | none =>
      rw [step_eq_none_iff, hposition, ← List.getElem?_eq_none_iff] at hsecond
      simp [hsecond, isLineBreak] at hbreak
  | some second =>
      refine ⟨second, rfl, ?_⟩
      -- in code nothing is handed back
      rcases (position_of_step hsecond).1 with hmoves | hagain
      · exact hmoves
      · exact absurd (hcode.symm.trans hagain.1) (by decide)

/-- How many iterations there may still be: two for each character, and one less where the
next iteration is sure to move. -/
def iterationsLeft (text : List Char) (c : Cursor) : Nat :=
  2 * (text.length - c.position) - if c.state = .lineComment then 0 else 1

/-- Each iteration is one of those that were left. -/
theorem iterationsLeft_lt {comments : Bool} {text : List Char} {c next : Cursor}
    (h : c.step comments text = some next) : next.iterationsLeft text < c.iterationsLeft text := by
  have inside : c.position < text.length := by
    refine Nat.lt_of_not_le fun hend => ?_
    rw [step_eq_none_iff.mpr hend] at h
    simp at h
  unfold iterationsLeft
  rcases (position_of_step h).1 with hmoves | ⟨hstate, -, hcode, hposition⟩
  · -- two less for the character, and at most one more for the state
    split_ifs <;> omega
  · -- only the state goes on, from a line comment to code
    simp only [hstate, hcode, hposition, ite_true]
    rw [if_neg (by decide)]
    omega

/-! ## §5. Runs. -/

variable {comments : Bool} {text : List Char}

/-- What an iteration preserves holds after every number of iterations. -/
theorem run_invariant {P : Cursor → Prop} {c : Cursor} (init : P c)
    (preserved : ∀ c next, P c → c.step comments text = some next → P next) :
    ∀ n, P (c.run comments text n)
  | 0 => init
  | n + 1 => by
      have ih := run_invariant init preserved n
      unfold run
      cases h : (c.run comments text n).step comments text with
      | none => exact ih
      | some next => exact preserved _ next ih h

/-- A run that has not stopped has used up one of the iterations that were left each time. -/
theorem run_stopped_or (comments : Bool) (text : List Char) (c : Cursor) :
    ∀ n, (c.run comments text n).step comments text = none
      ∨ (c.run comments text n).iterationsLeft text + n ≤ c.iterationsLeft text
  | 0 => .inr (Nat.le_refl _)
  | n + 1 => by
      rcases run_stopped_or comments text c n with hstopped | hleft
      · -- a loop that has stopped stays where it is
        left
        show (((c.run comments text n).step comments text).getD _).step comments text = none
        rw [hstopped]
        exact hstopped
      · unfold run
        cases h : (c.run comments text n).step comments text with
        | none => exact .inl h
        | some next =>
            right
            have hlt := iterationsLeft_lt h
            simp only [Option.getD_some]
            omega

/-- **The loop stops** within the iterations that were left. -/
theorem step_run_eq_none (comments : Bool) {c : Cursor} {n : Nat} (h : c.iterationsLeft text ≤ n) :
    (c.run comments text n).step comments text = none := by
  rcases run_stopped_or comments text c n with hstopped | hleft
  · exact hstopped
  · cases hstep : (c.run comments text n).step comments text with
    | none => rfl
    | some next =>
        have hlt := iterationsLeft_lt hstep
        omega

theorem position_run_le (state : State) (n : Nat) :
    ((initial state).run comments text n).position ≤ text.length :=
  run_invariant (P := fun c => c.position ≤ text.length) (Nat.zero_le _)
    (fun _ _ _ h => (position_of_step h).2) n

theorem position_run_mono (c : Cursor) (n : Nat) :
    (c.run comments text n).position ≤ (c.run comments text (n + 1)).position := by
  show _ ≤ (((c.run comments text n).step comments text).getD _).position
  cases h : (c.run comments text n).step comments text with
  | none => exact Nat.le_refl _
  | some next =>
      rcases (position_of_step h).1 with hmoves | ⟨-, -, -, hposition⟩
      · exact Nat.le_of_lt hmoves
      · exact Nat.le_of_eq hposition.symm

end Cursor

end SqlStatements.Lexical
