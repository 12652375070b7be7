/-
  SqlStatements.Lexical.Mark
  ──────────────────────────
  **The lexical reading of a script, character by character.**

  `marks` goes through a text once and says of every character which state it belongs
  to, whether it is a statement terminator, and whether it is the first of its span.
  The passes over a script and the spans of `Lexical.Span` are all read off these
  marks.

  A step of `transition` may take two characters, one, or none.  The scan takes one
  character at a time all the same: after the first half of a two-character step it
  owes the second half to the same span (`Mode.owed`), and the line break that a line
  comment hands back is taken by the code at once.
-/
import SqlStatements.Lexical.State

namespace SqlStatements.Lexical

/-! ## §1. Marks and modes. -/

/-- A character of a script with what the scan says of it. -/
structure Mark where
  char : Char
  state : State
  /-- Whether the character is a `;` that stands in code. -/
  terminator : Bool
  /-- Whether a span begins at the character. -/
  opens : Bool
  deriving Repr, DecidableEq, Inhabited

/-- What the scan is about to do with the next character. -/
inductive Mode where
  /-- To take a step from `state`; `fresh` says that no span is open. -/
  | ready (state : State) (fresh : Bool)
  /-- To give the second half of a two-character step to the span of `owner`, and go
  on from `next`. -/
  | owed (owner next : State)
  deriving Repr, DecidableEq

/-- The mode after the first character of a step that takes `consumed` characters and
whose span belongs to `owner`. -/
def Mode.after (owner next : State) (consumed : Nat) : Mode :=
  if consumed = 1 then .ready next (next ≠ owner) else .owed owner next

/-! ## §2. The scan. -/

/-- What is said of the character `c`, and how to go on after it. -/
def Mode.advance (comments : Bool) (mode : Mode) (c : Char) (lookahead : Option Char) :
    Mark × Mode :=
  match mode with
  | .owed owner next => (⟨c, owner, false, false⟩, .ready next (next ≠ owner))
  | .ready state fresh =>
      if state = .code ∧ c = ';' then (⟨c, .code, true, true⟩, .ready .code true)
      else
        let step := transition comments state (some c) lookahead
        if step.consumed = 0 then (⟨c, step.next, false, true⟩, .ready step.next false)
        else if state = .code ∧ step.next ≠ .code then
          (⟨c, step.next, false, true⟩, .after step.next step.next step.consumed)
        else (⟨c, state, false, fresh⟩, .after state step.next step.consumed)

/-- The marks of a text, read from a given mode. -/
def marksFrom (comments : Bool) (mode : Mode) : List Char → List Mark
  | [] => []
  | c :: rest =>
      let (mark, after) := mode.advance comments c rest.head?
      mark :: marksFrom comments after rest

/-- The marks of a text that is read from `state`; a script starts in code. -/
def marks (comments : Bool) (text : List Char) (state : State) : List Mark :=
  marksFrom comments (.ready state true) text

/-- The mode in which the scan of a text ends. -/
def modeAfter (comments : Bool) (mode : Mode) : List Char → Mode
  | [] => mode
  | c :: rest => modeAfter comments (mode.advance comments c rest.head?).2 rest

/-! ## §3. The characters behind the marks. -/

/-- The characters of a list of marks. -/
def unmark (ms : List Mark) : List Char :=
  ms.map (·.char)

/-- The mark is of the character it stands at. -/
theorem advance_char (comments : Bool) (mode : Mode) (c : Char) (lookahead : Option Char) :
    (mode.advance comments c lookahead).1.char = c := by
  cases mode with
  | owed owner next => rfl
  | ready state fresh =>
      simp only [Mode.advance]
      split
      · rfl
      · split
        · rfl
        · split <;> rfl

/-- The scan skips nothing and adds nothing. -/
theorem unmark_marksFrom (comments : Bool) (text : List Char) :
    ∀ mode, unmark (marksFrom comments mode text) = text := by
  induction text with
  | nil => intro mode; rfl
  | cons c rest ih =>
      intro mode
      show (mode.advance comments c rest.head?).1.char :: unmark (marksFrom comments _ rest) = _
      rw [advance_char, ih]

theorem unmark_marks (comments : Bool) (text : List Char) (state : State) :
    unmark (marks comments text state) = text :=
  unmark_marksFrom comments text _

/-- The scan says something of every character. -/
theorem length_marksFrom (comments : Bool) (mode : Mode) (text : List Char) :
    (marksFrom comments mode text).length = text.length := by
  rw [← List.length_map Mark.char]
  exact congrArg List.length (unmark_marksFrom comments text mode)

/-! ## §4. The state of each character. -/

/-- The state of each character of a text, delimiters counted with what they
delimit. -/
def classify (text : List Char) (state : State) : List State :=
  (marks true text state).map (·.state)

end SqlStatements.Lexical
