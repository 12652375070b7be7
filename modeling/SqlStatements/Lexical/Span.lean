/-
  SqlStatements.Lexical.Span
  ──────────────────────────
  **Spans: maximal runs of a script in one lexical state.**

  `scan` cuts a text into spans, one for each comment, each literal and each run of
  code between them.  Comments and literals include their delimiters, and a `;` in
  code is a span of its own.  Comments and literals that are still open at the end of
  the text close there, so every text has spans and the spans cover it.

  A scan may start inside a comment or a literal.  A line comment that is left at the
  very first character has an empty span.
-/
import SqlStatements.Lexical.Mark

namespace SqlStatements.Lexical

/-! ## §1. Spans. -/

/-- A run of a script in a single state; positions count characters. -/
structure Span where
  state : State
  start : Nat
  text : List Char
  /-- Whether the span is a `;` in code. -/
  terminator : Bool
  deriving Repr, DecidableEq

/-- The position after the last character of a span. -/
def Span.stop (s : Span) : Nat :=
  s.start + s.text.length

/-! ## §2. From marks to spans. -/

/-- The span that a single mark at `position` makes. -/
def Mark.toSpan (m : Mark) (position : Nat) : Span :=
  ⟨m.state, position, [m.char], m.terminator⟩

/-- The spans of a list of marks whose first stands at `position`: a mark joins the
span of the mark after it unless that one opens a span. -/
def groupMarks (position : Nat) : List Mark → List Span
  | [] => []
  | m :: rest =>
      match rest, groupMarks (position + 1) rest with
      | next :: _, span :: more =>
          if next.opens then m.toSpan position :: span :: more
          else { span with start := position, text := m.char :: span.text } :: more
      | _, spans => m.toSpan position :: spans

/-- Whether a line comment is left before its first character. -/
def leavesAtOnce (text : List Char) (state : State) : Bool :=
  state == .lineComment && isLineBreak text.head?

/-- The spans of a text that is read from `state`. -/
def scan (comments : Bool) (text : List Char) (state : State) : List Span :=
  let spans := groupMarks 0 (marks comments text state)
  if leavesAtOnce text state then ⟨.lineComment, 0, [], false⟩ :: spans else spans

end SqlStatements.Lexical
