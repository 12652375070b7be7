/-
  SqlStatements.Lexical.State
  ───────────────────────────
  **The five lexical states of a script, and one step between them.**

  Every character of a script stands in plain code, in one of the two kinds of
  comment or in one of the two kinds of quoted literal.  `transition` says what a
  state and the next two characters lead to; nothing else in the library knows where
  a comment or a literal begins or ends.

    • A line comment ends before its line break, so the break is handed back to the
      code: that step consumes nothing.
    • A doubled quote inside a literal stands for one quote and is taken in one step,
      like the two characters of a comment marker.
-/
import SqlStatements.Text.Quoted

namespace SqlStatements.Lexical

/-! ## §1. States. -/

/-- What kind of text a character of a script belongs to. -/
inductive State where
  | code
  | lineComment
  | blockComment
  | singleQuoted
  | doubleQuoted
  deriving Repr, DecidableEq, Inhabited

namespace State

/-- All states, in the order in which they are introduced. -/
def all : List State :=
  [.code, .lineComment, .blockComment, .singleQuoted, .doubleQuoted]

/-- The name under which a state is asked for and reported. -/
def name : State → String
  | .code => "code"
  | .lineComment => "line_comment"
  | .blockComment => "block_comment"
  | .singleQuoted => "single_quoted"
  | .doubleQuoted => "double_quoted"

/-- The name of a state as a constant, in capitals. -/
def constant (s : State) : String :=
  s.name.toUpper

/-- The state of a name. -/
def ofName? (name : String) : Option State :=
  all.find? (·.name == name)

/-- The wording for a name that is no state's. -/
def unknownMessage (name : String) : String :=
  Text.Quoted.text name ++ " is not a valid ScanState"

/-- Whether the text of this state is a comment. -/
def isComment : State → Bool
  | .lineComment | .blockComment => true
  | _ => false

/-- Whether the text of this state is a quoted literal. -/
def isQuoted : State → Bool
  | .singleQuoted | .doubleQuoted => true
  | _ => false

/-- The letter that stands for a state in a character-by-character listing. -/
def letter : State → Char
  | .code => 'C'
  | .lineComment => 'L'
  | .blockComment => 'B'
  | .singleQuoted => 'S'
  | .doubleQuoted => 'D'

end State

/-! ## §2. One step. -/

/-- Where a step leads and how many characters it takes. -/
structure Step where
  next : State
  consumed : Nat
  deriving Repr, DecidableEq

/-- A line break, of either kind, ends a line comment. -/
def isLineBreak (c : Option Char) : Bool :=
  c == some '\n' || c == some '\r'

/-- The step from `state` at the character `char` with `lookahead` after it; `none`
stands for no character at all.  With `comments` off, comment markers are plain code
and only quotes change the state. -/
def transition (comments : Bool) (state : State) (char lookahead : Option Char) : Step :=
  match state with
  | .code =>
      if comments && char == some '-' && lookahead == some '-' then ⟨.lineComment, 2⟩
      else if comments && char == some '/' && lookahead == some '*' then ⟨.blockComment, 2⟩
      else if char == some '\'' then ⟨.singleQuoted, 1⟩
      else if char == some '"' then ⟨.doubleQuoted, 1⟩
      else ⟨.code, 1⟩
  | .lineComment => if isLineBreak char then ⟨.code, 0⟩ else ⟨.lineComment, 1⟩
  | .blockComment =>
      if char == some '*' && lookahead == some '/' then ⟨.code, 2⟩ else ⟨.blockComment, 1⟩
  | .singleQuoted => quoted .singleQuoted '\''
  | .doubleQuoted => quoted .doubleQuoted '"'
where
  /-- A step inside a literal: a doubled quote is content, a single one ends it. -/
  quoted (state : State) (quote : Char) : Step :=
    if char == some quote then
      if lookahead == some quote then ⟨state, 2⟩ else ⟨.code, 1⟩
    else ⟨state, 1⟩

end SqlStatements.Lexical
