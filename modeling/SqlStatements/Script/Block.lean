/-
  SqlStatements.Script.Block
  ──────────────────────────
  **Reading the code words of a statement: is it a trigger, and how deep are we?**

  The body of a trigger stands between `BEGIN` and `END` and holds statements of its
  own, so the semicolons inside it do not end the trigger.  `Reading` is what has to
  be remembered of a statement to know this:

    • its first three words, which say whether it defines a trigger,
    • the depth of the blocks that are open,
    • the word that is being read.

  A word is a letter or `_`, and all letters, digits, `_` and `$` after it, within one
  run of code; letters and digits are the ASCII ones.  In a trigger definition `BEGIN`
  opens a block, `CASE` opens one inside a block, and `END` closes the innermost.
-/
import SqlStatements.Lexical.Mark

namespace SqlStatements.Script

open Lexical

/-! ## §1. Words. -/

/-- The characters that a word may begin with. -/
def startsWord (c : Char) : Bool :=
  c.isAlpha || c == '_'

/-- The characters that go on with a word. -/
def continuesWord (c : Char) : Bool :=
  c.isAlphanum || c == '_' || c == '$'

/-- The ways in which a trigger definition begins, in capitals. -/
def triggerOpenings : List (List String) :=
  [["CREATE", "TRIGGER"], ["CREATE", "TEMP", "TRIGGER"], ["CREATE", "TEMPORARY", "TRIGGER"]]

/-- Whether a statement with these first words defines a trigger. -/
def opensTrigger (words : List String) : Bool :=
  triggerOpenings.any (·.isPrefixOf words)

/-! ## §2. What is remembered of a statement. -/

/-- The state of reading a statement. -/
structure Reading where
  /-- The first words of the statement, at most three, in capitals. -/
  opening : List String := []
  /-- The number of open blocks. -/
  depth : Nat := 0
  /-- The characters of the word that is being read, in capitals, the latest first. -/
  word : List Char := []
  deriving Repr, DecidableEq, Inhabited

namespace Reading

/-- The depth after a word of a trigger definition. -/
def depthAfter (depth : Nat) (word : String) : Nat :=
  if word = "BEGIN" then depth + 1
  else if word = "CASE" && depth > 0 then depth + 1
  else if word = "END" then depth - 1
  else depth

/-- A whole word has been read. -/
def readWord (r : Reading) (word : String) : Reading :=
  let opening := if r.opening.length < 3 then r.opening ++ [word] else r.opening
  { r with
    opening := opening
    depth := if opensTrigger opening then depthAfter r.depth word else r.depth }

/-- The word that is being read, if any, ends here. -/
def endWord (r : Reading) : Reading :=
  match r.word with
  | [] => r
  | word => { r.readWord (String.ofList word.reverse) with word := [] }

/-- Whether a character belongs to the word that is being read or begins one. -/
def takes (r : Reading) (m : Mark) : Bool :=
  m.state == .code && !m.terminator
    && (if r.word.isEmpty then startsWord m.char else continuesWord m.char)

/-- One more character of the statement. -/
def read (r : Reading) (m : Mark) : Reading :=
  if r.takes m then { r with word := m.char.toUpper :: r.word } else r.endWord

/-- A new statement begins: the words start afresh, and the depth is left as it is. -/
def nextStatement (r : Reading) : Reading :=
  { opening := [], depth := r.depth, word := [] }

end Reading

end SqlStatements.Script
