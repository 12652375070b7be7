/-
  SqlStatements.Script.Lines
  ──────────────────────────
  **Dropping blank lines, and white space at the ends of lines of code.**

  Lines are lines of code: a line feed inside a literal ends no line, and white space
  inside a literal is never cut.  The text is expected to be free of comments, so
  comment markers are plain code here.

    • A line that holds only white space is dropped.
    • A line that ends in code loses the spaces, tabs and carriage returns at its end.
    • The lines that are left are joined by line feeds.
-/
import SqlStatements.Lexical.Mark
import SqlStatements.Text.Blank

namespace SqlStatements.Script

open Lexical Text

/-! ## §1. Lines of code. -/

/-- The line feed that ends a line of code. -/
def endsLine (m : Mark) : Bool :=
  m.state == .code && m.char == '\n'

/-- The lines of a marked text, each without the line feed that ends it. -/
def codeLines (ms : List Mark) : List (List Mark) :=
  ms.splitOnP endsLine

/-! ## §2. What is kept of a line. -/

/-- Whether a line holds white space only. -/
def isBlankLine (line : List Mark) : Bool :=
  line.all (isBlank ·.char)

/-- White space that a line may lose at its end: it stands in code. -/
def isCodeTail (m : Mark) : Bool :=
  m.state == .code && isLineTail m.char

/-- The lines that are kept, each without the white space at its end. -/
def keptLines (ms : List Mark) : List (List Mark) :=
  ((codeLines ms).filter (!isBlankLine ·)).map (dropTrailing isCodeTail)

/-- A text with only its non-blank lines, each cut at its end. -/
def trimLines (text : List Char) : List Char :=
  List.intercalate ['\n'] ((keptLines (marks false text .code)).map unmark)

end SqlStatements.Script
