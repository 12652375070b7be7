/-
  SqlStatements.Script.Comments
  ─────────────────────────────
  **Taking the comments out of a script.**

  A comment is replaced by nothing at all.  The line break that ends a line comment
  is code and stays; a comment that is still open at the end of the script goes to
  the end.
-/
import SqlStatements.Lexical.Mark

namespace SqlStatements.Script

open Lexical

/-- A script without its comments: code and literals as they were. -/
def removeComments (text : List Char) : List Char :=
  unmark ((marks true text .code).filter (!·.state.isComment))

end SqlStatements.Script
