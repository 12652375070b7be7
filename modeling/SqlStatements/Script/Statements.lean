/-
  SqlStatements.Script.Statements
  ───────────────────────────────
  **Cutting a script into statements.**

  A statement ends at a semicolon in code.  With trigger blocks kept, a semicolon
  inside the body of a trigger definition ends nothing.  What stands after the last
  cut is the final statement; each statement loses the white space at its two ends,
  and the empty ones are dropped.

    • `splitStatements` — for a text that is free of comments,
    • `splitScript`     — for a whole script: comments removed, lines trimmed, cut.
-/
import SqlStatements.Script.Block
import SqlStatements.Script.Comments
import SqlStatements.Script.Lines

namespace SqlStatements.Script

open Lexical Text

/-! ## §1. The cuts. -/

/-- Whether a statement ends at the mark, after what has been read of it. -/
def endsStatement (r : Reading) (m : Mark) : Bool :=
  m.terminator && r.endWord.depth == 0

/-- What is remembered after the mark; without trigger blocks no word is read, so no
block is ever open. -/
def readingAfter (triggerBlocks : Bool) (r : Reading) (m : Mark) : Reading :=
  if endsStatement r m then r.endWord.nextStatement
  else if triggerBlocks then r.read m
  else r

/-- The segments of a marked text between the cuts, the terminators at the cuts left
out.  There is always one segment more than there are cuts. -/
def segments (triggerBlocks : Bool) (r : Reading) : List Mark → List (List Char)
  | [] => [[]]
  | m :: rest =>
      let later := segments triggerBlocks (readingAfter triggerBlocks r m) rest
      if endsStatement r m then [] :: later
      else
        match later with
        | [] => [[m.char]]
        | segment :: more => (m.char :: segment) :: more

/-! ## §2. Statements. -/

/-- Segments as statements: cut at both ends, the empty ones left out. -/
def statementsOf (pieces : List (List Char)) : List (List Char) :=
  (pieces.map strip).filter (!·.isEmpty)

/-- The statements of a text that is free of comments. -/
def splitStatements (text : List Char) (triggerBlocks : Bool) : List (List Char) :=
  statementsOf (segments triggerBlocks {} (marks false text .code))

/-- The statements of a whole script. -/
def splitScript (text : List Char) (triggerBlocks : Bool) : List (List Char) :=
  splitStatements (trimLines (removeComments text)) triggerBlocks

end SqlStatements.Script
