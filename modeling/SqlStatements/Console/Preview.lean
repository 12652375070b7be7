/-
  SqlStatements.Console.Preview
  ─────────────────────────────
  **A listing of statements for people to read.**

  A listing has a title, which may hold tags, a rule under it, and the statements with
  their numbers.  A statement of more lines than the limit is shown by its first three
  lines, the number of lines left out, and its last line.
-/
import SqlStatements.Console.Screen

namespace SqlStatements.Console

open Text

/-- The rule under a title. -/
def rule : String := String.ofList (List.replicate 60 '─')

/-- The number of lines that a shortened statement begins with. -/
def shownLines : Nat := 3

/-- The line limit of a listing that is not asked for in full. -/
def defaultLimit : Int := 5

/-- The lines of a statement that are shown, and of those left out only how many. -/
def statementLines (limit : Option Int) (statement : String) : List String :=
  let all := (lines statement.toList).map String.ofList
  if limit.all ((all.length : Int) ≤ ·) then all
  else
    let hidden : Int := (all.length : Int) - (shownLines + 1 : Nat)
    all.take shownLines ++ [s!"... ({hidden} more lines)"] ++ all.getLast?.toList

/-- A statement of a listing: its number and its lines, two spaces in. -/
def statementBlock (printer : Printer) (limit : Option Int) (total number : Nat)
    (statement : String) : String :=
  let shown := (statementLines limit statement).map fun line => printer.plain ("  " ++ line)
  s!"\nStatement {number}/{total}:\n" ++ String.join shown

/-- A listing of statements under a title. -/
def preview (statements : List String) (title : String) (limit : Option Int)
    (printer : Printer := .standard) : Except MarkupError String :=
  (printer.markedLine s!"[bold]{title}:[/bold]").map fun heading =>
    let blocks := statements.zipIdx.map fun (s, i) =>
      statementBlock printer limit statements.length (i + 1) s
    "\n" ++ heading ++ rule ++ "\n" ++ String.join blocks ++ "\n"

end SqlStatements.Console
