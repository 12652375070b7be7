/-
  SqlStatements.Report
  ────────────────────
  **The results of commands as JSON objects.**

  A report says whether a command succeeded, gives a code and a message, and carries
  data.  A report on a check succeeds exactly when there is no issue.
-/
import SqlStatements.Check
import SqlStatements.Json.Writer

namespace SqlStatements

open Json (Value)

/-! ## §1. Reports. -/

/-- The result of a command. -/
structure Report where
  success : Bool
  code : String := "ok"
  message : String := ""
  data : List (String × Value) := []
  deriving Repr

namespace Report

/-- A report as a JSON object. -/
def toJson (r : Report) : Value :=
  .object [("success", .bool r.success), ("code", .string r.code),
    ("message", .string r.message), ("data", .object r.data)]

/-- The text of a report, with two spaces per level. -/
def text (r : Report) : String := Json.pretty r.toJson

/-! ## §2. The two commands. -/

/-- A count as JSON. -/
def count (n : Nat) : Value := .int n

/-- The report on the statements that a script was cut into. -/
def ofSplit (source : String) (statements : List String) : Report :=
  { success := true
    message := s!"{statements.length} statement(s)"
    data := [("source", .string source), ("count", count statements.length),
      ("statements", .array (statements.map .string))] }

/-- An issue as a JSON object. -/
def issueObject (i : Issue) : Value :=
  .object [("index", count i.index), ("statement", .string i.statement),
    ("error", .string i.error)]

/-- How many of some statements do not parse. -/
def issueSummary (issues : List Issue) (total : Nat) : String :=
  s!"{issues.length} of {total} statement(s) failed to parse"

/-- The report on a check of `total` statements. -/
def ofCheck (source dialect : String) (total : Nat) (issues : List Issue) : Report :=
  { success := issues.isEmpty
    code := if issues.isEmpty then "ok" else "syntax_errors"
    message := issueSummary issues total
    data := [("source", .string source), ("dialect", .string dialect), ("count", count total),
      ("issues", .array (issues.map issueObject))] }

end Report

end SqlStatements
