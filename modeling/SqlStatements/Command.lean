/-
  SqlStatements.Command
  ─────────────────────
  **Listing the statements of a script, and checking them.**

  Both commands load a script, from a file or from standard input, and give a value
  together with the text that is printed.  What is printed is for people to read, or
  one JSON object.

  What the commands do not decide themselves is a parameter: the parser in the
  `Environment`, and in the `Platform` the readers of URLs, encodings and settings and the
  console.
-/
import SqlStatements.Console.Preview
import SqlStatements.Files.SettingsFile
import SqlStatements.Report

namespace SqlStatements

open Console Files

/-! ## §1. What commands work with, and how they fail. -/

/-- What a command finds around it. -/
structure Environment where
  disk : Disk
  /-- The text on standard input. -/
  input : String
  parser : SqlParser

/-- What commands are built on. -/
structure Platform where
  rules : UrlRules
  codecs : Encoding.ForeignCodecs
  reader : SettingsReader
  printer : Printer

/-- The platform that is described here, with no more encodings than these. -/
def Platform.standard : Platform :=
  ⟨.lenient, Encoding.noForeignCodecs, .standard, .standard⟩

/-- Why a command gives no result. -/
inductive CommandError where
  | load (error : LoadError)
  | settings (error : SettingsLoadError)
  | crash (failure : Crash)
  | markup (error : MarkupError)
  deriving Repr, DecidableEq

namespace CommandError

/-- The wording of an error. -/
def message : CommandError → String
  | .load error => error.message
  | .settings error => error.message
  | .crash failure => failure.message
  | .markup error => error.message

/-- Whether an error is one that users are expected to make: a source that cannot be
read, or settings that are not accepted. -/
def isExpected : CommandError → Bool
  | .load (.source _) | .settings (.settings _) => true
  | _ => false

end CommandError

/-- A value and what is printed of it. -/
structure Printed (α : Type) where
  value : α
  output : String
  deriving Repr, DecidableEq

/-! ## §2. Loading. -/

/-- The source that stands for standard input. -/
def standardInput : String := "-"

/-- The script of a source: standard input, a URL or a plain path. -/
def loadScript (env : Environment) (source : String) (settings : Settings)
    (platform : Platform := .standard) : Except LoadError Script :=
  if source = standardInput then .ok (Script.ofText env.input settings)
  else scriptOfUrl env.disk source none settings platform.rules platform.codecs

/-! ## §3. Listing. -/

/-- How the statements of a script are listed. -/
structure ListingForm where
  json : Bool := false
  /-- Whether long statements are shown in full. -/
  full : Bool := false
  deriving Repr, DecidableEq

/-- The line limit of a listing. -/
def ListingForm.limit (form : ListingForm) : Option Int :=
  if form.full then none else some defaultLimit

/-- The listing of a script. -/
def listing (printer : Printer) (source : String) (script : Script) (form : ListingForm) :
    Except MarkupError String :=
  if form.json then .ok ((Report.ofSplit source script.statements).text ++ "\n")
  else if script.isEmpty then .ok "No statements found\n"
  else preview script.statements s!"{script.size} statement(s)" form.limit printer

/-- Loads a script and lists its statements. -/
def split (env : Environment) (source : String) (settings : Settings) (form : ListingForm)
    (platform : Platform := .standard) : Except CommandError (Printed Script) :=
  match loadScript env source settings platform with
  | .error error => .error (.load error)
  | .ok script =>
      match listing platform.printer source script form with
      | .error error => .error (.markup error)
      | .ok output => .ok ⟨script, output⟩

/-! ## §4. Checking. -/

/-- The part of a statement before its first line break. -/
def firstLine (statement : String) : String :=
  String.ofList (statement.toList.takeWhile (· != '\n'))

/-- An issue as it is printed: the statement's number and first line, and the error on
the next line. -/
def issueLines (printer : Printer) (issue : Issue) : String :=
  s!"✗ Statement {issue.index + 1}: " ++ printer.plain (firstLine issue.statement)
    ++ printer.plain ("    " ++ issue.error)

/-- What a check of `total` statements prints. -/
def findings (printer : Printer) (source dialect : String) (total : Nat) (issues : List Issue)
    (json : Bool) : Except MarkupError String :=
  if json then .ok ((Report.ofCheck source dialect total issues).text ++ "\n")
  else if issues.isEmpty then
    printer.markedLine s!"[green]✓[/green] {total} statement(s) parsed ({dialect})"
  else
    .ok (String.join (issues.map (issueLines printer)) ++ "\n" ++ Report.issueSummary issues total
      ++ "\n")

/-- Checks the statements of a script that has been loaded. -/
def checkLoaded (parser : SqlParser) (printer : Printer) (source dialect : String)
    (script : Script) (json : Bool) : Except CommandError (Printed (List Issue)) :=
  match findIssues parser dialect script.statements with
  | .error failure => .error (.crash failure)
  | .ok issues =>
      match findings printer source dialect script.size issues json with
      | .error error => .error (.markup error)
      | .ok output => .ok ⟨issues, output⟩

/-- Loads a script and checks its statements. -/
def check (env : Environment) (source : String) (settings : Settings) (json : Bool)
    (platform : Platform := .standard) : Except CommandError (Printed (List Issue)) :=
  match loadScript env source settings platform with
  | .error error => .error (.load error)
  | .ok script => checkLoaded env.parser platform.printer source settings.dialect script json

end SqlStatements
