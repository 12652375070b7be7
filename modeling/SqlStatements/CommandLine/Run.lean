/-
  SqlStatements.CommandLine.Run
  ─────────────────────────────
  **Carrying out a command line: what is printed, and the status at the end.**

  The status is 0 when all went well, 1 after a failure or a check that found issues,
  and 2 when the words of the command line are faulty.  A failure is printed with its
  message, in which tags count; when these do not match, nothing is printed at all.

  How the words of a command line are read is a parameter, as is the platform of the
  commands.
-/
import SqlStatements.CommandLine.Request

namespace SqlStatements.CommandLine

open Console Files

/-! ## §1. Outcomes. -/

/-- A failure that is not printed on standard output. -/
inductive Abort where
  | request (error : RequestError)
  | markup (error : MarkupError)
  deriving Repr, DecidableEq

/-- The wording of a failure. -/
def Abort.message : Abort → String
  | .request error => error.message
  | .markup error => error.message

/-- How a program ends. -/
structure Outcome where
  status : Nat := 0
  output : String := ""
  abort : Option Abort := none
  /-- The statements that were handed to the parser, each with its dialect. -/
  consulted : List (String × String) := []
  deriving Repr, DecidableEq

namespace Outcome

/-- The outcome of a failure with a message. -/
def failed (printer : Printer) (label message : String) : Outcome :=
  match printer.markedLine s!"[red]✗ {label}:[/red] {message}" with
  | .ok text => { status := 1, output := text }
  | .error error => { status := 1, abort := some (.markup error) }

/-- The outcome of a command that failed. -/
def ofError (printer : Printer) (error : CommandError) : Outcome :=
  failed printer (if error.isExpected then "Error" else "Unexpected error") error.message

/-- The outcome of words that ask for nothing. -/
def ofRequestError (error : RequestError) : Outcome :=
  let status := match error with
    | .usage _ _ => 2
    | .nulInPath => 1
  { status := status, abort := some (.request error) }

end Outcome

/-! ## §2. Version and help. -/

/-- The name of the program. -/
def programName : String := "sqlscript"

/-- The version of the program. -/
def programVersion : String := "0.1.0"

/-- The usage of the program or of a command, in one line. -/
def usageLine : Option CommandName → String
  | none => s!"Usage: {programName} [OPTIONS] COMMAND [ARGS]..."
  | some .split => s!"Usage: {programName} split [OPTIONS] SOURCE"
  | some .check => s!"Usage: {programName} check [OPTIONS] SOURCE"
  | some .literal => s!"Usage: {programName} literal [OPTIONS] [VALUE]"

/-- What the program or a command does, in one line. -/
def summary : Option CommandName → String
  | none => "Split and check SQLite scripts"
  | some .split => "Split a SQL script into statements"
  | some .check => "Check that every statement of a SQL script parses"
  | some .literal => "Print VALUE as a SQLite literal"

/-- A line on an option. -/
def optionLine (form : OptionForm Choice) : String :=
  let short := match form.short with
    | some c => String.ofList ['-', c, ',', ' ']
    | none => ""
  s!"  {short}{form.long}  {form.summary}\n"

/-- A line on a command. -/
def commandLine (name : CommandName) : String :=
  s!"  {name.text}  {summary (some name)}\n"

/-- The help on the program or on a command. -/
def helpText (about : Option CommandName) : String :=
  let options := match about with
    | none => programOptions
    | some name => name.options
  let commands := match about with
    | none => "\nCommands:\n" ++ String.join (CommandName.all.map commandLine)
    | some _ => ""
  s!"{usageLine about}\n\n  {summary about}\n\nOptions:\n"
    ++ String.join (options.map optionLine) ++ commands

/-! ## §3. Commands. -/

/-- Settings with the choices of a command line in place of their own. -/
def SettingsChoice.override (choice : SettingsChoice) (settings : Settings) : Settings :=
  { encoding := choice.encoding.getD settings.encoding
    triggerBlocks := choice.triggerBlocks.getD settings.triggerBlocks
    dialect := choice.dialect.getD settings.dialect }

/-- The settings of a command: those of the settings file, if one is named, with the
choices of the command line in place of them. -/
def SettingsChoice.settings (choice : SettingsChoice) (disk : Disk)
    (reader : SettingsReader := .standard) : Except CommandError Settings :=
  match choice.config with
  | none | some "" => .ok (choice.override {})
  | some path =>
      match settingsOfFile disk (Path.ofText path) reader with
      | .ok settings => .ok (choice.override settings)
      | .error error => .error (.settings error)

/-- The outcome of `split`. -/
def runSplit (platform : Platform) (env : Environment) (source : String)
    (choice : SettingsChoice) (form : ListingForm) : Outcome :=
  match choice.settings env.disk platform.reader with
  | .error error => .ofError platform.printer error
  | .ok settings =>
      match split env source settings form platform with
      | .error error => .ofError platform.printer error
      | .ok printed => { output := printed.output }

/-- The outcome of `check`. -/
def runCheck (platform : Platform) (env : Environment) (source : String)
    (choice : SettingsChoice) (json : Bool) : Outcome :=
  match choice.settings env.disk platform.reader with
  | .error error => .ofError platform.printer error
  | .ok settings =>
      match loadScript env source settings platform with
      | .error error => .ofError platform.printer (.load error)
      | .ok script =>
          let asked := (consulted env.parser settings.dialect script.statements).map
            (·, settings.dialect)
          match checkLoaded env.parser platform.printer source settings.dialect script json with
          | .error error => { Outcome.ofError platform.printer error with consulted := asked }
          | .ok found =>
              { status := if found.value.isEmpty then 0 else 1
                output := found.output
                consulted := asked }

/-- The outcome of `literal`. -/
def runLiteral (printer : Printer) (value : Option String) (type : Literal.RawType) : Outcome :=
  match Literal.encodeRaw value type.name with
  | .ok literal => { output := printer.echo literal }
  | .error error => .failed printer "Error" error.message

/-- The outcome of a request. -/
def Request.run (request : Request) (env : Environment) (platform : Platform := .standard) :
    Outcome :=
  match request with
  | .version => { output := s!"{programName}, version {programVersion}\n" }
  | .help about => { output := helpText about }
  | .split source choice form => runSplit platform env source choice form
  | .check source choice json => runCheck platform env source choice json
  | .literal value type => runLiteral platform.printer value type

/-- A reader of command lines. -/
abbrev WordsReader := (words : List String) → Except RequestError Request

/-- The outcome of a command line. -/
def run (env : Environment) (words : List String) (platform : Platform := .standard)
    (read : WordsReader := Request.ofWords) : Outcome :=
  match read words with
  | .ok request => request.run env platform
  | .error error => .ofRequestError error

end SqlStatements.CommandLine
