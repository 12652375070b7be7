/-
  SqlStatements.CommandLine.Request
  ─────────────────────────────────
  **What the words of a command line ask for.**

  There are three commands: `split` and `check` take a source, `literal` a value.
  Options in front of the command's name belong to the program, those after it to the
  command.  Of an option that is given more than once the last one counts.  A request
  for help comes before everything else that the words say, unless they are faulty.
-/
import SqlStatements.Command
import SqlStatements.CommandLine.Options
import SqlStatements.Literal.RawValue

namespace SqlStatements.CommandLine

open Literal (RawType)

/-! ## §1. Requests. -/

/-- Where the settings of a command come from: a file, and what overrides it. -/
structure SettingsChoice where
  config : Option String := none
  encoding : Option String := none
  triggerBlocks : Option Bool := none
  dialect : Option String := none
  deriving Repr, DecidableEq

/-- The commands. -/
inductive CommandName where
  | split
  | check
  | literal
  deriving Repr, DecidableEq

/-- All commands. -/
def CommandName.all : List CommandName := [.split, .check, .literal]

/-- The word for a command. -/
def CommandName.text : CommandName → String
  | .split => "split"
  | .check => "check"
  | .literal => "literal"

/-- The command of a word. -/
def CommandName.ofText? (word : String) : Option CommandName :=
  CommandName.all.find? (·.text == word)

/-- What a command line asks for. -/
inductive Request where
  | version
  /-- Help on the program, or on a command. -/
  | help (about : Option CommandName)
  | split (source : String) (choice : SettingsChoice) (form : ListingForm)
  | check (source : String) (choice : SettingsChoice) (json : Bool)
  | literal (value : Option String) (type : RawType)
  deriving Repr, DecidableEq

/-- Why a command line asks for nothing. -/
inductive RequestError where
  | usage (about : Option CommandName) (error : UsageError)
  /-- The path of the settings file holds the character that ends a name. -/
  | nulInPath
  deriving Repr, DecidableEq

/-- The wording of an error. -/
def RequestError.message : RequestError → String
  | .usage _ error => error.message
  | .nulInPath => "embedded null byte"

/-! ## §2. The options. -/

/-- What one option says. -/
inductive Choice where
  | version
  | help
  | json
  | full
  | encoding (name : String)
  | triggerBlocks (keep : Bool)
  | dialect (name : String)
  | config (path : String)
  | type (name : String)
  deriving Repr, DecidableEq

/-- The option that asks for help. -/
def helpOption : OptionForm Choice :=
  { long := "--help", meaning := .flag .help, summary := "Show this message and exit." }

/-- The option for JSON output. -/
def jsonOption : OptionForm Choice :=
  { long := "--json", meaning := .flag .json, summary := "Output results as JSON" }

/-- The option for the encoding of script files. -/
def encodingOption : OptionForm Choice :=
  { long := "--encoding", meaning := .valued .encoding
    summary := "Script file encoding (default: utf-8)" }

/-- The option for the settings file. -/
def configOption : OptionForm Choice :=
  { long := "--config", short := some 'c', meaning := .valued .config
    summary := "Settings JSON file" }

/-- The options of the program itself. -/
def programOptions : List (OptionForm Choice) :=
  [ { long := "--version", meaning := .flag .version, summary := "Show the version and exit." },
    helpOption ]

/-- The options of a command. -/
def CommandName.options : CommandName → List (OptionForm Choice)
  | .split =>
      [ jsonOption,
        { long := "--full", meaning := .flag .full
          summary := "Print long statements in full" },
        encodingOption,
        { long := "--trigger-blocks", meaning := .flag (.triggerBlocks true)
          summary := "Keep CREATE TRIGGER ... BEGIN ... END bodies in one statement" },
        { long := "--no-trigger-blocks", meaning := .flag (.triggerBlocks false)
          summary := "Cut CREATE TRIGGER bodies like everything else" },
        configOption, helpOption ]
  | .check =>
      [ { long := "--dialect", short := some 'd', meaning := .valued .dialect
          summary := "Dialect of the statements (default: sqlite)" },
        jsonOption, encodingOption, configOption, helpOption ]
  | .literal =>
      [ { long := "--type", short := some 't', meaning := .valued .type
          summary := "Value type (blob values are given as hex; default: text)" },
        helpOption ]

/-! ## §3. What the options say together. -/

/-- The last of some choices that answers a question. -/
def latest {α : Type} (question : Choice → Option α) (choices : List Choice) : Option α :=
  choices.reverse.findSome? question

/-- The settings that some choices name. -/
def SettingsChoice.ofChoices (choices : List Choice) : SettingsChoice :=
  { config := latest (fun | .config path => some path | _ => none) choices
    encoding := latest (fun | .encoding name => some name | _ => none) choices
    triggerBlocks := latest (fun | .triggerBlocks keep => some keep | _ => none) choices
    dialect := latest (fun | .dialect name => some name | _ => none) choices }

/-- Whether the path of the settings file, if there is one, can be a path. -/
def SettingsChoice.isPossible (choice : SettingsChoice) : Bool :=
  choice.config.all fun path => !path.toList.contains '\x00'

/-- The listing that some choices ask for. -/
def listingForm (choices : List Choice) : ListingForm :=
  { json := choices.contains .json, full := choices.contains .full }

/-- The type of a value that some choices name. -/
def chosenType (choices : List Choice) : Except UsageError RawType :=
  match latest (fun | .type name => some name | _ => none) choices with
  | none => .ok .text
  | some name =>
      match RawType.ofName? name with
      | some type => .ok type
      | none => .error (.unknownChoice "--type" name (RawType.all.map RawType.name))

/-! ## §4. From words to requests. -/

/-- The only operand, which must be there. -/
def onlyOperand (name : String) : List String → Except UsageError String
  | [] => .error (.missingOperand name)
  | [word] => .ok word
  | _ :: extra => .error (.extraOperands extra)

/-- The only operand, which may be missing. -/
def operandOrNone : List String → Except UsageError (Option String)
  | [] => .ok none
  | [word] => .ok (some word)
  | _ :: extra => .error (.extraOperands extra)

/-- What a command is asked to do by its arguments. -/
def CommandName.request (name : CommandName) (arguments : Arguments Choice) :
    Except UsageError Request :=
  let choice := SettingsChoice.ofChoices arguments.options
  match name with
  | .split =>
      (onlyOperand "SOURCE" arguments.operands).map fun source =>
        .split source choice (listingForm arguments.options)
  | .check =>
      (onlyOperand "SOURCE" arguments.operands).map fun source =>
        .check source choice (arguments.options.contains .json)
  | .literal => do
      let type ← chosenType arguments.options
      let value ← operandOrNone arguments.operands
      return .literal value type

/-- The request of the words after a command's name. -/
def CommandName.ofWords (name : CommandName) (words : List String) :
    Except RequestError Request :=
  match readWords name.options true words with
  | .error error => .error (.usage (some name) error)
  | .ok arguments =>
      if arguments.options.contains .help then .ok (.help (some name))
      else if !(SettingsChoice.ofChoices arguments.options).isPossible then .error .nulInPath
      else (name.request arguments).mapError (.usage (some name))

/-- The request that an option of the program makes by itself. -/
def Choice.request? : Choice → Option Request
  | .version => some .version
  | .help => some (.help none)
  | _ => none

/-- The request of words whose first is no command; options there still count. -/
def unknownCommand (word : String) (rest : List String) : Except RequestError Request :=
  match readWords programOptions false (word :: rest) with
  | .error error => .error (.usage none error)
  | .ok arguments =>
      match arguments.options.findSome? Choice.request? with
      | some request => .ok request
      | none => .error (.usage none (.unknownCommand word))

/-- What the words of a command line ask for. -/
def Request.ofWords (words : List String) : Except RequestError Request :=
  match readWords programOptions false words with
  | .error error => .error (.usage none error)
  | .ok arguments =>
      match arguments.options.findSome? Choice.request?, arguments.operands with
      | some request, _ => .ok request
      | none, [] => .error (.usage none .missingCommand)
      | none, word :: rest =>
          match CommandName.ofText? word with
          | some name => name.ofWords rest
          | none => unknownCommand word rest

end SqlStatements.CommandLine
