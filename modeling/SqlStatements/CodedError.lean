/-
  SqlStatements.CodedError
  ────────────────────────
  **Errors that carry a message and a code.**

  Callers tell failures apart by their code.  There are two kinds, failures of sources
  and failures of settings, and a base kind that takes in both.
-/
import SqlStatements.Files.SettingsFile

namespace SqlStatements

open Files

/-- The kinds of coded errors. -/
inductive ErrorKind where
  | base
  | source
  | settings
  deriving Repr, DecidableEq

/-- The name of a kind. -/
def ErrorKind.name : ErrorKind → String
  | .base => "SQLScriptError"
  | .source => "SourceUnreadableError"
  | .settings => "SettingsError"

/-- The kind of a name. -/
def ErrorKind.ofName? (name : String) : Option ErrorKind :=
  [ErrorKind.base, .source, .settings].find? (·.name == name)

/-- An error with a message and a code. -/
structure CodedError where
  kind : ErrorKind
  message : String
  code : String
  deriving Repr, DecidableEq

namespace CodedError

/-- The display of an error. -/
def display (e : CodedError) : String :=
  e.kind.name ++ "(message=" ++ Text.Quoted.text e.message ++ ", code="
    ++ Text.Quoted.text e.code ++ ")"

/-- A failure of a source. -/
def ofSource (e : SourceError) : CodedError := ⟨.source, e.message, e.code⟩

/-- A failure of settings. -/
def ofSettings (e : SettingsError) : CodedError := ⟨.settings, e.message, e.code⟩

end CodedError

end SqlStatements
