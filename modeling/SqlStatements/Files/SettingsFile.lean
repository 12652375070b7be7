/-
  SqlStatements.Files.SettingsFile
  ────────────────────────────────
  **Settings from a JSON file.**

  A settings file is UTF-8 text whose line breaks of every kind count as line feeds.
  A file that is missing, that is no JSON or whose values are not accepted is a
  `SettingsError`; what the system or the decoding refuses before that comes through as
  it is.  Which values are accepted, and how deep they may be nested, is up to a
  `SettingsReader`.
-/
import SqlStatements.Files.Source
import SqlStatements.Json.Reader

namespace SqlStatements.Files

/-! ## §1. Failures. -/

/-- Why the settings of a file are not accepted. -/
inductive SettingsError where
  | missing (path : Path)
  | notJson (path : Path) (kind : Json.FaultKind) (line column position : Nat)
  | invalid (path : Path) (violations : List Settings.Violation)
  deriving Repr, DecidableEq

/-- The code of a failure. -/
def SettingsError.code : SettingsError → String
  | .missing _ => "settings_not_found"
  | .notJson .. | .invalid _ _ => "settings_invalid"

/-- The wording of a failure. -/
def SettingsError.message : SettingsError → String
  | .missing path => s!"Settings file not found: {path.text}"
  | .notJson path kind line column position =>
      let fault := Json.ReadError.fault kind line column position
      s!"Settings file is not valid JSON: {path.text}: {fault.message}"
  | .invalid path violations =>
      s!"Invalid settings in {path.text}: {Settings.violationReport violations}"

/-- Why a settings file gives no settings. -/
inductive SettingsLoadError where
  | settings (error : SettingsError)
  | fault (path : Path) (fault : Fault)
  | undecodable (error : Encoding.DecodeError)
  /-- Something in the file is too large to be read. -/
  | excess (found : Json.Excess)
  deriving Repr, DecidableEq

/-- The wording of an error. -/
def SettingsLoadError.message : SettingsLoadError → String
  | .settings error => error.message
  | .fault path reason => reason.message path
  | .undecodable error => error.message
  | .excess found => found.message

/-! ## §2. Reading. -/

/-- How the values in a settings file are read. -/
structure SettingsReader where
  /-- The room for containers inside each other. -/
  room : Nat
  /-- The settings that a value holds, or what is wrong with it. -/
  accept : Json.Value → Except (List Settings.Violation) Settings

/-- The reader that takes objects with the members of settings. -/
def SettingsReader.standard : SettingsReader := ⟨Json.usualRoom, Settings.ofJson⟩

/-- A text with every line break as a line feed. -/
def unifyLines : List Char → List Char
  | '\r' :: '\n' :: rest => '\n' :: unifyLines rest
  | '\r' :: rest => '\n' :: unifyLines rest
  | c :: rest => c :: unifyLines rest
  | [] => []

/-- The settings that a JSON text holds. -/
def settingsOfText (reader : SettingsReader) (path : Path) (text : List Char) :
    Except SettingsLoadError Settings :=
  match Json.read text reader.room with
  | .error (.excess found) => .error (.excess found)
  | .error (.fault kind line column position) =>
      .error (.settings (.notJson path kind line column position))
  | .ok value =>
      match reader.accept value with
      | .ok settings => .ok settings
      | .error violations => .error (.settings (.invalid path violations))

/-- The settings in a file. -/
def settingsOfFile (disk : Disk) (path : Path) (reader : SettingsReader := .standard) :
    Except SettingsLoadError Settings :=
  match disk.exists? path with
  | .error fault => .error (.fault path fault)
  | .ok false => .error (.settings (.missing path))
  | .ok true =>
      match disk.readFile path with
      | .error fault => .error (.fault path fault)
      | .ok content =>
          match Encoding.Codec.utf8.decode content with
          | .error error => .error (.undecodable error)
          | .ok chars => settingsOfText reader path (unifyLines chars)

end SqlStatements.Files
