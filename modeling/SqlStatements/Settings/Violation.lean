/-
  SqlStatements.Settings.Violation
  ────────────────────────────────
  **What is wrong with a settings object, and the report on it.**

  A violation is a fault, the member that has it and the value that was found there.
  A report counts the violations in its first line and then describes each of them: the
  member on a line of its own, and below it the fault and the value, which is shortened
  when it is long.
-/
import SqlStatements.Json.Display

namespace SqlStatements.Settings

/-! ## §1. Faults. -/

/-- What is wrong with a value in a settings object. -/
inductive Fault where
  | notObject
  | notString
  | notBoolean
  | unclearBoolean
  | unknownMember
  deriving Repr, DecidableEq

/-- The short name of a fault. -/
def Fault.code : Fault → String
  | .notObject => "model_type"
  | .notString => "string_type"
  | .notBoolean => "bool_type"
  | .unclearBoolean => "bool_parsing"
  | .unknownMember => "extra_forbidden"

/-- The name of the settings object in messages. -/
def modelName : String := "ScriptSettings"

/-- The wording of a fault. -/
def Fault.message : Fault → String
  | .notObject => s!"Input should be a valid dictionary or instance of {modelName}"
  | .notString => "Input should be a valid string"
  | .notBoolean => "Input should be a valid boolean"
  | .unclearBoolean => "Input should be a valid boolean, unable to interpret input"
  | .unknownMember => "Extra inputs are not permitted"

/-! ## §2. Violations. -/

/-- A value as a report shows it: its display and the name of its type. -/
structure Shown where
  display : String
  type : String
  deriving Repr, DecidableEq

/-- A JSON value as a report shows it. -/
def Shown.ofValue (value : Json.Value) : Shown := ⟨value.display, value.typeName⟩

/-- A fault, the member that it was found in and the value of that member; there is no
member when the value as a whole is at fault. -/
structure Violation where
  member : Option String
  fault : Fault
  value : Shown
  deriving Repr, DecidableEq

/-! ## §3. Reports. -/

/-- The longest display of a value, in bytes. -/
def displayRoom : Nat := 50

/-- The characters at the start of a text that fit into a number of bytes. -/
def takeBytes (room : Nat) : List Char → List Char
  | [] => []
  | c :: rest => if c.utf8Size ≤ room then c :: takeBytes (room - c.utf8Size) rest else []

/-- A display cut down to its two ends when it is long. -/
def shorten (text : String) : String :=
  if text.utf8ByteSize ≤ displayRoom then text
  else
    let half := displayRoom / 2
    let start := takeBytes half text.toList
    let stop := (takeBytes (half - 1) text.toList.reverse).reverse
    String.ofList (start ++ "...".toList ++ stop)

/-- The name of a member in a report; one with a point in it stands between marks. -/
def memberLabel (name : String) : String :=
  if name.toList.contains '.' then "\x60" ++ name ++ "\x60" else name

/-- The lines of a report that describe a violation. -/
def Violation.lines (v : Violation) : List String :=
  let value := shorten v.value.display
  v.member.toList.map memberLabel
    ++ [ s!"  {v.fault.message} [type={v.fault.code}, input_value={value}, "
          ++ s!"input_type={v.value.type}]" ]

/-- The first line of a report. -/
def violationSummary (violations : List Violation) : String :=
  let noun := if violations.length = 1 then "error" else "errors"
  s!"{violations.length} validation {noun} for {modelName}"

/-- A report on violations. -/
def violationReport (violations : List Violation) : String :=
  String.intercalate "\n" (violationSummary violations :: violations.flatMap Violation.lines)

end SqlStatements.Settings
