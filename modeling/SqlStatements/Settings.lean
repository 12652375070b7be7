/-
  SqlStatements.Settings
  ──────────────────────
  **How scripts are decoded, cut and checked, and the reading of it from JSON.**

  Settings come from an object with at most the members `encoding`, `triggerBlocks`
  (which may also be called `trigger_blocks`) and `dialect`.  A member that is left
  out has its default.  `Settings.ofJson` reports every violation, in the order of the
  fields and then of the unknown members.
-/
import SqlStatements.Decimal.Nearest
import SqlStatements.Int64
import SqlStatements.Settings.Violation

namespace SqlStatements

open Decimal

/-! ## §1. Settings. -/

/-- How scripts are decoded, cut and checked. -/
structure Settings where
  /-- The text encoding of script files. -/
  encoding : String := "utf-8"
  /-- Whether the body of a trigger definition stays in one statement. -/
  triggerBlocks : Bool := true
  /-- The dialect that statements are checked in. -/
  dialect : String := "sqlite"
  deriving Repr, DecidableEq, Inhabited

namespace Settings

/-! ## §2. Single values. -/

/-- The words for truth values, in lower case. -/
def trueWords : List String := ["1", "t", "y", "on", "yes", "true"]

/-- The words for falsehood, in lower case. -/
def falseWords : List String := ["0", "f", "n", "off", "no", "false"]

/-- A text setting. -/
def readString : Json.Value → Except Fault String
  | .string s => .ok s
  | _ => .error .notString

/-- A truth value that a whole number stands for. -/
def booleanOfInt (n : Int) : Except Fault Bool :=
  if n = 0 then .ok false
  else if n = 1 then .ok true
  else if FitsInt64 n then .error .unclearBoolean
  else .error .notBoolean

/-- A switch: a truth value, one of the words for it, or the numbers 0 and 1. -/
def readBoolean : Json.Value → Except Fault Bool
  | .bool b => .ok b
  | .int n => booleanOfInt n
  | .real x =>
      if x.equalsInt 0 then .ok false
      else if x.equalsInt 1 then .ok true
      else if x.code < Binary64.infinityCode && x.isWhole then .error .unclearBoolean
      else .error .notBoolean
  | .string s =>
      let word := String.ofList (s.toList.map Char.toLower)
      if trueWords.contains word then .ok true
      else if falseWords.contains word then .ok false
      else .error .unclearBoolean
  | _ => .error .notBoolean

/-! ## §3. Objects. -/

/-- A field of the settings, or its violation. -/
def readField {α : Type} (members : List (String × Json.Value)) (name : String)
    (read : Json.Value → Except Fault α) (default : α) : Except Violation α :=
  match members.find? (·.1 == name) with
  | none => .ok default
  | some (_, value) => (read value).mapError (⟨some name, ·, .ofValue value⟩)

/-- The name under which trigger blocks are set: the first of the two if it is there. -/
def triggerBlocksName (members : List (String × Json.Value)) : String :=
  if members.any (·.1 == "triggerBlocks") then "triggerBlocks" else "trigger_blocks"

/-- The violation of a field, if there is one. -/
def violation? {α : Type} : Except Violation α → List Violation
  | .ok _ => []
  | .error v => [v]

/-- The settings that a JSON value holds, or all its violations. -/
def ofJson : Json.Value → Except (List Violation) Settings
  | .object members =>
      let triggerName := triggerBlocksName members
      let defaults : Settings := {}
      let encoding := readField members "encoding" readString defaults.encoding
      let triggerBlocks := readField members triggerName readBoolean defaults.triggerBlocks
      let dialect := readField members "dialect" readString defaults.dialect
      let known := ["encoding", triggerName, "dialect"]
      let unknown := (members.filter fun m => !known.contains m.1).map fun m =>
        Violation.mk (some m.1) .unknownMember (.ofValue m.2)
      match encoding, triggerBlocks, dialect, unknown with
      | .ok e, .ok t, .ok d, [] => .ok ⟨e, t, d⟩
      | _, _, _, _ =>
          .error (violation? encoding ++ violation? triggerBlocks ++ violation? dialect ++ unknown)
  | value => .error [⟨none, .notObject, .ofValue value⟩]

end Settings

end SqlStatements
