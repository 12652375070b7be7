/-
  SqlStatements.Json.Value
  ────────────────────────
  **JSON values.**

  Whole numbers and numbers with a fraction or an exponent are told apart, since a
  setting may accept the one and refuse the other.  The members of an object keep
  the order in which their names were first written; a name that is written again
  takes the new value at the old place.
-/
import SqlStatements.Decimal.Binary64

namespace SqlStatements.Json

open Decimal

/-! ## §1. Values. -/

/-- A JSON value. -/
inductive Value where
  | null
  | bool (b : Bool)
  | int (n : Int)
  | real (x : Binary64)
  | string (s : String)
  | array (items : List Value)
  | object (members : List (String × Value))
  deriving Repr, Inhabited

namespace Value

/-- The members of an object with the value of `name` set. -/
def setMember (members : List (String × Value)) (name : String) (value : Value) :
    List (String × Value) :=
  if members.any (·.1 == name) then
    members.map fun m => if m.1 == name then (name, value) else m
  else members ++ [(name, value)]

/-! ## §2. Looking into a value. -/

/-- The member of an object that has the given name. -/
def member? (value : Value) (name : String) : Option Value :=
  match value with
  | object members => (members.find? (·.1 == name)).map (·.2)
  | _ => none

/-- The text of a string. -/
def string? : Value → Option String
  | string s => some s
  | _ => none

/-- The value of a whole number. -/
def int? : Value → Option Int
  | int n => some n
  | _ => none

/-- The value of a truth value. -/
def bool? : Value → Option Bool
  | bool b => some b
  | _ => none

/-- The items of an array. -/
def items? : Value → Option (List Value)
  | array items => some items
  | _ => none

/-- The members of an object. -/
def members? : Value → Option (List (String × Value))
  | object members => some members
  | _ => none

end Value

end SqlStatements.Json
