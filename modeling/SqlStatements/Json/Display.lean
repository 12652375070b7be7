/-
  SqlStatements.Json.Display
  ──────────────────────────
  **JSON values as they are shown to people.**

  A display is one line.  It is not JSON again: texts are quoted as in all messages,
  and the words for the truth values and for null are those of a program's values.
-/
import SqlStatements.Decimal.Numeral
import SqlStatements.Json.Value
import SqlStatements.Text.Quoted

namespace SqlStatements.Json.Value

open Text

/-- The name of a value's type. -/
def typeName : Value → String
  | null => "NoneType"
  | bool _ => "bool"
  | int _ => "int"
  | real _ => "float"
  | string _ => "str"
  | array _ => "list"
  | object _ => "dict"

mutual

/-- The display of a value. -/
def display : Value → String
  | null => "None"
  | bool b => if b then "True" else "False"
  | int n => toString n
  | real x => x.text
  | string s => Quoted.text s
  | array items => "[" ++ String.intercalate ", " (displays items) ++ "]"
  | object members => "\x7b" ++ String.intercalate ", " (memberDisplays members) ++ "\x7d"

/-- The displays of the items of an array. -/
def displays : List Value → List String
  | [] => []
  | item :: items => display item :: displays items

/-- The displays of the members of an object. -/
def memberDisplays : List (String × Value) → List String
  | [] => []
  | (name, value) :: members =>
      (Quoted.text name ++ ": " ++ display value) :: memberDisplays members

end

end SqlStatements.Json.Value
