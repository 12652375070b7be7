/-
  SqlStatements.Literal.HostValue
  ───────────────────────────────
  **Values of the calling program.**

  A caller hands over values of its own types: truth values, numbers, texts, byte
  strings, dates, unique identifiers, members of enumerations, containers, and scalars
  themselves.  Each has the name of its type and a display, and a value may be seen as
  a whole number, a quantity, a text or a byte string when it is one.
-/
import SqlStatements.Decimal.Exact
import SqlStatements.Literal.Calendar
import SqlStatements.Literal.Scalar
import SqlStatements.Text.Blank

namespace SqlStatements.Literal

open Decimal Text

/-! ## §1. Unique identifiers. -/

/-- A universally unique identifier, as its 128-bit number. -/
structure Uuid where
  number : Nat
  deriving Repr, DecidableEq

/-- A text without every occurrence of a word, read from left to right. -/
def removeWord (word : List Char) : Nat → List Char → List Char
  | _, [] => []
  | 0, c :: rest =>
      if word.isPrefixOf (c :: rest) then removeWord word (word.length - 1) rest
      else c :: removeWord word 0 rest
  | skip + 1, _ :: rest => removeWord word skip rest

/-- The identifier that a text denotes: 32 hexadecimal digits, with dashes anywhere
and with braces or a `urn:uuid:` in front allowed. -/
def Uuid.ofText? (text : String) : Option Uuid :=
  let plain := removeWord "uuid:".toList 0 (removeWord "urn:".toList 0 text.toList)
  let isBrace := fun c => c == '\x7b' || c == '\x7d'
  let digits := (dropTrailing isBrace (plain.dropWhile isBrace)).filter (· != '-')
  if digits.length = 32 then (Hex.number? digits).map (⟨·⟩) else none

/-- The standard text of an identifier: lower-case digits in five groups. -/
def Uuid.text (u : Uuid) : String :=
  let digits := Hex.lower 32 u.number
  let group := fun (start size : Nat) => String.ofList ((digits.drop start).take size)
  String.intercalate "-" [group 0 8, group 8 4, group 12 4, group 16 4, group 20 12]

/-! ## §2. Values. -/

/-- A truth value as a whole number. -/
def intOfBool (b : Bool) : Int := if b then 1 else 0

/-- The display of a truth value. -/
def boolDisplay (b : Bool) : String := if b then "True" else "False"

/-- The kinds of byte strings. -/
inductive BytesKind where
  | fixed
  | changeable
  | view
  deriving Repr, DecidableEq

/-- The kinds of enumerations: plain ones, and those whose members are whole numbers
or texts themselves. -/
inductive EnumKind where
  | plain
  | whole
  | text
  deriving Repr, DecidableEq

/-- The classes of scalars that keep the value they are given and convert it only when
it is written. -/
inductive Holder where
  | real
  | text
  | blob
  deriving Repr, DecidableEq

/-- The name of a class. -/
def Holder.kind : Holder → String
  | .real => "Real"
  | .text => "Text"
  | .blob => "Blob"

/-- A value of the calling program. -/
inductive HostValue where
  | nothing
  | bool (b : Bool)
  | int (n : Int)
  | float (x : Binary64)
  | decimal (d : Exact)
  | str (s : String)
  | bytes (kind : BytesKind) (data : List UInt8)
  | date (d : Date)
  | time (t : Time)
  | moment (m : Moment)
  | uuid (u : Uuid)
  /-- A member of the enumeration `type`. -/
  | member (kind : EnumKind) (type name : String) (value : HostValue)
  | list (items : List HostValue)
  | tuple (items : List HostValue)
  | dict (members : List (String × HostValue))
  /-- A value of a type that is known by its name and its display only. -/
  | foreign (type display : String)
  | scalar (s : Scalar)
  /-- A scalar that holds a value which is not of the type of its class. -/
  | holder (h : Holder) (value : HostValue)
  deriving Repr, Inhabited

namespace HostValue

/-! ## §3. Types. -/

/-- The name of a value's type. -/
def typeName : HostValue → String
  | .nothing => "NoneType"
  | .bool _ => "bool"
  | .int _ => "int"
  | .float _ => "float"
  | .decimal _ => "Decimal"
  | .str _ => "str"
  | .bytes .fixed _ => "bytes"
  | .bytes .changeable _ => "bytearray"
  | .bytes .view _ => "memoryview"
  | .date _ => "date"
  | .time _ => "time"
  | .moment _ => "datetime"
  | .uuid _ => "UUID"
  | .member _ type _ _ => type
  | .list _ => "list"
  | .tuple _ => "tuple"
  | .dict _ => "dict"
  | .foreign type _ => type
  | .scalar s => s.kind
  | .holder h _ => h.kind

/-- The name of a value's type with the library that it belongs to, if it has one. -/
def fullTypeName : HostValue → String
  | .decimal _ => "decimal.Decimal"
  | .date _ => "datetime.date"
  | .time _ => "datetime.time"
  | .moment _ => "datetime.datetime"
  | value => value.typeName

/-! ## §4. Displays. -/

mutual

/-- The display of a value. -/
def display : HostValue → String
  | .nothing => "None"
  | .bool b => boolDisplay b
  | .int n => toString n
  | .float x => x.text
  | .decimal d => s!"Decimal('{d.text}')"
  | .str s => Quoted.text s
  | .bytes .fixed data => Quoted.bytes data
  | .bytes .changeable data => Quoted.byteArray data
  | .bytes .view _ => "<memory>"
  | .date d => d.display
  | .time t => t.display
  | .moment m => m.display
  | .uuid u => s!"UUID('{u.text}')"
  | .member _ type name value => s!"<{type}.{name}: {display value}>"
  | .list items => "[" ++ String.intercalate ", " (displays items) ++ "]"
  | .tuple [item] => "(" ++ display item ++ ",)"
  | .tuple items => "(" ++ String.intercalate ", " (displays items) ++ ")"
  | .dict members => "\x7b" ++ String.intercalate ", " (memberDisplays members) ++ "\x7d"
  | .foreign _ shown => shown
  | .scalar s => s.display
  | .holder h value => s!"{h.kind}(value={display value})"

/-- The displays of the items of a container. -/
def displays : List HostValue → List String
  | [] => []
  | item :: items => display item :: displays items

/-- The displays of the members of a dictionary. -/
def memberDisplays : List (String × HostValue) → List String
  | [] => []
  | (name, value) :: members =>
      (Quoted.text name ++ ": " ++ display value) :: memberDisplays members

end

/-! ## §5. Views. -/

/-- A value that is a whole number: a plain one or a member of an enumeration of whole
numbers, but no truth value. -/
def int? : HostValue → Option Int
  | .int n => some n
  | .member .whole _ _ value => value.int?
  | _ => none

/-- A value that counts as a whole number, of which truth values are 1 and 0. -/
def count? : HostValue → Option Int
  | .bool b => some (intOfBool b)
  | value => value.int?

/-- The quantity of a value that is a number. -/
def quantity? : HostValue → Option Quantity
  | .float x => some x.quantity
  | .decimal d => some d.quantity
  | value => value.count?.map .ofInt

/-- A value that is a text: a plain one or a member of an enumeration of texts. -/
def str? : HostValue → Option String
  | .str s => some s
  | .member .text _ _ value => value.str?
  | _ => none

/-- The bytes of a byte string of any kind. -/
def bytes? : HostValue → Option (List UInt8)
  | .bytes _ data => some data
  | _ => none

end HostValue

end SqlStatements.Literal
