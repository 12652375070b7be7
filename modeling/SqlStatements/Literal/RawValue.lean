/-
  SqlStatements.Literal.RawValue
  ──────────────────────────────
  **Reading a value that was typed as text.**

  A raw value comes with the name of a type.  Whole numbers and floating point numbers
  may be written with the decimal digits of any script, with single underscores
  between digits and with space around them.  Byte strings are pairs of hexadecimal
  digits with ASCII space between the pairs.  Texts are taken as they are, and null
  needs no value at all.
-/
import SqlStatements.Decimal.Whole
import SqlStatements.Literal.Refusal
import SqlStatements.Literal.Scalar

namespace SqlStatements.Literal

open Decimal Text

/-! ## §1. Types. -/

/-- The types that a raw value may be read as. -/
inductive RawType where
  | integer
  | real
  | text
  | blob
  | null
  deriving Repr, DecidableEq

namespace RawType

/-- All types, in the order in which they are listed. -/
def all : List RawType := [.integer, .real, .text, .blob, .null]

/-- The name of a type. -/
def name : RawType → String
  | .integer => "integer"
  | .real => "real"
  | .text => "text"
  | .blob => "blob"
  | .null => "null"

/-- The type of a name. -/
def ofName? (name : String) : Option RawType :=
  all.find? (·.name == name)

end RawType

/-! ## §2. What can be wrong. -/

/-- Why a text does not denote a value of its type. -/
inductive RawFault where
  | whole (fault : WholeFault)
  | outOfRange (n : Int)
  | notReal
  /-- No hexadecimal digit stands at this position. -/
  | notHex (position : Nat)
  deriving Repr, DecidableEq

/-- The wording of a fault in the text `raw`. -/
def RawFault.message (raw : String) : RawFault → String
  | .whole fault => fault.message raw.toList
  | .outOfRange n => Refusal.message (.outOfRange n)
  | .notReal => "could not convert string to float: " ++ Quoted.text raw
  | .notHex position => s!"non-hexadecimal number found in fromhex() arg at position {position}"

/-- Why a raw value is refused. -/
inductive RawError where
  | missing (type : String)
  | unknownType (type : String)
  | invalid (type : RawType) (raw : String) (fault : RawFault)
  deriving Repr, DecidableEq

/-- The wording of an error. -/
def RawError.message : RawError → String
  | .missing type => s!"A value is required for type '{type}'"
  | .unknownType type =>
      let names := String.intercalate ", " (RawType.all.map RawType.name)
      s!"Unknown value type '{type}'. Expected one of: {names}"
  | .invalid type raw fault => s!"Invalid {type.name} value '{raw}': {fault.message raw}"

/-! ## §3. Numbers. -/

/-- The whole number that a text denotes. -/
def readInteger (raw : List Char) : Except RawFault Int :=
  (readWhole raw).mapError .whole

/-- The floating point number that a text denotes. -/
def readReal (raw : List Char) : Except RawFault Binary64 :=
  match number? (plainNumeral raw) with
  | some x => .ok x
  | none => .error .notReal

/-! ## §4. Byte strings. -/

/-- The bytes of pairs of digits; `position` is that of the first character. -/
def readPairs (position : Nat) : List Char → Except RawFault (List UInt8)
  | [] => .ok []
  | a :: rest =>
      if isAsciiSpace a then readPairs (position + 1) rest
      else
        match Hex.value? a, rest with
        | none, _ => .error (.notHex position)
        | some _, [] => .error (.notHex (position + 1))
        | some high, b :: more =>
            match Hex.value? b with
            | none => .error (.notHex (position + 1))
            | some low =>
                (readPairs (position + 2) more).map (UInt8.ofNat (16 * high + low) :: ·)

/-- The byte string that a text denotes.  A character beyond ASCII is reported before
anything else. -/
def readBlob (raw : List Char) : Except RawFault (List UInt8) :=
  match raw.findIdx? (128 ≤ ·.toNat) with
  | some position => .error (.notHex position)
  | none => readPairs 0 raw

/-! ## §5. Values. -/

/-- The scalar of a text that is read as `type`. -/
def readAs (type : RawType) (raw : String) : Except RawFault Scalar :=
  match type with
  | .integer => do
      let n ← readInteger raw.toList
      if h : FitsInt64 n then return .integer ⟨n, h⟩
      else throw (.outOfRange n)
  | .real => (readReal raw.toList).map .real
  | .text => .ok (.text raw)
  | .blob => (readBlob raw.toList).map .blob
  | .null => .ok .null

/-- The scalar of a raw value, which only null may do without. -/
def readRaw (raw : Option String) (typeName : String) : Except RawError Scalar :=
  match RawType.ofName? typeName, raw with
  | some .null, _ => .ok .null
  | _, none => .error (.missing typeName)
  | none, some _ => .error (.unknownType typeName)
  | some type, some value => (readAs type value).mapError (.invalid type value)

/-- The literal of a raw value. -/
def encodeRaw (raw : Option String) (typeName : String) : Except RawError String :=
  (readRaw raw typeName).map Scalar.sqlText

end SqlStatements.Literal
