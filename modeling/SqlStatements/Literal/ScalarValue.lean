/-
  SqlStatements.Literal.ScalarValue
  ─────────────────────────────────
  **The scalars that values become, and their literals.**

  `HostValue.toScalar` turns the values that a database can hold into scalars and says
  why it refuses the others:

    • truth values become 1 and 0, and whole numbers must fit in 64 bits,
    • byte strings of every kind become byte strings,
    • dates, moments and unique identifiers become their standard texts,
    • a member of an enumeration becomes what its value becomes,
    • a scalar stays what it is.

  A scalar may also be made of a class that is named.  It then holds whatever it is
  given, and only its literal asks whether that is a value of the class:

    • a floating point number may be any number,
    • a text must be a text,
    • a byte string may be a number of zero bytes, or a container of bytes.
-/
import SqlStatements.Literal.HostValue
import SqlStatements.Literal.Refusal

namespace SqlStatements.Literal

open Decimal Text

/-! ## §1. Scalars with what they hold. -/

/-- A scalar: one that holds a value of the type of its class, or another value. -/
inductive ScalarValue where
  | plain (s : Scalar)
  | holding (h : Holder) (value : HostValue)
  deriving Repr

namespace ScalarValue

/-- A scalar as a value of the calling program. -/
def host : ScalarValue → HostValue
  | .plain s => .scalar s
  | .holding h value => .holder h value

/-- The name of a scalar's class. -/
def kind : ScalarValue → String
  | .plain s => s.kind
  | .holding h _ => h.kind

/-- The display of a scalar: its class and the value that it was given. -/
def display (s : ScalarValue) : String := s.host.display

end ScalarValue

/-! ## §2. From values to scalars. -/

/-- The scalar of a whole number. -/
def Scalar.ofInt (n : Int) : Except Refusal Scalar :=
  if h : FitsInt64 n then .ok (.integer ⟨n, h⟩) else .error (.outOfRange n)

/-- The scalar that a value becomes. -/
def HostValue.toScalar : HostValue → Except Refusal ScalarValue
  | .scalar s => .ok (.plain s)
  | .holder h value => .ok (.holding h value)
  | .nothing => .ok (.plain .null)
  | .bool b => .ok (.plain (.integer ⟨intOfBool b, by cases b <;> decide⟩))
  | .member _ _ _ value => value.toScalar
  | .int n => (Scalar.ofInt n).map .plain
  | .float x => .ok (.plain (.real x))
  | .str s => .ok (.plain (.text s))
  | .bytes _ data => .ok (.plain (.blob data))
  | .date d => .ok (.plain (.text d.text))
  | .moment m => .ok (.plain (.text m.text))
  | .uuid u => .ok (.plain (.text u.text))
  | value => .error (.unsupported value.typeName)

/-! ## §3. Scalars of a given class. -/

/-- The whole-number scalar of a value. -/
def ScalarValue.ofInteger (v : HostValue) : Except Refusal ScalarValue :=
  match v.int? with
  | some n => (Scalar.ofInt n).map .plain
  | none => .error (.notInteger v.typeName)

/-- The floating point scalar that is given a value. -/
def ScalarValue.ofReal : HostValue → ScalarValue
  | .float x => .plain (.real x)
  | value => .holding .real value

/-- The text scalar that is given a value. -/
def ScalarValue.ofText : HostValue → ScalarValue
  | .str s => .plain (.text s)
  | value => .holding .text value

/-- The byte-string scalar that is given a value. -/
def ScalarValue.ofBlob : HostValue → ScalarValue
  | .bytes .fixed data => .plain (.blob data)
  | value => .holding .blob value

/-! ## §4. What a held value is worth. -/

namespace HostValue

/-- The floating point number of a value. -/
def toReal (value : HostValue) : Except Refusal Binary64 :=
  match value, value.count? with
  | .float x, _ => .ok x
  | .decimal d, _ =>
      match d.toBinary64? with
      | some x => .ok x
      | none => .error .signalling
  | _, some n =>
      let x := Binary64.ofInt n
      if x.isInfinite then .error .tooLarge else .ok x
  | _, none => .error (.notReal value.fullTypeName)

/-- The text of a value.  A date or a time of day fails because its replacement takes
numbers, and a byte string because its replacement takes bytes. -/
def toText (value : HostValue) : Except Refusal String :=
  match value, value.str? with
  | _, some s => .ok s
  | .bytes .fixed _, _ | .bytes .changeable _, _ => .error .bytesForText
  | .date _, _ | .time _, _ | .moment _, _ => .error (.notWhole "str")
  | _, none => .error (.notText value.fullTypeName)

/-- The length of the longest byte string that has room. -/
def roomForBytes : Int := 0x40000000

/-- The length of the longest byte string that may be asked for: the greatest number
of 64 bits less the 33 bytes that go with a byte string. -/
def longestBytes : Int := int64Max - 33

/-- A number of zero bytes; `type` is the type of the number. -/
def zeroBytes (type : String) (count : Int) : Except Refusal (List UInt8) :=
  if ¬ FitsInt64 count then .error (.countTooLarge type)
  else if count < 0 then .error .negativeCount
  else if longestBytes < count then .error .tooManyBytes
  else if roomForBytes < count then .error .outOfMemory
  else .ok (List.replicate count.toNat 0)

/-- The byte of a value in a container. -/
def toByte (value : HostValue) : Except Refusal UInt8 :=
  match value.count? with
  | some n => if 0 ≤ n ∧ n < 256 then .ok (UInt8.ofNat n.toNat) else .error .byteOutOfRange
  | none => .error (.notWhole value.fullTypeName)

/-- The bytes of a value.  Of a dictionary the names count, and no name is a byte. -/
def toBytes (value : HostValue) : Except Refusal (List UInt8) :=
  match value, value.str?, value.count? with
  | .bytes _ data, _, _ => .ok data
  | .list items, _, _ | .tuple items, _, _ => items.mapM toByte
  | .dict [], _, _ => .ok []
  | .dict _, _, _ => .error (.notWhole "str")
  | _, some _, _ => .error .textForBytes
  | _, none, some n => zeroBytes value.typeName n
  | _, none, none => .error (.notBytes value.fullTypeName)

end HostValue

/-! ## §5. Literals. -/

/-- The literal of a scalar, or why it has none. -/
def ScalarValue.literal : ScalarValue → Except Refusal String
  | .plain s => .ok s.sqlText
  | .holding .real value => value.toReal.map realLiteral
  | .holding .text value => value.toText.map textLiteral
  | .holding .blob value => value.toBytes.map blobLiteral

/-- The literal of a value. -/
def HostValue.literal (v : HostValue) : Except Refusal String :=
  v.toScalar.bind ScalarValue.literal

/-- The literal of a value that has to be a scalar already. -/
def HostValue.scalarLiteral : HostValue → Except Refusal String
  | .scalar s => .ok s.sqlText
  | .holder h value => (ScalarValue.holding h value).literal
  | value => .error (.notScalar value.display)

end SqlStatements.Literal
