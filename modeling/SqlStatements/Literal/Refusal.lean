/-
  SqlStatements.Literal.Refusal
  ─────────────────────────────
  **Why a value has no scalar, or a scalar no literal.**

  Each cause is a constructor with what its wording names, and `Refusal.message` is
  the one place where the wordings stand.
-/

namespace SqlStatements.Literal

/-- Why a value has no scalar, or a scalar no literal. -/
inductive Refusal where
  /-- A whole number was asked for, and the value is of another type. -/
  | notInteger (type : String)
  | outOfRange (n : Int)
  /-- No scalar stands for values of this type. -/
  | unsupported (type : String)
  | notScalar (display : String)
  /-- A floating point number was asked for, and the value is of another type. -/
  | notReal (type : String)
  /-- A whole number is larger than every finite floating point number. -/
  | tooLarge
  /-- A decimal number that may not be used was asked for its value. -/
  | signalling
  /-- A text was asked for, and the value is of another type. -/
  | notText (type : String)
  /-- A text was asked for, and the value is a byte string. -/
  | bytesForText
  /-- A byte string was asked for, and the value is of another type. -/
  | notBytes (type : String)
  /-- A byte string was asked for, and the value is a text. -/
  | textForBytes
  /-- A byte, or a number of fields of a date, was asked for and is no whole number. -/
  | notWhole (type : String)
  | byteOutOfRange
  | negativeCount
  /-- A number of bytes does not fit in 64 bits. -/
  | countTooLarge (type : String)
  /-- No byte string may have so many bytes. -/
  | tooManyBytes
  | outOfMemory
  deriving Repr, DecidableEq

/-- The wording of a refusal. -/
def Refusal.message : Refusal → String
  | .notInteger type => s!"Integer value must be an int, not {type}"
  | .outOfRange n => s!"Integer out of 64-bit range: {n}"
  | .unsupported type => s!"Cannot represent {type} as an SQLite value"
  | .notScalar display => s!"Not a scalar value: {display}"
  | .notReal type => s!"must be real number, not {type}"
  | .tooLarge => "int too large to convert to float"
  | .signalling => "cannot convert signaling NaN to float"
  | .notText type => s!"'{type}' object has no attribute 'replace'"
  | .bytesForText => "a bytes-like object is required, not 'str'"
  | .notBytes type => s!"cannot convert '{type}' object to bytes"
  | .textForBytes => "string argument without an encoding"
  | .notWhole type => s!"'{type}' object cannot be interpreted as an integer"
  | .byteOutOfRange => "bytes must be in range(0, 256)"
  | .negativeCount => "negative count"
  | .countTooLarge type => s!"cannot fit '{type}' into an index-sized integer"
  | .tooManyBytes => "byte string is too large"
  | .outOfMemory => ""

end SqlStatements.Literal
