/-
  SqlStatements.Literal.Scalar
  ────────────────────────────
  **Scalar values of a database, and the literal that stands for each.**

  A scalar value is a whole number of 64 bits, a floating point number, a text, a byte
  string or null.  `Scalar.sqlText` writes it the way SQL reads it back:

    • a whole number in decimal digits,
    • a floating point number with the fewest digits that read back; the infinite ones
      as a number too large to be finite, and what is no number as null,
    • a text between single quotes, each single quote in it doubled,
    • a byte string as `X'…'` with two upper-case digits per byte.
-/
import SqlStatements.Decimal.Numeral
import SqlStatements.Int64
import SqlStatements.Text.Quoted

namespace SqlStatements.Literal

open Decimal Text

/-! ## §1. Scalars. -/

/-- A whole number that fits in 64 bits. -/
structure Int64Value where
  value : Int
  fits : FitsInt64 value
  deriving Repr, DecidableEq

/-- A scalar value of a database. -/
inductive Scalar where
  | integer (n : Int64Value)
  | real (x : Binary64)
  | text (s : String)
  | blob (bytes : List UInt8)
  | null
  deriving Repr, DecidableEq

namespace Scalar

/-- The name of a scalar's class. -/
def kind : Scalar → String
  | .integer _ => "Integer"
  | .real _ => "Real"
  | .text _ => "Text"
  | .blob _ => "Blob"
  | .null => "Null"

/-- The display of a scalar: its class and its value. -/
def display : Scalar → String
  | .integer n => s!"Integer(value={n.value})"
  | .real x => s!"Real(value={x.text})"
  | .text s => s!"Text(value={Quoted.text s})"
  | .blob bytes => s!"Blob(value={Quoted.bytes bytes})"
  | .null => "Null()"

/-- Equality of scalars: the same class and equal values. -/
def equals : Scalar → Scalar → Bool
  | .integer m, .integer n => m.value == n.value
  | .real x, .real y => x.equals y
  | .text s, .text t => s == t
  | .blob a, .blob b => a == b
  | .null, .null => true
  | _, _ => false

end Scalar

/-! ## §2. Literals. -/

/-- The content of a text literal: each single quote doubled. -/
def escapeChars (s : List Char) : List Char :=
  s.flatMap fun c => if c = '\'' then ['\'', '\''] else [c]

/-- The content of a text literal. -/
def escapeString (s : String) : String :=
  String.ofList (escapeChars s.toList)

/-- The literal of a floating point number. -/
def realLiteral (x : Binary64) : String :=
  if x.isNaN then "NULL"
  else if x.isInfinite then (if x.negative then "-9e999" else "9e999")
  else x.text

/-- The literal of a text. -/
def textLiteral (s : String) : String :=
  "'" ++ escapeString s ++ "'"

/-- The literal of a byte string. -/
def blobLiteral (bytes : List UInt8) : String :=
  "X'" ++ String.ofList (Hex.upperBytes bytes) ++ "'"

/-- The literal of a scalar. -/
def Scalar.sqlText : Scalar → String
  | .integer n => toString n.value
  | .real x => realLiteral x
  | .text s => textLiteral s
  | .blob bytes => blobLiteral bytes
  | .null => "NULL"

end SqlStatements.Literal
