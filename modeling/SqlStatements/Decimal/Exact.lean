/-
  SqlStatements.Decimal.Exact
  ───────────────────────────
  **Decimal numbers that keep the digits they were written with.**

  Such a number is a coefficient and an exponent of ten, so `1.0` and `1.00` are two
  numbers of equal value.  There are also the two infinite numbers and values that are
  no number, of which the signalling ones may not be used at all.

  A number is written positionally while its exponent is not positive and its first
  digit is not too far behind the point, and with an exponent otherwise.
-/
import SqlStatements.Decimal.Whole

namespace SqlStatements.Decimal

open Text

/-! ## §1. Numbers. -/

/-- A decimal number. -/
inductive Exact where
  | finite (negative : Bool) (coefficient : Nat) (exponent : Int)
  | infinite (negative : Bool)
  /-- No number, with further digits that say why. -/
  | nan (negative signalling : Bool) (digits : List Char)
  deriving Repr, DecidableEq

namespace Exact

/-! ## §2. Writing. -/

/-- The place of the point from which on a number is written with an exponent; it is
counted from the first digit, to the left when it is negative. -/
def farPoint : Int := -6

/-- A finite number without its sign. -/
def finiteText (coefficient : Nat) (exponent : Int) : List Char :=
  let digits := digitsOf coefficient
  let point : Int := digits.length + exponent
  let positional := exponent ≤ 0 && farPoint < point
  let place : Int := if positional then point else 1
  let shown :=
    if place ≤ 0 then ['0', '.'] ++ List.replicate (-place).toNat '0' ++ digits
    else if (digits.length : Int) ≤ place then digits
    else digits.take place.toNat ++ '.' :: digits.drop place.toNat
  if positional then shown else shown ++ 'E' :: exponentText 1 (point - 1)

/-- A number as text. -/
def text : Exact → String
  | .finite negative coefficient exponent =>
      (if negative then "-" else "") ++ String.ofList (finiteText coefficient exponent)
  | .infinite negative => (if negative then "-" else "") ++ "Infinity"
  | .nan negative signalling digits =>
      (if negative then "-" else "") ++ (if signalling then "sNaN" else "NaN")
        ++ String.ofList digits

/-! ## §3. Reading. -/

/-- Digits without the zeros in front. -/
def dropZeros (digits : List Char) : List Char := digits.dropWhile (· == '0')

/-- The number of a body without a sign and in lower case. -/
def ofBody? (negative : Bool) (body : List Char) : Option Exact :=
  let word := String.ofList body
  let nan := fun (signalling : Bool) (digits : List Char) =>
    if digits.all Char.isDigit then some (Exact.nan negative signalling (dropZeros digits)) else none
  if word = "inf" || word = "infinity" then some (.infinite negative)
  else if "nan".toList.isPrefixOf body then nan false (body.drop 3)
  else if "snan".toList.isPrefixOf body then nan true (body.drop 4)
  else (unsigned? body).map fun d => .finite negative d.digits d.exponent

/-- The number that a text denotes. -/
def ofText? (raw : String) : Option Exact :=
  let plain := (plainNumeral (strip raw.toList)).filter (· != '_')
  let (negative, body) := splitSign plain
  ofBody? negative (body.map Char.toLower)

/-! ## §4. Values. -/

/-- The floating point number nearest to a number; a signalling value has none. -/
def toBinary64? : Exact → Option Binary64
  | .finite negative coefficient exponent => some (.ofDecimal negative coefficient exponent)
  | .infinite negative => some (.ofCode negative Binary64.infinityCode)
  | .nan negative false _ => some (.ofCode negative Binary64.nanCode)
  | .nan _ true _ => none

end Exact

/-! ## §5. Quantities. -/

/-- The exact value of a number.  A finite one is a signed whole number of powers of
ten, and its digits do not end in zero, so equal values are equal quantities. -/
inductive Quantity where
  | undefined
  /-- A value that may not be compared. -/
  | signalling
  | infinite (negative : Bool)
  | finite (digits exponent : Int)
  deriving Repr, DecidableEq

namespace Quantity

/-- The quantity of a decimal number with a sign. -/
def ofScientific (negative : Bool) (d : Scientific) : Quantity :=
  if d.digits = 0 then .finite 0 0
  else
    let n := d.normal
    .finite (if negative then -n.digits else n.digits) n.exponent

/-- The quantity of a whole number. -/
def ofInt (n : Int) : Quantity := ofScientific (n < 0) ⟨n.natAbs, 0⟩

/-- Equality of quantities; an undefined one equals nothing, and a signalling one has
no answer. -/
def equals? (a b : Quantity) : Option Bool :=
  if a = .signalling || b = .signalling then none
  else some (a != .undefined && a == b)

end Quantity

/-- The exact value of a floating point number: a negative power of two is as many
powers of five over powers of ten. -/
def Binary64.quantity (x : Binary64) : Quantity :=
  let m := significandOf x.code
  let e := exponentOf x.code
  if x.isNaN then .undefined
  else if x.isInfinite then .infinite x.negative
  else if 0 ≤ e then .ofScientific x.negative ⟨m * Nat.pow 2 e.toNat, 0⟩
  else .ofScientific x.negative ⟨m * Nat.pow 5 (-e).toNat, e⟩

/-- The exact value of a decimal number. -/
def Exact.quantity : Exact → Quantity
  | .finite negative coefficient exponent => .ofScientific negative ⟨coefficient, exponent⟩
  | .infinite negative => .infinite negative
  | .nan _ signalling _ => if signalling then .signalling else .undefined

end SqlStatements.Decimal
