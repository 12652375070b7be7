/-
  SqlStatements.Decimal.Binary64
  ──────────────────────────────
  **64-bit binary floating point numbers, as exact data.**

  A number is its 64 bits: a sign and a 63-bit `code`.  The codes of the finite
  magnitudes count them in increasing order, so the next larger magnitude has the
  next code; above them stand one code for infinity and the codes that are no number.

  A finite magnitude is `significand · 2 ^ exponent` exactly, which is all that
  reading, printing and comparing need.
-/

namespace SqlStatements.Decimal

/-! ## §1. The bits. -/

/-- A 64-bit floating point number. -/
structure Binary64 where
  bits : BitVec 64
  deriving DecidableEq, Repr, Inhabited

namespace Binary64

/-- The number of codes with the same exponent, which is also the least significand of
a number that is not subnormal: 2 to the power 52. -/
def binade : Nat := 0x10000000000000

/-- The number of codes, and the place of the sign: 2 to the power 63. -/
def signBit : Nat := 0x8000000000000000

/-- The code of infinity: the first one that no finite magnitude has. -/
def infinityCode : Nat := 2047 * binade

/-- The code of the plainest value that is no number. -/
def nanCode : Nat := infinityCode + binade / 2

/-- Whether the sign bit is set. -/
def negative (x : Binary64) : Bool := x.bits.msb

/-- The bits below the sign. -/
def code (x : Binary64) : Nat := x.bits.toNat % signBit

/-- The number with a given sign and code. -/
def ofCode (negative : Bool) (code : Nat) : Binary64 :=
  ⟨BitVec.ofNat 64 ((if negative then signBit else 0) + code % signBit)⟩

/-- Whether the value is no number. -/
def isNaN (x : Binary64) : Bool := infinityCode < x.code

/-- Whether the magnitude is infinite. -/
def isInfinite (x : Binary64) : Bool := x.code == infinityCode

/-! ## §2. The exact value. -/

/-- The significand of a finite code. -/
def significandOf (code : Nat) : Nat :=
  if code < binade then code else binade + code % binade

/-- The exponent of the unit in the last place of a finite code. -/
def exponentOf (code : Nat) : Int :=
  if code < binade then -1074 else (code / binade : Nat) - 1075

/-- `2 ^ e` as a numerator and a denominator. -/
def powerOfTwo (e : Int) : Nat × Nat :=
  if 0 ≤ e then (Nat.pow 2 e.toNat, 1) else (1, Nat.pow 2 (-e).toNat)

/-- The magnitude of a finite number as a numerator and a denominator. -/
def ratio (x : Binary64) : Nat × Nat :=
  let (num, den) := powerOfTwo (exponentOf x.code)
  (significandOf x.code * num, den)

/-- The numerator of a finite number, with its sign. -/
def signedNumerator (x : Binary64) : Int :=
  if x.negative then -(x.ratio.1 : Int) else x.ratio.1

/-- Whether a finite number is whole. -/
def isWhole (x : Binary64) : Bool :=
  x.ratio.1 % x.ratio.2 == 0

/-! ## §3. Comparison. -/

/-- Equality of numbers: the two zeros are equal, and what is no number equals
nothing. -/
def equals (x y : Binary64) : Bool :=
  !x.isNaN && !y.isNaN && (x == y || (x.code == 0 && y.code == 0))

/-- Whether a number equals a whole number exactly. -/
def equalsInt (x : Binary64) (n : Int) : Bool :=
  x.code < infinityCode && x.signedNumerator == n * x.ratio.2

end Binary64

end SqlStatements.Decimal
