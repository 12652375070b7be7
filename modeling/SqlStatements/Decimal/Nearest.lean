/-
  SqlStatements.Decimal.Nearest
  ─────────────────────────────
  **The floating point number nearest to a fraction.**

  `nearestCode` rounds a non-negative fraction to the nearest magnitude; a value
  half-way between two of them goes to the one whose significand is even.  What lies
  half a unit or more beyond the largest finite magnitude becomes infinite.

  `ofInt` and `ofDecimal` apply it to whole numbers and to decimal numbers.
-/
import SqlStatements.Decimal.Binary64

namespace SqlStatements.Decimal

/-! ## §1. Rounding a quotient. -/

/-- `num / den` rounded to a whole number, a half going to the even neighbour. -/
def roundHalfEven (num den : Nat) : Nat :=
  let q := num / den
  let r := num % den
  if 2 * r < den then q
  else if den < 2 * r then q + 1
  else if q % 2 = 0 then q
  else q + 1

/-- A fraction divided by `2 ^ e`. -/
def scaleDown (num den : Nat) (e : Int) : Nat × Nat :=
  if 0 ≤ e then (num, den * Nat.pow 2 e.toNat) else (num * Nat.pow 2 (-e).toNat, den)

/-- The exponent of the largest power of two that is at most `num / den`. -/
def floorLog2 (num den : Nat) : Int :=
  let guess : Int := (num.log2 : Int) - den.log2
  let (n, d) := scaleDown num den guess
  if d ≤ n then guess else guess - 1

/-! ## §2. The nearest magnitude. -/

/-- The code of the magnitude nearest to `num / den`. -/
def nearestCode (num den : Nat) : Nat :=
  if num = 0 then 0
  else
    let e := max (floorLog2 num den - 52) (-1074)
    let (n, d) := scaleDown num den e
    min ((e + 1074).toNat * Binary64.binade + roundHalfEven n d) Binary64.infinityCode

/-- The number nearest to a whole number. -/
def Binary64.ofInt (n : Int) : Binary64 :=
  .ofCode (n < 0) (nearestCode n.natAbs 1)

/-! ## §3. Decimal numbers. -/

/-- The number of decimal digits of `n`; zero has none. -/
def decimalLength (n : Nat) : Nat :=
  if n = 0 then 0 else decimalLength (n / 10) + 1
termination_by n
decreasing_by omega

/-- The number nearest to `digits · 10 ^ exponent`, with the given sign.  A value
beyond `10 ^ 400` is infinite and one below `10 ^ -400` is zero, whatever its
digits. -/
def Binary64.ofDecimal (negative : Bool) (digits : Nat) (exponent : Int) : Binary64 :=
  let size : Int := decimalLength digits + exponent
  if digits = 0 || size < -400 then .ofCode negative 0
  else if 400 < size then .ofCode negative infinityCode
  else if 0 ≤ exponent then .ofCode negative (nearestCode (digits * Nat.pow 10 exponent.toNat) 1)
  else .ofCode negative (nearestCode digits (Nat.pow 10 (-exponent).toNat))

end SqlStatements.Decimal
