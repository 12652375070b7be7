/-
  SqlStatements.Decimal.Shortest
  ──────────────────────────────
  **The fewest decimal digits that read back as the same number.**

  The real numbers that round to a given magnitude form an interval, its ends
  included when the significand is even.  For one digit, two digits, and so on up to
  seventeen, the two neighbours of the magnitude among the numbers with that many
  digits are tested: the first length with a neighbour inside the interval is taken,
  and of two neighbours inside it the nearer, a tie going to the even digit.
  Seventeen digits are always enough.
-/
import SqlStatements.Decimal.Nearest

namespace SqlStatements.Decimal

/-! ## §1. The interval of a magnitude. -/

/-- A positive magnitude and the ends of its rounding interval, all three counted in
units of `unitNum / unitDen`. -/
structure Interval where
  low : Nat
  value : Nat
  high : Nat
  unitNum : Nat
  unitDen : Nat
  /-- Whether the two ends themselves round to the magnitude. -/
  closed : Bool
  deriving Repr, DecidableEq

/-- The interval of a finite code.  The unit is a quarter of the last place; at a
power of two the magnitude below is only half as far away as the one above. -/
def Interval.ofCode (code : Nat) : Interval :=
  let m := Binary64.significandOf code
  let (num, den) := Binary64.powerOfTwo (Binary64.exponentOf code - 2)
  let below := if m = Binary64.binade ∧ 2 * Binary64.binade ≤ code then 1 else 2
  ⟨4 * m - below, 4 * m, 4 * m + 2, num, den, m % 2 == 0⟩

/-! ## §2. Grids of decimal numbers. -/

/-- `10 ^ g` as a numerator and a denominator. -/
def powerOfTen (g : Int) : Nat × Nat :=
  if 0 ≤ g then (Nat.pow 10 g.toNat, 1) else (1, Nat.pow 10 (-g).toNat)

/-- A decimal number `digits · 10 ^ exponent`. -/
structure Scientific where
  digits : Nat
  exponent : Int
  deriving Repr, DecidableEq

/-- A number of `units` of the interval, as a count of steps of `10 ^ g`: a numerator
and a denominator. -/
def Interval.onGrid (i : Interval) (g : Int) (units : Nat) : Nat × Nat :=
  let (num, den) := powerOfTen g
  (units * i.unitNum * den, i.unitDen * num)

/-- Whether `d · 10 ^ g` rounds to the magnitude of the interval. -/
def Interval.holds (i : Interval) (g : Int) (d : Nat) : Bool :=
  let (low, lowDen) := i.onGrid g i.low
  let (high, highDen) := i.onGrid g i.high
  if i.closed then low ≤ d * lowDen && d * highDen ≤ high
  else low < d * lowDen && d * highDen < high

/-- The exponent of the first digit of the magnitude. -/
def Interval.leadingExponent (i : Interval) : Int :=
  let num := i.value * i.unitNum
  if i.unitDen ≤ num then (decimalLength (num / i.unitDen) : Int) - 1
  else -((decimalLength ((i.unitDen - 1) / num) : Nat) : Int)

/-- The number on the grid of `10 ^ g` that rounds to the magnitude and is nearest to
it, if there is one. -/
def Interval.onGrid? (i : Interval) (g : Int) : Option Nat :=
  let (num, den) := i.onGrid g i.value
  let below := num / den
  let r := num % den
  match i.holds g below, i.holds g (below + 1) with
  | true, true =>
      if 2 * r < den then some below
      else if den < 2 * r then some (below + 1)
      else if below % 2 = 0 then some below
      else some (below + 1)
  | true, false => some below
  | false, true => some (below + 1)
  | false, false => none

/-! ## §3. The search. -/

/-- The first hit among `lengths`, each a number of digits. -/
def Interval.search (i : Interval) (leading : Int) : List Nat → Option Scientific
  | [] => none
  | n :: more =>
      let g := leading - (n - 1 : Nat)
      match i.onGrid? g with
      | some d => some ⟨d, g⟩
      | none => i.search leading more

/-- A decimal number whose digits do not end in zero, of the same value. -/
def Scientific.normal (d : Scientific) : Scientific :=
  if h : d.digits ≠ 0 ∧ d.digits % 10 = 0 then
    Scientific.normal ⟨d.digits / 10, d.exponent + 1⟩
  else d
termination_by d.digits
decreasing_by omega

/-- The shortest decimal number that reads back as the magnitude of a finite code. -/
def shortest (code : Nat) : Scientific :=
  if code = 0 then ⟨0, 0⟩
  else
    let i := Interval.ofCode code
    let found := i.search i.leadingExponent (List.range' 1 17)
    (found.getD ⟨0, 0⟩).normal

end SqlStatements.Decimal
