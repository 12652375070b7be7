/-
  SqlStatements.Text.Hex
  ──────────────────────
  **Hexadecimal digits, read and written.**

  `value?` reads one digit of either case; `lower` and `upper` write numbers in a
  fixed number of places.  A byte is always written in two places.
-/

namespace SqlStatements.Text.Hex

/-! ## §1. Reading. -/

/-- The value of a hexadecimal digit, in either case. -/
def value? (c : Char) : Option Nat :=
  let n := c.toNat
  if 48 ≤ n && n ≤ 57 then some (n - 48)
  else if 65 ≤ n && n ≤ 70 then some (n - 55)
  else if 97 ≤ n && n ≤ 102 then some (n - 87)
  else none

/-- The number that a run of hexadecimal digits denotes; `none` when one of the
characters is no digit. -/
def number? (digits : List Char) : Option Nat :=
  digits.foldl (fun acc c => acc.bind fun n => (value? c).map (16 * n + ·)) (some 0)

/-! ## §2. Writing. -/

/-- The lower-case digit of a value below sixteen. -/
def lowerDigit (n : Nat) : Char :=
  if n < 10 then Char.ofNat (48 + n) else Char.ofNat (87 + n)

/-- The upper-case digit of a value below sixteen. -/
def upperDigit (n : Nat) : Char :=
  if n < 10 then Char.ofNat (48 + n) else Char.ofNat (55 + n)

/-- The last `places` digits of `n`, in lower case. -/
def lower : (places : Nat) → Nat → List Char
  | 0, _ => []
  | places + 1, n => lower places (n / 16) ++ [lowerDigit (n % 16)]

/-- A byte as two upper-case digits. -/
def upperByte (b : UInt8) : List Char :=
  [upperDigit (b.toNat / 16), upperDigit (b.toNat % 16)]

/-- Bytes as pairs of upper-case digits, one after the other. -/
def upperBytes (bytes : List UInt8) : List Char :=
  bytes.flatMap upperByte

/-- The bytes that pairs of digits denote, with nothing between the digits. -/
def bytes? : List Char → Option (List UInt8)
  | [] => some []
  | [_] => none
  | a :: b :: rest =>
      match value? a, value? b, bytes? rest with
      | some high, some low, some more => some (UInt8.ofNat (16 * high + low) :: more)
      | _, _, _ => none

end SqlStatements.Text.Hex
