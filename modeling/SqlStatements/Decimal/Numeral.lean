/-
  SqlStatements.Decimal.Numeral
  ─────────────────────────────
  **How floating point numbers are written and read.**

  `Binary64.text` writes a number with the fewest digits that read back.  `layout`
  holds the decisions of the format: a number is written positionally while its first
  digit stands at an exponent from -4 to 15, and always with a point; beyond that it
  has one digit before the point and an exponent with a sign and at least two digits.

  `number?` reads a number in any of the ways in which one may be written: a sign,
  digits with an optional point, an optional exponent, single underscores between
  digits, or one of the words for the infinite and for what is no number.
-/
import SqlStatements.Decimal.Shortest

namespace SqlStatements.Decimal

/-! ## §1. Writing. -/

/-- The decisions of a notation for floating point numbers. -/
structure Layout where
  /-- The least exponent of the first digit that is written positionally. -/
  positionalFrom : Int
  /-- The exponent of the first digit from which on an exponent is written. -/
  positionalBelow : Int
  /-- The least number of digits of an exponent. -/
  exponentWidth : Nat
  infinity : String
  nan : String

/-- The notation of this library. -/
def layout : Layout := ⟨-4, 16, 2, "inf", "nan"⟩

/-- Digits padded with zeros on the left up to a width. -/
def padLeft (width : Nat) (digits : List Char) : List Char :=
  List.replicate (width - digits.length) '0' ++ digits

/-- The decimal digits of a number. -/
def digitsOf (n : Nat) : List Char :=
  Nat.toDigits 10 n

/-- An exponent with its sign. -/
def exponentText (width : Nat) (e : Int) : List Char :=
  (if e < 0 then '-' else '+') :: padLeft width (digitsOf e.natAbs)

/-- A decimal number in a given notation. -/
def Scientific.write (l : Layout) (d : Scientific) : List Char :=
  let ds := digitsOf d.digits
  let point : Int := ds.length + d.exponent
  if d.digits = 0 then ['0', '.', '0']
  else if l.positionalFrom < point && point ≤ l.positionalBelow then
    if point ≤ 0 then ['0', '.'] ++ List.replicate (-point).toNat '0' ++ ds
    else if point < ds.length then ds.take point.toNat ++ '.' :: ds.drop point.toNat
    else ds ++ List.replicate (point.toNat - ds.length) '0' ++ ['.', '0']
  else
    let fraction := if ds.length = 1 then [] else '.' :: ds.drop 1
    ds.take 1 ++ fraction ++ 'e' :: exponentText l.exponentWidth (point - 1)

/-- A floating point number as text. -/
def Binary64.text (x : Binary64) : String :=
  let sign := if x.negative then "-" else ""
  if x.isNaN then layout.nan
  else if x.isInfinite then sign ++ layout.infinity
  else sign ++ String.ofList ((shortest x.code).write layout)

/-! ## §2. Reading. -/

/-- The number that ASCII digits denote. -/
def numberOf (digits : List Char) : Nat :=
  digits.foldl (fun n c => 10 * n + (c.toNat - 48)) 0

/-- A text without its underscores, each of which must stand between two digits;
`none` when one does not. -/
def dropUnderscores (previous : Option Char) : List Char → Option (List Char)
  | [] => if previous = some '_' then none else some []
  | c :: rest =>
      if c = '_' then
        if previous.any Char.isDigit then dropUnderscores (some c) rest else none
      else if previous = some '_' && !c.isDigit then none
      else (dropUnderscores (some c) rest).map (c :: ·)

/-- A sign in front of a number: whether it is a minus, and what follows. -/
def splitSign : List Char → Bool × List Char
  | '-' :: rest => (true, rest)
  | '+' :: rest => (false, rest)
  | text => (false, text)

/-- An exponent: nothing at all, or `e`, a sign and digits to the end. -/
def exponent? : List Char → Option Int
  | [] => some 0
  | e :: rest =>
      let (negative, digits) := splitSign rest
      if (e == 'e' || e == 'E') && !digits.isEmpty && digits.all Char.isDigit then
        some (if negative then -(numberOf digits : Int) else numberOf digits)
      else none

/-- An unsigned number in digits, with a point and an exponent or without. -/
def unsigned? (text : List Char) : Option Scientific :=
  let whole := text.takeWhile Char.isDigit
  let rest := text.dropWhile Char.isDigit
  let fraction := match rest with
    | '.' :: more => more.takeWhile Char.isDigit
    | _ => []
  let tail := match rest with
    | '.' :: more => more.dropWhile Char.isDigit
    | _ => rest
  if whole.isEmpty && fraction.isEmpty then none
  else (exponent? tail).map fun e => ⟨numberOf (whole ++ fraction), e - fraction.length⟩

/-- The words for numbers that have no digits. -/
def wordCode? (word : String) : Option Nat :=
  if word = "inf" || word = "infinity" then some Binary64.infinityCode
  else if word = "nan" then some Binary64.nanCode
  else none

/-- The floating point number that a text denotes, in ASCII and without space around
it. -/
def number? (text : List Char) : Option Binary64 :=
  (dropUnderscores none text).bind fun plain =>
    let (negative, body) := splitSign plain
    match wordCode? (String.ofList (body.map Char.toLower)) with
    | some code => some (.ofCode negative code)
    | none => (unsigned? body).map fun d => .ofDecimal negative d.digits d.exponent

end SqlStatements.Decimal
