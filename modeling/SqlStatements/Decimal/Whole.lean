/-
  SqlStatements.Decimal.Whole
  ───────────────────────────
  **Whole numbers that were typed as text.**

  A number may be written with the decimal digits of any script, with a sign in front,
  with single underscores between digits and with space around it.  One of more than
  `digitLimit` digits is not read, because reading it would take too long.
-/
import SqlStatements.Decimal.Numeral
import SqlStatements.Text.Blank
import SqlStatements.Text.DecimalDigit
import SqlStatements.Text.Quoted

namespace SqlStatements.Decimal

open Text

/-! ## §1. What can be wrong. -/

/-- The digits of the longest whole number that is read. -/
def digitLimit : Nat := 4300

/-- Why a text is not read as a whole number. -/
inductive WholeFault where
  | notWhole
  | tooManyDigits (count : Nat)
  deriving Repr, DecidableEq

/-- The wording for a whole number with too many digits. -/
def tooManyDigitsMessage (count : Nat) : String :=
  s!"Exceeds the limit ({digitLimit} digits) for integer string conversion: value has {count} "
    ++ "digits; use sys.set_int_max_str_digits() to increase the limit"

/-- The longest display of a text in the message about a whole number. -/
def displayLimit : Nat := 200

/-- The wording of a fault in the text `raw`. -/
def WholeFault.message (raw : List Char) : WholeFault → String
  | .notWhole =>
      "invalid literal for int() with base 10: "
        ++ String.ofList ((Quoted.chars raw).take displayLimit)
  | .tooManyDigits count => tooManyDigitsMessage count

/-! ## §2. Reading. -/

/-- A character of a number in ASCII: digits of every script become ASCII digits, space
of every kind a space, and everything else that is not ASCII a question mark. -/
def asciiNumeral (c : Char) : Char :=
  if c.toNat < 128 then c
  else if isBlank c then ' '
  else
    match decimalDigit? c with
    | some d => Char.ofNat (48 + d)
    | none => '?'

/-- A number in ASCII without the space around it. -/
def plainNumeral (raw : List Char) : List Char :=
  dropTrailing isAsciiSpace ((raw.map asciiNumeral).dropWhile isAsciiSpace)

/-- Digits with their underscores taken out: the first character must be a digit, and
no underscore may be followed by another or stand at the end. -/
def joinDigits (run : List Char) : Option (List Char) :=
  match run with
  | [] => none
  | c :: _ => if c = '_' then none else dropUnderscores none run

/-- The whole number that a text denotes. -/
def readWhole (raw : List Char) : Except WholeFault Int :=
  let (negative, body) := splitSign (plainNumeral raw)
  let isPart := fun (c : Char) => c.isDigit || c == '_'
  match joinDigits (body.takeWhile isPart) with
  | none => .error .notWhole
  | some digits =>
      if digitLimit < digits.length then .error (.tooManyDigits digits.length)
      else if (body.dropWhile isPart).isEmpty then
        let n : Int := numberOf digits
        .ok (if negative then -n else n)
      else .error .notWhole

end SqlStatements.Decimal
