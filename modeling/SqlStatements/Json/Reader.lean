/-
  SqlStatements.Json.Reader
  ─────────────────────────
  **Reading JSON text.**

  The reader takes the standard grammar and, besides it, the words `NaN`, `Infinity`
  and `-Infinity` as numbers.  A fault names what was expected and where: the
  position is counted in characters, and the message gives it also as a line and a
  column.  A whole number of more than 4300 digits is refused for its length, and so are
  containers for which there is no more room inside each other; how much room there is, is
  for the caller to say.

  The functions pass on the text that is still to be read.  A fault is recorded with
  the length of that text, from which its position follows.
-/
import SqlStatements.Decimal.Whole
import SqlStatements.Json.Value
import SqlStatements.Text.Hex

namespace SqlStatements.Json

open Decimal Text

/-! ## §1. Faults. -/

/-- What is wrong with a text that is not JSON. -/
inductive FaultKind where
  | byteOrderMark
  | expectingValue
  | expectingName
  | expectingColon
  | expectingComma
  | unterminatedString
  | invalidEscape
  | invalidUnicodeEscape
  | controlCharacter
  | extraData
  deriving Repr, DecidableEq

/-- The wording of a fault. -/
def FaultKind.message : FaultKind → String
  | .byteOrderMark => "Unexpected UTF-8 BOM (decode using utf-8-sig)"
  | .expectingValue => "Expecting value"
  | .expectingName => "Expecting property name enclosed in double quotes"
  | .expectingColon => "Expecting ':' delimiter"
  | .expectingComma => "Expecting ',' delimiter"
  | .unterminatedString => "Unterminated string starting at"
  | .invalidEscape => "Invalid \\escape"
  | .invalidUnicodeEscape => "Invalid \\uXXXX escape"
  | .controlCharacter => "Invalid control character at"
  | .extraData => "Extra data"

/-- The two kinds of containers. -/
inductive Container where
  | array
  | object
  deriving Repr, DecidableEq

/-- The name of a kind of containers. -/
def Container.name : Container → String
  | .array => "array"
  | .object => "object"

/-- What is too large to be read. -/
inductive Excess where
  /-- A whole number has too many digits. -/
  | digits (count : Nat)
  /-- A container stands inside too many others. -/
  | depth (container : Container)
  deriving Repr, DecidableEq

/-- The wording for what is too large. -/
def Excess.message : Excess → String
  | .digits count => tooManyDigitsMessage count
  | .depth container =>
      s!"maximum recursion depth exceeded while decoding a JSON {container.name} from a "
        ++ "unicode string"

/-- Why a text cannot be read as JSON. -/
inductive ReadError where
  /-- The text is not JSON from this position on. -/
  | fault (kind : FaultKind) (line column position : Nat)
  | excess (found : Excess)
  deriving Repr, DecidableEq

/-- The wording of an error. -/
def ReadError.message : ReadError → String
  | .fault kind line column position =>
      s!"{kind.message}: line {line} column {column} (char {position})"
  | .excess found => found.message

/-- Why reading stopped: a fault and how much text was left, or something too large. -/
inductive Stop where
  | fault (kind : FaultKind) (left : Nat)
  | excess (found : Excess)
  deriving Repr, DecidableEq

/-- A part of a text that has been read, and the rest of the text. -/
abbrev Part (α : Type) := α × List Char

/-- Nothing that was expected stands at the start of `rest`. -/
def stopAt {α : Type} (kind : FaultKind) (rest : List Char) : Except Stop (Part α) :=
  .error (.fault kind rest.length)

/-! ## §2. Space and numbers. -/

/-- The white space of the grammar. -/
def isSpace (c : Char) : Bool :=
  c == ' ' || c == '\t' || c == '\n' || c == '\r'

/-- A text without the white space in front. -/
def skipSpace (text : List Char) : List Char :=
  text.dropWhile isSpace

/-- The fraction of a number: a point and at least one digit, or nothing. -/
def takeFraction (text : List Char) : List Char × List Char :=
  match text with
  | '.' :: rest =>
      match rest.takeWhile Char.isDigit with
      | [] => ([], text)
      | digits => ('.' :: digits, rest.dropWhile Char.isDigit)
  | _ => ([], text)

/-- The exponent of a number: `e`, a sign or none and at least one digit, or
nothing. -/
def takeExponent (text : List Char) : List Char × List Char :=
  match text with
  | [] => ([], text)
  | e :: rest =>
      let sign := match rest with
        | '+' :: _ => ['+']
        | '-' :: _ => ['-']
        | _ => []
      let after := rest.drop sign.length
      let digits := after.takeWhile Char.isDigit
      if (e == 'e' || e == 'E') && !digits.isEmpty then
        (e :: (sign ++ digits), after.drop digits.length)
      else ([], text)

/-- A number at the start of a text: an optional minus, digits of which the first is
zero only if it is the only one, and a fraction and an exponent, each optional. -/
def readNumber (text : List Char) : Except Stop (Part Value) :=
  let (negative, body) := match text with
    | '-' :: rest => (true, rest)
    | _ => (false, text)
  let whole := match body with
    | '0' :: _ => ['0']
    | _ => body.takeWhile Char.isDigit
  if whole.isEmpty then stopAt .expectingValue text
  else
    let (fraction, afterFraction) := takeFraction (body.drop whole.length)
    let (exponent, rest) := takeExponent afterFraction
    if fraction.isEmpty && exponent.isEmpty then
      if digitLimit < whole.length then .error (.excess (.digits whole.length))
      else
        let n : Int := numberOf whole
        .ok (.int (if negative then -n else n), rest)
    else
      match number? ((if negative then ['-'] else []) ++ whole ++ fraction ++ exponent) with
      | some x => .ok (.real x, rest)
      | none => stopAt .expectingValue text

/-! ## §3. Strings. -/

/-- The character of an escape of one letter. -/
def simpleEscape? : Char → Option Char
  | '"' => some '"'
  | '\\' => some '\\'
  | '/' => some '/'
  | 'b' => some '\x08'
  | 'f' => some '\x0c'
  | 'n' => some '\n'
  | 'r' => some '\r'
  | 't' => some '\t'
  | _ => none

/-- Four hexadecimal digits that are not the end of the text. -/
def takeUnit? (text : List Char) : Option (Nat × List Char) :=
  let rest := text.drop 4
  if rest.isEmpty then none else (Hex.number? (text.take 4)).map (·, rest)

/-- The character of a code unit that stands alone; half a pair has none, so it is
shown by the replacement character. -/
def charOfUnit (unit : Nat) : Char :=
  if 0xD800 ≤ unit ∧ unit < 0xE000 then '\uFFFD' else Char.ofNat unit

/-- The character of an escape by code units: `text` begins after the `u`.  A unit of
the first half of a pair takes the escape after it along, if that is the second
half. -/
def readUnits (text : List Char) : Except Stop (Part Char) :=
  match takeUnit? text with
  | none => .error (.fault .invalidUnicodeEscape (text.length + 1))
  | some (unit, rest) =>
      if 0xD800 ≤ unit ∧ unit < 0xDC00 then
        match rest with
        | '\\' :: 'u' :: more =>
            if more.length < 5 then .ok (charOfUnit unit, rest)
            else
              match takeUnit? more with
              | none => .error (.fault .invalidUnicodeEscape (more.length + 1))
              | some (second, after) =>
                  if 0xDC00 ≤ second ∧ second < 0xE000 then
                    .ok (Char.ofNat (0x10000 + (unit - 0xD800) * 0x400 + (second - 0xDC00)), after)
                  else .ok (charOfUnit unit, rest)
        | _ => .ok (charOfUnit unit, rest)
      else .ok (charOfUnit unit, rest)

/-- The characters of a string up to its closing quote.  `opening` is how much text
was left at the opening quote; the first number bounds the steps and is at least the
length of the text. -/
def readChars (opening : Nat) : Nat → List Char → Except Stop (Part (List Char))
  | 0, _ => .error (.fault .unterminatedString opening)
  | _ + 1, [] => .error (.fault .unterminatedString opening)
  | steps + 1, c :: rest =>
      if c = '"' then .ok ([], rest)
      else if c = '\\' then
        match rest with
        | [] => .error (.fault .unterminatedString opening)
        | 'u' :: more => do
            let (char, after) ← readUnits more
            let (chars, left) ← readChars opening steps after
            return (char :: chars, left)
        | letter :: more =>
            match simpleEscape? letter with
            | none => .error (.fault .invalidEscape (rest.length + 1))
            | some char => do
                let (chars, left) ← readChars opening steps more
                return (char :: chars, left)
      else if c.toNat < 32 then stopAt .controlCharacter (c :: rest)
      else do
        let (chars, left) ← readChars opening steps rest
        return (c :: chars, left)

/-- A string whose opening quote has been taken; `rest` is the text after it. -/
def readString (rest : List Char) : Except Stop (Part String) := do
  let (chars, left) ← readChars (rest.length + 1) (rest.length + 1) rest
  return (String.ofList chars, left)

/-! ## §4. Values. -/

/-- The words that are values, and what they mean. -/
def words : List (List Char × Value) :=
  [ ("null".toList, .null), ("true".toList, .bool true), ("false".toList, .bool false),
    ("NaN".toList, .real (.ofCode false Binary64.nanCode)),
    ("Infinity".toList, .real (.ofCode false Binary64.infinityCode)),
    ("-Infinity".toList, .real (.ofCode true Binary64.infinityCode)) ]

/-- The word at the start of a text, if there is one, and the text after it. -/
def word? (text : List Char) : Option (Value × List Char) :=
  (words.find? fun w => w.1.isPrefixOf text).map fun w => (w.2, text.drop w.1.length)

/-- The room for containers inside each other that a reader has who has hardly begun. -/
def usualRoom : Nat := 985

mutual

/-- A value at the start of a text, with room for so many containers inside each other.
Each step takes at least one character, so the length of the text bounds the steps. -/
def readValue : (steps room : Nat) → List Char → Except Stop (Part Value)
  | 0, _, text => stopAt .expectingValue text
  | steps + 1, room, text =>
      match text, room with
      | '"' :: rest, _ => (readString rest).map fun (s, left) => (.string s, left)
      | '\x7b' :: _, 0 => .error (.excess (.depth .object))
      | '\x7b' :: rest, room + 1 =>
          match skipSpace rest with
          | '\x7d' :: left => .ok (.object [], left)
          | inner => (readMembers steps room [] inner).map fun (ms, left) => (.object ms, left)
      | '[' :: _, 0 => .error (.excess (.depth .array))
      | '[' :: rest, room + 1 =>
          match skipSpace rest with
          | ']' :: left => .ok (.array [], left)
          | inner => (readItems steps room inner).map fun (items, left) => (.array items, left)
      | _, _ =>
          match word? text with
          | some found => .ok found
          | none => readNumber text

/-- The items of an array from the first one on. -/
def readItems : (steps room : Nat) → List Char → Except Stop (Part (List Value))
  | 0, _, text => stopAt .expectingValue text
  | steps + 1, room, text => do
      let (item, rest) ← readValue steps room text
      match skipSpace rest with
      | ']' :: left => return ([item], left)
      | ',' :: more =>
          let (others, left) ← readItems steps room (skipSpace more)
          return (item :: others, left)
      | other => stopAt .expectingComma other

/-- The members of an object from the next one on; `before` are those already read. -/
def readMembers : (steps room : Nat) → (before : List (String × Value)) → List Char →
    Except Stop (Part (List (String × Value)))
  | 0, _, _, text => stopAt .expectingValue text
  | steps + 1, room, before, text =>
      match text with
      | '"' :: inName => do
          let (name, afterName) ← readString inName
          match skipSpace afterName with
          | ':' :: rest =>
              let (value, afterValue) ← readValue steps room (skipSpace rest)
              let members := Value.setMember before name value
              match skipSpace afterValue with
              | '\x7d' :: left => return (members, left)
              | ',' :: more => readMembers steps room members (skipSpace more)
              | other => stopAt .expectingComma other
          | other => stopAt .expectingColon other
      | _ => stopAt .expectingName text

end

/-! ## §5. Whole texts. -/

/-- The number of the line that a position stands on, counted from one. -/
def lineAt (text : List Char) (position : Nat) : Nat :=
  (text.take position).count '\n' + 1

/-- The place of a position within its line, counted from one. -/
def columnAt (text : List Char) (position : Nat) : Nat :=
  ((text.take position).reverse.takeWhile (· != '\n')).length + 1

/-- Where in the text reading stopped. -/
def Stop.locate (text : List Char) : Stop → ReadError
  | .fault kind left =>
      let position := text.length - left
      .fault kind (lineAt text position) (columnAt text position) position
  | .excess found => .excess found

/-- The value of a JSON text, with room for so many containers inside each other. -/
def read (text : List Char) (room : Nat := usualRoom) : Except ReadError Value :=
  let outcome : Except Stop Value := do
    if text.head? = some '\uFEFF' then throw (.fault .byteOrderMark text.length)
    let (value, rest) ← readValue (2 * text.length + 2) room (skipSpace text)
    match skipSpace rest with
    | [] => return value
    | left => throw (.fault .extraData left.length)
  outcome.mapError (Stop.locate text)

end SqlStatements.Json
