/-
  SqlStatements.Text.Quoted
  ─────────────────────────
  **The quoted display of texts and byte strings.**

  A display is for people and for error messages: it is one line, it shows every
  unprintable character by an escape, and its quotes are chosen so that the fewest
  have to be escaped.

    • `text`      — a text between quotes,
    • `bytes`     — a byte string, marked by a leading `b`,
    • `byteArray` — a changeable byte string, in which every `'` is escaped.
-/
import SqlStatements.Text.Hex
import SqlStatements.Text.Printable

namespace SqlStatements.Text.Quoted

/-! ## §1. The choice of the quote. -/

/-- Single quotes, unless the content holds a single quote and no double quote. -/
def quoteFor (single double : Bool) : Char :=
  if single && !double then '"' else '\''

/-! ## §2. Texts. -/

/-- One character inside the quotes `quote`. -/
def escape (quote c : Char) : List Char :=
  if c == quote || c == '\\' then ['\\', c]
  else if c == '\n' then ['\\', 'n']
  else if c == '\r' then ['\\', 'r']
  else if c == '\t' then ['\\', 't']
  else if isPrintable c then [c]
  else if c.toNat < 0x100 then ['\\', 'x'] ++ Hex.lower 2 c.toNat
  else if c.toNat < 0x10000 then ['\\', 'u'] ++ Hex.lower 4 c.toNat
  else ['\\', 'U'] ++ Hex.lower 8 c.toNat

/-- The display of a text. -/
def chars (s : List Char) : List Char :=
  let quote := quoteFor (s.contains '\'') (s.contains '"')
  quote :: (s.flatMap (escape quote) ++ [quote])

/-- The display of a text. -/
def text (s : String) : String :=
  String.ofList (chars s.toList)

/-- The display of a list of texts, in square brackets. -/
def texts (ss : List String) : String :=
  "[" ++ String.intercalate ", " (ss.map text) ++ "]"

/-! ## §3. Byte strings. -/

/-- One byte inside quotes; `escaped` says whether the character is a quote that has
to be escaped. -/
def escapeByte (escaped : Char → Bool) (b : UInt8) : List Char :=
  let c := Char.ofNat b.toNat
  if escaped c || c == '\\' then ['\\', c]
  else if c == '\n' then ['\\', 'n']
  else if c == '\r' then ['\\', 'r']
  else if c == '\t' then ['\\', 't']
  else if 32 ≤ b.toNat && b.toNat < 127 then [c]
  else ['\\', 'x'] ++ Hex.lower 2 b.toNat

/-- The display of a byte string. -/
def bytes (data : List UInt8) : String :=
  let quote := quoteFor (data.contains 39) (data.contains 34)
  String.ofList ('b' :: quote :: (data.flatMap (escapeByte (· == quote)) ++ [quote]))

/-- The display of a changeable byte string: the quotes are chosen as for `bytes`,
and a single quote is escaped even between double quotes. -/
def byteArray (data : List UInt8) : String :=
  let quote := quoteFor (data.contains 39) (data.contains 34)
  let inner := data.flatMap (escapeByte fun c => c == quote || c == '\'')
  "bytearray(" ++ String.ofList ('b' :: quote :: (inner ++ [quote])) ++ ")"

end SqlStatements.Text.Quoted
