/-
  SqlStatements.Encoding.Unicode
  ──────────────────────────────
  **The encodings of Unicode: units of one, two and four bytes.**

    • `utf8`  — one to four bytes per character.  A lead byte fixes the number of bytes
                and the range of the second one, which rules out overlong forms,
                surrogates and numbers that are too large.
    • `utf16` — units of two bytes; a character beyond the basic plane is a pair of
                surrogates, the high one first.
    • `utf32` — one unit of four bytes per character.
-/
import SqlStatements.Encoding.Piece

namespace SqlStatements.Encoding

/-! ## §1. Units of one byte. -/

/-- A closed range of bytes. -/
structure ByteRange where
  low : Nat
  high : Nat
  deriving Repr, DecidableEq

/-- Whether a byte is in a range. -/
def ByteRange.holds (r : ByteRange) (b : UInt8) : Bool :=
  r.low ≤ b.toNat && b.toNat ≤ r.high

/-- The range of a byte that continues a character. -/
def continuation : ByteRange := ⟨0x80, 0xBF⟩

/-- The ranges of the bytes that follow a lead byte; `none` when no character begins
with it. -/
def followers (lead : Nat) : Option (List ByteRange) :=
  if lead < 0x80 then some []
  else if lead < 0xC2 then none
  else if lead < 0xE0 then some [continuation]
  else if lead < 0xF0 then
    some [⟨if lead = 0xE0 then 0xA0 else 0x80, if lead = 0xED then 0x9F else 0xBF⟩, continuation]
  else if lead < 0xF5 then
    some [⟨if lead = 0xF0 then 0x90 else 0x80, if lead = 0xF4 then 0x8F else 0xBF⟩,
      continuation, continuation]
  else none

/-- The bits that a lead byte with this many followers gives to the code point. -/
def leadBits (lead count : Nat) : Nat :=
  if count = 0 then lead
  else if count = 1 then lead % 0x20
  else if count = 2 then lead % 0x10
  else lead % 0x08

/-- The rest of a character: `value` is the code point so far, and `taken` the number of
bytes. -/
def takeFollowers (value taken : Nat) : List ByteRange → List UInt8 → Piece
  | [], _ => .char (Char.ofNat value) taken
  | _ :: _, [] => .bad .endOfData taken
  | range :: ranges, b :: rest =>
      if range.holds b then takeFollowers (value * 0x40 + b.toNat % 0x40) (taken + 1) ranges rest
      else .bad .invalidContinuation taken

/-- Units of one byte. -/
def utf8 : Decoder := fun first rest =>
  match followers first.toNat with
  | none => .bad .invalidStart 1
  | some ranges => takeFollowers (leadBits first.toNat ranges.length) 1 ranges rest

/-! ## §2. Units of two bytes. -/

/-- The order of the bytes in a unit. -/
inductive ByteOrder where
  | little
  | big
  deriving Repr, DecidableEq

/-- The suffix that names an order. -/
def ByteOrder.suffix : ByteOrder → String
  | .little => "le"
  | .big => "be"

/-- The number of a unit, given its bytes in the order in which they stand. -/
def ByteOrder.unit (order : ByteOrder) (bytes : List UInt8) : Nat :=
  let significant := match order with
    | .big => bytes
    | .little => bytes.reverse
  significant.foldl (fun n b => 0x100 * n + b.toNat) 0

/-- Whether a unit is half of a pair. -/
def isSurrogate (unit : Nat) : Bool := 0xD800 ≤ unit && unit < 0xE000

/-- Whether a unit is the first half of a pair. -/
def isHighSurrogate (unit : Nat) : Bool := 0xD800 ≤ unit && unit < 0xDC00

/-- The code point of a pair. -/
def joinSurrogates (high low : Nat) : Nat :=
  0x10000 + (high - 0xD800) * 0x400 + (low - 0xDC00)

/-- Units of two bytes. -/
def utf16 (order : ByteOrder) : Decoder := fun first rest =>
  match rest with
  | [] => .bad .truncated 1
  | second :: after =>
      let unit := order.unit [first, second]
      if !isSurrogate unit then .char (Char.ofNat unit) 2
      else if !isHighSurrogate unit then .bad .illegalEncoding 2
      else
        match after with
        | third :: fourth :: _ =>
            let next := order.unit [third, fourth]
            if isSurrogate next && !isHighSurrogate next then
              .char (Char.ofNat (joinSurrogates unit next)) 4
            else .bad .illegalSurrogate 2
        | short => .bad .endOfData (2 + short.length)

/-! ## §3. Units of four bytes. -/

/-- Units of four bytes. -/
def utf32 (order : ByteOrder) : Decoder := fun first rest =>
  match rest with
  | second :: third :: fourth :: _ =>
      let n := order.unit [first, second, third, fourth]
      if isSurrogate n then .bad .surrogateRange 4
      else if n < 0x110000 then .char (Char.ofNat n) 4
      else .bad .beyondRange 4
  | short => .bad .truncated (1 + short.length)

/-! ## §4. Byte order marks. -/

/-- The order that a byte order mark at the start of the bytes gives, and the number of
its bytes; without a mark the order is little-endian. -/
def markedOrder (width : Nat) (bytes : List UInt8) : ByteOrder × Nat :=
  let start := bytes.take width
  if start.length < width then (.little, 0)
  else if ByteOrder.little.unit start = 0xFEFF then (.little, width)
  else if ByteOrder.big.unit start = 0xFEFF then (.big, width)
  else (.little, 0)

end SqlStatements.Encoding
