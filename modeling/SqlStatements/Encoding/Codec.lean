/-
  SqlStatements.Encoding.Codec
  ────────────────────────────
  **Text encodings by name, and the decoding of files.**

  A name is looked up without regard to case, and every run of characters other than
  letters, digits and points counts as one underscore.  `decode` finds the encoding of
  a name and reads the bytes strictly; a failure tells which encoding found fault with
  which bytes.  Nothing is looked up for an empty file, whose text is empty in every
  encoding.

  The encodings that are described here are those of ASCII and of Unicode and two of single
  bytes.  There are many more, and of these nothing is known but that they are looked up by
  name (`ForeignCodecs`): they read a text, find fault with the bytes, or break down.
-/
import SqlStatements.Encoding.Unicode
import SqlStatements.Text.Hex

namespace SqlStatements.Encoding

open Text

/-! ## §1. Encodings. -/

/-- The text encodings. -/
inductive Codec where
  | ascii
  | latin1
  | windows1252
  | utf8
  /-- Units of one byte after an optional signature. -/
  | utf8Signed
  /-- Units of two bytes, in an order that is fixed or that a mark gives. -/
  | utf16 (order : Option ByteOrder)
  /-- Units of four bytes, in an order that is fixed or that a mark gives. -/
  | utf32 (order : Option ByteOrder)
  deriving Repr, DecidableEq

/-- An encoding's own name and its other names, in their normal form. -/
structure Names where
  name : String
  aliases : List String
  deriving Repr, DecidableEq

/-- The names of the encodings. -/
def codecNames : List (Codec × Names) :=
  [ (.ascii, ⟨"ascii", ["646", "ansi_x3.4_1968", "ansi_x3_4_1968", "ansi_x3.4_1986", "cp367",
      "csascii", "ibm367", "iso646_us", "iso_646.irv_1991", "iso_ir_6", "us", "us_ascii"]⟩),
    (.latin1, ⟨"latin_1", ["8859", "cp819", "csisolatin1", "ibm819", "iso8859", "iso8859_1",
      "iso_8859_1", "iso_8859_1_1987", "iso_ir_100", "l1", "latin", "latin1"]⟩),
    (.windows1252, ⟨"cp1252", ["1252", "windows_1252"]⟩),
    (.utf8, ⟨"utf_8", ["u8", "utf", "utf8", "utf8_ucs2", "utf8_ucs4", "cp65001"]⟩),
    (.utf8Signed, ⟨"utf_8_sig", []⟩),
    (.utf16 none, ⟨"utf_16", ["u16", "utf16"]⟩),
    (.utf16 (some .little), ⟨"utf_16_le", ["utf_16le", "unicodelittleunmarked"]⟩),
    (.utf16 (some .big), ⟨"utf_16_be", ["utf_16be", "unicodebigunmarked"]⟩),
    (.utf32 none, ⟨"utf_32", ["u32", "utf32"]⟩),
    (.utf32 (some .little), ⟨"utf_32_le", ["utf_32le"]⟩),
    (.utf32 (some .big), ⟨"utf_32_be", ["utf_32be"]⟩) ]

/-- The names of conversions between bytes, which read no text. -/
def byteConversions : List Names :=
  [ ⟨"hex_codec", ["hex"]⟩, ⟨"base64_codec", ["base64", "base_64"]⟩, ⟨"rot_13", ["rot13"]⟩,
    ⟨"zlib_codec", ["zip", "zlib"]⟩, ⟨"bz2_codec", ["bz2"]⟩, ⟨"uu_codec", ["uu"]⟩,
    ⟨"quopri_codec", ["quopri", "quoted_printable", "quotedprintable"]⟩ ]

/-- A name in lower case with one underscore for each run of other characters; such a
run at either end counts for nothing.  `started` says whether a letter has been seen,
and `gap` whether a run is open. -/
def normalChars (started gap : Bool) : List Char → List Char
  | [] => []
  | c :: rest =>
      if c.isAlphanum || c == '.' then
        (if started && gap then ['_'] else []) ++ c.toLower :: normalChars true false rest
      else normalChars started true rest

/-- The normal form of a name. -/
def normalName (name : String) : String :=
  String.ofList (normalChars false false name.toList)

/-- Whether one of the names is the one asked for.  A point in the latter may stand for
an underscore of another name, but not of the own one. -/
def Names.answer (names : Names) (asked : String) : Bool :=
  let normal := normalName asked
  let plain := String.ofList (normal.toList.map fun c => if c == '.' then '_' else c)
  normal == names.name || names.aliases.contains normal || names.aliases.contains plain

/-- The encoding of a name. -/
def codec? (name : String) : Option Codec :=
  (codecNames.find? (·.2.answer name)).map (·.1)

/-! ## §2. Single bytes. -/

/-- The characters from 0x80 to 0x9F in the encoding of western windows; zero where there
is none. -/
def windowsHigh : List Nat :=
  [0x20AC, 0, 0x201A, 0x192, 0x201E, 0x2026, 0x2020, 0x2021, 0x2C6, 0x2030, 0x160, 0x2039,
    0x152, 0, 0x17D, 0, 0, 0x2018, 0x2019, 0x201C, 0x201D, 0x2022, 0x2013, 0x2014, 0x2DC,
    0x2122, 0x161, 0x203A, 0x153, 0, 0x17E, 0x178]

/-- One byte per character, the first 128 only. -/
def ascii : Decoder := fun first _ =>
  if first.toNat < 128 then .char (Char.ofNat first.toNat) 1 else .bad .notAscii 1

/-- One byte per character, the first 256. -/
def latin1 : Decoder := fun first _ => .char (Char.ofNat first.toNat) 1

/-- One byte per character, with the table of western windows. -/
def windows1252 : Decoder := fun first _ =>
  let n := first.toNat
  if 0x80 ≤ n && n < 0xA0 then
    match windowsHigh[n - 0x80]? with
    | some 0 | none => .bad .undefined 1
    | some point => .char (Char.ofNat point) 1
  else .char (Char.ofNat n) 1

/-! ## §3. Decoding. -/

/-- Bytes that cannot be read in an encoding. -/
structure Undecodable where
  /-- The name under which the encoding reports. -/
  codec : String
  run : BadRun
  /-- The first byte of the bad run. -/
  byte : UInt8
  deriving Repr, DecidableEq

/-- Why a file has no text. -/
inductive DecodeError where
  | unknown (name : String)
  | notText (name : String)
  | undecodable (found : Undecodable)
  /-- An encoding that is not described here finds fault with the bytes. -/
  | foreign (message : String)
  deriving Repr, DecidableEq

/-- The wording of an error. -/
def DecodeError.message : DecodeError → String
  | .unknown name => s!"unknown encoding: {name}"
  | .notText name =>
      s!"'{name}' is not a text encoding; use codecs.decode() to handle arbitrary codecs"
  | .foreign message => message
  | .undecodable ⟨codec, run, byte⟩ =>
      let which :=
        if run.stop = run.start + 1 then
          s!"byte 0x{String.ofList (Hex.lower 2 byte.toNat)} in position {run.start}"
        else s!"bytes in position {run.start}-{run.stop - 1}"
      s!"'{codec}' codec can't decode {which}: {run.reason.message}"

/-- The text of some bytes, of which the first `skip` are a mark that is passed over but
counted. -/
def decodeWith (codec : String) (next : Decoder) (skip : Nat) (bytes : List UInt8) :
    Except DecodeError (List Char) :=
  (strict skip (pieces next (bytes.drop skip))).mapError fun run =>
    .undecodable ⟨codec, run, bytes[run.start]?.getD 0⟩

/-- The bytes of the signature. -/
def signature : List UInt8 := [0xEF, 0xBB, 0xBF]

/-- The text of some bytes in an encoding. -/
def Codec.decode (codec : Codec) (bytes : List UInt8) : Except DecodeError (List Char) :=
  match codec with
  | .ascii => decodeWith "ascii" Encoding.ascii 0 bytes
  | .latin1 => decodeWith "latin-1" Encoding.latin1 0 bytes
  | .windows1252 => decodeWith "charmap" Encoding.windows1252 0 bytes
  | .utf8 => decodeWith "utf-8" Encoding.utf8 0 bytes
  | .utf8Signed =>
      let body := if signature.isPrefixOf bytes then bytes.drop 3 else bytes
      decodeWith "utf-8" Encoding.utf8 0 body
  | .utf16 order =>
      let (order, skip) := (order.map (·, 0)).getD (markedOrder 2 bytes)
      decodeWith ("utf-16-" ++ order.suffix) (Encoding.utf16 order) skip bytes
  | .utf32 order =>
      let (order, skip) := (order.map (·, 0)).getD (markedOrder 4 bytes)
      decodeWith ("utf-32-" ++ order.suffix) (Encoding.utf32 order) skip bytes

/-! ## §4. Encodings of other makes. -/

/-- What an encoding that is not described here makes of some bytes. -/
inductive ForeignReading where
  | text (chars : List Char)
  /-- It finds fault with the bytes, and says so as every encoding does. -/
  | undecodable (message : String)
  /-- It fails in a way of its own. -/
  | broken (message : String)
  deriving Repr, DecidableEq

/-- The encodings that are not described here, by their names. -/
abbrev ForeignCodecs := (name : String) → Option (List UInt8 → ForeignReading)

/-- No encodings but the ones that are described here. -/
def noForeignCodecs : ForeignCodecs := fun _ => none

/-- How decoding fails: for a reason that is told of in the same way for every encoding, or
because an encoding breaks down. -/
inductive DecodeFailure where
  | error (reason : DecodeError)
  | breakdown (message : String)
  deriving Repr, DecidableEq

/-- What an encoding that is not described here makes of some bytes, as a result. -/
def ForeignReading.result : ForeignReading → Except DecodeFailure (List Char)
  | .text chars => .ok chars
  | .undecodable message => .error (.error (.foreign message))
  | .broken message => .error (.breakdown message)

/-- The text of some bytes in the encoding of a name. -/
def decode (name : String) (bytes : List UInt8) (codecs : ForeignCodecs) :
    Except DecodeFailure (List Char) :=
  if bytes.isEmpty then .ok []
  else
    match codec? name with
    | some codec => (codec.decode bytes).mapError DecodeFailure.error
    | none =>
        if byteConversions.any (·.answer name) then .error (.error (.notText name))
        else
          match codecs name with
          | some codec => (codec bytes).result
          | none => .error (.error (.unknown name))

end SqlStatements.Encoding
