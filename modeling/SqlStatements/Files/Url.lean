/-
  SqlStatements.Files.Url
  ───────────────────────
  **File paths given as URLs.**

  A source may be named by a plain path or by a URL of the scheme `file` without a
  host, or with the host `localhost`.  A single letter as a scheme is a drive, so such
  a text is a plain path too; every other scheme is refused.

    • `UrlParts.ofText` takes a URL apart,
    • `percentDecode` reads the escapes in its path,
    • `pathOfUrl` gives the path.

  Readers of URLs do not agree on everything: some leave out blank characters in front of a
  URL, and some want an address between the square brackets of a host.  `UrlRules` says what
  a reader does there.
-/
import SqlStatements.Encoding.Unicode
import SqlStatements.Files.Path
import SqlStatements.Text.Hex

namespace SqlStatements.Files

open Text

/-! ## §1. The parts of a URL. -/

/-- What readers of URLs do not agree on. -/
structure UrlRules where
  /-- The characters that are left out in front of a URL. -/
  isLeading : Char → Bool
  /-- Why a host with both square brackets is refused, if it is. -/
  addressFault : (host : List Char) → Option String
  /-- Nothing but control characters and spaces is left out. -/
  isLeading_le : ∀ c, isLeading c = true → c.toNat ≤ 32

/-- The rules of a reader that leaves nothing out and takes anything for an address. -/
def UrlRules.lenient : UrlRules :=
  { isLeading := fun _ => false, addressFault := fun _ => none, isLeading_le := nofun }

/-- The parts of a URL that say where a file is. -/
structure UrlParts where
  /-- The scheme in lower case; empty when there is none. -/
  scheme : String
  host : List Char
  path : List Char
  deriving Repr, DecidableEq

/-- The characters of a scheme after its first letter. -/
def isSchemeChar (c : Char) : Bool :=
  c.isAlphanum || c == '+' || c == '-' || c == '.'

/-- The scheme in front of the first colon, and what follows the colon. -/
def splitScheme (url : List Char) : List Char × List Char :=
  let name := url.takeWhile (· != ':')
  match url.drop name.length, name with
  | ':' :: rest, first :: _ =>
      if first.isAlpha && name.all isSchemeChar then (name.map Char.toLower, rest) else ([], url)
  | _, _ => ([], url)

/-- The characters that end the host of a URL. -/
def endsHost (c : Char) : Bool :=
  c == '/' || c == '?' || c == '#'

/-- The host after two slashes, and the rest. -/
def splitHost : List Char → List Char × List Char
  | '/' :: '/' :: rest => (rest.takeWhile (!endsHost ·), rest.dropWhile (!endsHost ·))
  | rest => ([], rest)

/-- The characters whose compatibility form holds one of `/`, `?`, `#`, `@` and `:`. -/
def disguisedDelimiters : List Nat :=
  [0x2047, 0x2048, 0x2049, 0x2100, 0x2101, 0x2105, 0x2106, 0x2A74, 0xFE13, 0xFE16, 0xFE55,
    0xFE56, 0xFE5F, 0xFE6B, 0xFF03, 0xFF0F, 0xFF1A, 0xFF1F, 0xFF20]

/-- Why a text is no URL. -/
inductive UrlFault where
  /-- The host holds one kind of square bracket without the other. -/
  | brackets
  /-- What stands in square brackets is no address. -/
  | address (reason : String)
  /-- The host holds a character that stands for a delimiter. -/
  | disguised (host : String)
  deriving Repr, DecidableEq

/-- The wording of a fault. -/
def UrlFault.message : UrlFault → String
  | .brackets => "Invalid IPv6 URL"
  | .address reason => reason
  | .disguised host =>
      s!"netloc '{host}' contains invalid characters under NFKC normalization"

/-- Why a host is refused, if it is. -/
def hostFault? (rules : UrlRules) (host : List Char) : Option UrlFault :=
  let address := if host.contains '[' then rules.addressFault host else none
  if host.contains '[' != host.contains ']' then some .brackets
  else if let some reason := address then some (.address reason)
  else if host.any fun c => disguisedDelimiters.contains c.toNat then
    some (.disguised (String.ofList host))
  else none

/-- The parts of a text as a URL, whether or not its host can be one.  Tabs and line breaks
do not count, and a question mark or a number sign ends the path. -/
def urlParts (rules : UrlRules) (url : List Char) : UrlParts :=
  let plain := (url.dropWhile rules.isLeading).filter fun c => c != '\t' && c != '\r' && c != '\n'
  let (scheme, afterScheme) := splitScheme plain
  let (host, afterHost) := splitHost afterScheme
  ⟨String.ofList scheme, host, afterHost.takeWhile fun c => c != '?' && c != '#'⟩

/-- The parts of a URL. -/
def UrlParts.ofText (rules : UrlRules) (url : List Char) : Except UrlFault UrlParts :=
  match hostFault? rules (urlParts rules url).host with
  | some fault => .error fault
  | none => .ok (urlParts rules url)

/-! ## §2. Percent escapes. -/

/-- The bytes of ASCII text with its escapes read: a percent sign and two hexadecimal
digits are one byte, and a percent sign before anything else is itself. -/
def unescape : List Char → List UInt8
  | '%' :: a :: b :: rest =>
      match Hex.value? a, Hex.value? b with
      | some high, some low => UInt8.ofNat (16 * high + low) :: unescape rest
      | _, _ => 37 :: unescape (a :: b :: rest)
  | c :: rest => UInt8.ofNat c.toNat :: unescape rest
  | [] => []
termination_by text => text.length

/-- The text of a run of ASCII characters with escapes: the bytes are read leniently. -/
def decodeRun (run : List Char) : List Char :=
  Encoding.lenient (Encoding.pieces Encoding.utf8 (unescape run))

/-- Whether a character is one of the first 128. -/
def isAscii (c : Char) : Bool := c.toNat < 128

/-- A text cut into runs of ASCII characters and runs of others. -/
def asciiRuns : List Char → List (List Char)
  | [] => []
  | c :: rest =>
      match asciiRuns rest with
      | (d :: run) :: more =>
          if isAscii c = isAscii d then (c :: d :: run) :: more else [c] :: (d :: run) :: more
      | runs => [c] :: runs

/-- A text with its percent escapes read. -/
def percentDecode (text : List Char) : List Char :=
  (asciiRuns text).flatMap fun run => if run.all isAscii then decodeRun run else run

/-- The characters that a percent encoding leaves as they are. -/
def isUnreserved (b : UInt8) : Bool :=
  let c := Char.ofNat b.toNat
  c.isAlphanum || c == '_' || c == '.' || c == '-' || c == '~' || c == '/'

/-- A byte in a percent encoding. -/
def percentByte (b : UInt8) : List Char :=
  if isUnreserved b then [Char.ofNat b.toNat] else '%' :: Hex.upperByte b

/-- A text with every byte that is not unreserved as an escape. -/
def percentEncode (text : List Char) : List Char :=
  (text.flatMap String.utf8EncodeChar).flatMap percentByte

/-! ## §3. Paths. -/

/-- Why a URL gives no path. -/
inductive UrlError where
  | malformed (fault : UrlFault)
  | remote (url : String)
  | unsupported (scheme url : String)
  deriving Repr, DecidableEq

/-- The path that a URL or a plain path names. -/
def pathOfUrl (url : String) (rules : UrlRules := .lenient) : Except UrlError Path :=
  match UrlParts.ofText rules url.toList with
  | .error fault => .error (.malformed fault)
  | .ok parts =>
      if parts.scheme = "" then .ok (Path.ofText url)
      else if parts.scheme = "file" then
        if parts.host = [] || parts.host = "localhost".toList then
          .ok (Path.ofText (String.ofList (percentDecode parts.path)))
        else .error (.remote url)
      else if parts.scheme.length = 1 then .ok (Path.ofText url)
      else .error (.unsupported parts.scheme url)

/-- The URL of a path that begins at the root. -/
def urlOfPath (path : Path) : String :=
  "file://" ++ String.ofList (percentEncode path.text.toList)

end SqlStatements.Files
