/-
  SqlStatements.Files.Source
  ──────────────────────────
  **Reading the text of a script from a file, and every way in which that fails.**

  A file is read as bytes and decoded by the name of an encoding.  The failures that a
  caller is told of are the constructors of `SourceError`, each with a code; a path or
  an encoding with a character that ends a name, a text that is no URL, and an encoding
  that breaks down are told of in other ways (`LoadError`).
-/
import SqlStatements.Encoding.Codec
import SqlStatements.Files.Disk
import SqlStatements.Files.Url
import SqlStatements.Script.Collection

namespace SqlStatements.Files

open Encoding (ForeignCodecs noForeignCodecs)

/-! ## §1. Failures. -/

/-- Why the text of a script cannot be had. -/
inductive SourceError where
  | missing (path : Path)
  | unreadable (path : Path) (fault : Fault)
  | undecodable (path : Path) (encoding : String) (error : Encoding.DecodeError)
  | remote (url : String)
  | unsupported (scheme url : String)
  deriving Repr, DecidableEq

/-- The code of a failure. -/
def SourceError.code : SourceError → String
  | .missing _ => "file_not_found"
  | .unreadable _ _ => "read_failed"
  | .undecodable _ _ _ => "decode_failed"
  | .remote _ | .unsupported _ _ => "unsupported_scheme"

/-- The wording of a failure. -/
def SourceError.message : SourceError → String
  | .missing path => s!"Script file not found: {path.text}"
  | .unreadable path fault => s!"Cannot read script file {path.text}: {fault.message path}"
  | .undecodable path encoding error =>
      s!"Cannot decode script file {path.text} as {encoding}: {error.message}"
  | .remote url => s!"Remote file URLs are not supported: {url}"
  | .unsupported scheme url => s!"Unsupported URL scheme '{scheme}': {url}"

/-- Why a script cannot be loaded. -/
inductive LoadError where
  | source (error : SourceError)
  | nulInPath
  | nulInEncoding
  | malformedUrl (fault : UrlFault)
  /-- An encoding fails in a way of its own. -/
  | brokenCodec (message : String)
  deriving Repr, DecidableEq

/-- The wording of an error. -/
def LoadError.message : LoadError → String
  | .source error => error.message
  | .nulInPath => "embedded null byte"
  | .nulInEncoding => "embedded null character"
  | .malformedUrl fault => fault.message
  | .brokenCodec message => message

/-! ## §2. Reading. -/

/-- The bytes of a script file. -/
def readBytes (disk : Disk) (path : Path) : Except LoadError (List UInt8) :=
  match disk.readFile path with
  | .ok content => .ok content
  | .error .embeddedNul => .error .nulInPath
  | .error .notFound => .error (.source (.missing path))
  | .error fault => .error (.source (.unreadable path fault))

/-- The text of a script file. -/
def readText (disk : Disk) (path : Path) (encoding : String)
    (codecs : ForeignCodecs := noForeignCodecs) : Except LoadError String :=
  match readBytes disk path with
  | .error error => .error error
  | .ok content =>
      if encoding.toList.contains '\x00' then .error .nulInEncoding
      else
        match Encoding.decode encoding content codecs with
        | .ok chars => .ok (String.ofList chars)
        | .error (.error reason) => .error (.source (.undecodable path encoding reason))
        | .error (.breakdown message) => .error (.brokenCodec message)

/-- The path that a URL or a plain path names. -/
def sourcePath (url : String) (rules : UrlRules := .lenient) : Except LoadError Path :=
  match pathOfUrl url rules with
  | .ok path => .ok path
  | .error (.malformed fault) => .error (.malformedUrl fault)
  | .error (.remote url) => .error (.source (.remote url))
  | .error (.unsupported scheme url) => .error (.source (.unsupported scheme url))

/-! ## §3. Scripts. -/

/-- The encoding to read with: the one asked for, unless it is left out or empty. -/
def chosenEncoding (asked : Option String) (settings : Settings) : String :=
  match asked with
  | some name => if name = "" then settings.encoding else name
  | none => settings.encoding

/-- The script in a file. -/
def scriptOfFile (disk : Disk) (path : Path) (encoding : Option String) (settings : Settings)
    (codecs : ForeignCodecs := noForeignCodecs) : Except LoadError Script :=
  (readText disk path (chosenEncoding encoding settings) codecs).map (Script.ofText · settings)

/-- The script that a URL or a plain path names. -/
def scriptOfUrl (disk : Disk) (url : String) (encoding : Option String) (settings : Settings)
    (rules : UrlRules := .lenient) (codecs : ForeignCodecs := noForeignCodecs) :
    Except LoadError Script :=
  match sourcePath url rules with
  | .error error => .error error
  | .ok path => scriptOfFile disk path encoding settings codecs

end SqlStatements.Files
