/-
  SqlStatements.Main
  ──────────────────
  **The program: reads the files that a command line names, and prints the outcome.**

  Everything is decided by `CommandLine.run`; here the system's files are brought into
  a `Disk` and the outcome is written to the two outputs.  The program holds no grammar
  of any dialect, so `check` takes every statement for parsed.
-/
import SqlStatements.CommandLine.Run

namespace SqlStatements.Main

open CommandLine Files

/-! ## §1. What the program reads. -/

/-- A parser without a grammar. -/
def acceptAll : SqlParser := fun _ _ => .parsed

/-- The paths of the files that a request needs. -/
def neededPaths : Request → List Path
  | .split source choice _ | .check source choice _ =>
      let sources := if source = standardInput then [] else (sourcePath source).toOption.toList
      sources ++ choice.config.toList.map Path.ofText
  | _ => []

/-- Whether a request reads standard input. -/
def needsInput : Request → Bool
  | .split source _ _ | .check source _ _ => source = standardInput
  | _ => false

/-- The number of the system for a directory in the place of a file. -/
def directoryNumber : UInt32 := 21

/-- A disk with what the system holds at a path.  Nothing at all is nothing on the disk,
a directory an empty one, and where a file stands in the place of a directory there is a
file; a name that the system does not take is refused by the disk in the same way. -/
def load (disk : Disk) (path : Path) : IO Disk := do
  try
    let content ← IO.FS.readBinFile path.text
    return disk.write path content.toList
  catch error =>
    match error with
    | .noFileOrDirectory .. | .invalidArgument .. => return disk
    | .inappropriateType _ number _ =>
        if number = directoryNumber then return disk.makeDirectory path
        else return disk.write ⟨path.anchor, path.parts.dropLast⟩ []
    | other => throw other

/-- The rest of standard input. -/
partial def readInput (stream : IO.FS.Stream) (before : ByteArray) : IO ByteArray := do
  let part ← stream.read 65536
  if part.isEmpty then return before
  readInput stream (before ++ part)

/-- The text on standard input: UTF-8, with every line break as a line feed. -/
def inputText : IO String := do
  let bytes ← readInput (← IO.getStdin) ByteArray.empty
  match Encoding.Codec.utf8.decode bytes.toList with
  | .ok chars => return String.ofList (unifyLines chars)
  | .error error => throw (IO.userError error.message)

/-! ## §2. The program. -/

/-- What a request finds around it. -/
def environment (request : Request) : IO Environment := do
  let empty : Disk := ⟨.directory [], []⟩
  let disk ← (neededPaths request).foldlM load empty
  let input ← if needsInput request then inputText else pure ""
  return ⟨disk, input, acceptAll⟩

/-- Writes an outcome, and gives its status. -/
def report (outcome : Outcome) : IO UInt32 := do
  IO.print outcome.output
  match outcome.abort with
  | some abort => IO.eprintln s!"Error: {abort.message}"
  | none => pure ()
  return UInt32.ofNat outcome.status

/-- Carries out a command line. -/
def start (words : List String) : IO UInt32 := do
  match Request.ofWords words with
  | .ok request => report (request.run (← environment request))
  | .error error => report (.ofRequestError error)

end SqlStatements.Main

/-- The program. -/
def main (words : List String) : IO UInt32 := SqlStatements.Main.start words
