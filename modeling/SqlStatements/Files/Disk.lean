/-
  SqlStatements.Files.Disk
  ────────────────────────
  **A tree of files, and what the system says of a path in it.**

  A disk is a tree of directories and files together with the directory that relative
  paths begin in.  A path is followed part by part, so `d/../a` needs the directory
  `d`; every failure is one of a few faults, each with the number and the wording of
  the system.

  All that is on a disk may be looked at, and no input fails: there is no fault for an access
  that is denied, nor for a device that gives out.  Links are left out too.
-/
import SqlStatements.Files.Path
import SqlStatements.Text.Quoted

namespace SqlStatements.Files

/-! ## §1. Trees. -/

/-- A file with its bytes, or a directory with its named entries. -/
inductive Entry where
  | file (content : List UInt8)
  | directory (entries : List (String × Entry))
  deriving Repr, Inhabited

namespace Entry

/-- The entries of a directory; a file has none. -/
def children : Entry → List (String × Entry)
  | .file _ => []
  | .directory entries => entries

/-- Whether an entry is a directory. -/
def isDirectory : Entry → Bool
  | .file _ => false
  | .directory _ => true

/-- Whether an entry is a file. -/
def isFile (e : Entry) : Bool := !e.isDirectory

/-- The entry of a directory that has the given name. -/
def child? (e : Entry) (name : String) : Option Entry :=
  (e.children.find? (·.1 == name)).map (·.2)

/-- A directory with the entry of `name` replaced, added or removed. -/
def setChild (e : Entry) (name : String) (entry : Option Entry) : Entry :=
  let others := e.children.filter (·.1 != name)
  .directory (others ++ (entry.map (name, ·)).toList)

/-- A tree with the entry at the given parts replaced, added or removed; directories on
the way are made. -/
def setAt (e : Entry) : (parts : List String) → Option Entry → Entry
  | [], entry => entry.getD e
  | [name], entry => e.setChild name entry
  | name :: rest, entry =>
      let inner := (e.child? name).getD (.directory [])
      e.setChild name (some (inner.setAt rest entry))

/-- The entry at the given parts. -/
def at? (e : Entry) : (parts : List String) → Option Entry
  | [] => some e
  | name :: rest =>
      match e.child? name with
      | some inner => inner.at? rest
      | none => none

/-- A tree with a directory at the given parts, unless one is there already. -/
def makeDirectory (e : Entry) (parts : List String) : Entry :=
  match e.at? parts with
  | some (.directory _) => e
  | _ => e.setAt parts (some (.directory []))

end Entry

/-- A tree of files and the directory that relative paths begin in. -/
structure Disk where
  root : Entry
  /-- The parts of the path of the current directory. -/
  current : List String
  deriving Inhabited

/-! ## §2. Faults. -/

/-- What the system says of a path that leads to nothing useful.  That access is denied, that an
input fails and that links go in a circle are left out: none of them can be on a `Disk`. -/
inductive Fault where
  | notFound
  | notDirectory
  | isDirectory
  | nameTooLong
  /-- The path holds the character that ends a name. -/
  | embeddedNul
  deriving Repr, DecidableEq

/-- The number and the words of the system for a fault. -/
def Fault.system : Fault → Option (Nat × String)
  | .notFound => some (2, "No such file or directory")
  | .notDirectory => some (20, "Not a directory")
  | .isDirectory => some (21, "Is a directory")
  | .nameTooLong => some (36, "File name too long")
  | .embeddedNul => none

/-- The wording of a fault found at a path. -/
def Fault.message (path : Path) (fault : Fault) : String :=
  match fault.system with
  | some (number, words) => s!"[Errno {number}] {words}: {Text.Quoted.text path.text}"
  | none => "embedded null byte"

/-! ## §3. Following a path. -/

/-- The longest name of an entry, and the length that no path reaches, in bytes. -/
def nameLimit : Nat := 255

/-- The length in bytes that no path reaches. -/
def pathLimit : Nat := 4096

/-- The entry that the parts lead to from `here`; `above` are the directories on the way
to it, the nearest first. -/
def follow (above : List Entry) (here : Entry) : List String → Except Fault Entry
  | [] => .ok here
  | part :: rest =>
      if !here.isDirectory then .error .notDirectory
      else if part = ".." then
        match above with
        | [] => follow [] here rest
        | parent :: more => follow more parent rest
      else if nameLimit < part.utf8ByteSize then .error .nameTooLong
      else
        match here.child? part with
        | none => .error .notFound
        | some entry => follow (here :: above) entry rest

namespace Disk

/-- The parts of a path counted from the root. -/
def absoluteParts (disk : Disk) (path : Path) : List String :=
  match path.anchor with
  | .relative => disk.current ++ path.parts
  | _ => path.parts

/-- The current directory as a path. -/
def currentPath (disk : Disk) : Path := ⟨.root, disk.current⟩

/-- The entry at a path. -/
def entry (disk : Disk) (path : Path) : Except Fault Entry :=
  if path.hasNul then .error .embeddedNul
  else if pathLimit ≤ path.text.utf8ByteSize then .error .nameTooLong
  else follow [] disk.root (disk.absoluteParts path)

/-- The bytes of the file at a path. -/
def readFile (disk : Disk) (path : Path) : Except Fault (List UInt8) :=
  match disk.entry path with
  | .error fault => .error fault
  | .ok (.file content) => .ok content
  | .ok (.directory _) => .error .isDirectory

/-- The answer to a question about the entry at a path.  A path that leads nowhere is
answered by `false`; a name that is too long is a fault. -/
def ask (disk : Disk) (path : Path) (question : Entry → Bool) : Except Fault Bool :=
  match disk.entry path with
  | .ok entry => .ok (question entry)
  | .error .nameTooLong => .error .nameTooLong
  | .error _ => .ok false

/-- Whether there is anything at a path. -/
def exists? (disk : Disk) (path : Path) : Except Fault Bool := disk.ask path fun _ => true

/-- Whether there is a directory at a path. -/
def isDirectory (disk : Disk) (path : Path) : Except Fault Bool := disk.ask path Entry.isDirectory

/-- Whether there is a file at a path. -/
def isFile (disk : Disk) (path : Path) : Except Fault Bool := disk.ask path Entry.isFile

/-- The entries of the directory at a path. -/
def list (disk : Disk) (path : Path) : List (String × Entry) :=
  match disk.entry path with
  | .ok entry => entry.children
  | .error _ => []

/-! ## §4. Changes. -/

/-- The parts that lead straight to where `parts` lead: two points take back the part
before them. -/
def straight (parts : List String) : List String :=
  (parts.foldl (fun above part => if part = ".." then above.tail else part :: above) []).reverse

/-- The disk with a directory wherever the parts pass through. -/
def makeWay (disk : Disk) (parts : List String) : Disk :=
  let stops := (List.range (parts.length + 1)).map fun n => straight (parts.take n)
  { disk with root := stops.foldl Entry.makeDirectory disk.root }

/-- The disk with a file at a path; the directories on the way are made. -/
def write (disk : Disk) (path : Path) (content : List UInt8) : Disk :=
  let parts := disk.absoluteParts path
  let ready := disk.makeWay parts.dropLast
  { ready with root := ready.root.setAt (straight parts) (some (.file content)) }

/-- The disk with a directory at a path and on the way to it. -/
def makeDirectory (disk : Disk) (path : Path) : Disk :=
  disk.makeWay (disk.absoluteParts path)

/-- The disk without the entry at a path. -/
def remove (disk : Disk) (path : Path) : Disk :=
  { disk with root := disk.root.setAt (straight (disk.absoluteParts path)) none }

end Disk

end SqlStatements.Files
