/-
  SqlStatements.Files.Resource
  ────────────────────────────
  **Finding a script by name in a directory or a package.**

  A resource is asked for by a name and an extension.  With a name, it is the file of
  that name with the extension after it.  Without a name, it is the first file in the
  order of names, by code point, among the files that end in the extension; directories
  do not count.  Nothing found is no error.

  A package is named by parts with points between them.  Each part is a directory with
  or without an `__init__.py`; a plain file `part.py` is a module and holds nothing.
-/
import SqlStatements.Files.Source

namespace SqlStatements.Files

/-! ## §1. Where to look. -/

/-- Where a resource is looked for. -/
inductive Location where
  | current
  | directory (path : Path)
  /-- A package, by its name. -/
  | package (name : String)
  /-- A module that has been taken in before, by its name. -/
  | module (name : String)
  deriving Repr, DecidableEq

/-- Why a resource cannot be looked for. -/
inductive ResourceError where
  | emptyName
  | relativeName (name : String)
  | missingModule (name : String)
  /-- A plain module, as it is shown, stands where a package was asked for. -/
  | notPackage (shown : String)
  | fault (path : Path) (fault : Fault)
  deriving Repr, DecidableEq

/-- The wording of an error. -/
def ResourceError.message : ResourceError → String
  | .emptyName => "Empty module name"
  | .relativeName name =>
      "the 'package' argument is required to perform a relative import for "
        ++ Text.Quoted.text name
  | .missingModule name => "No module named " ++ Text.Quoted.text name
  | .notPackage shown => s!"{shown} is not a package"
  | .fault path reason => reason.message path

/-! ## §2. Packages. -/

/-- What a name stands for in a directory of packages. -/
inductive PackageEntry where
  | package (directory : Path)
  | plainModule (file : Path)
  deriving Repr, DecidableEq

/-- A question about a path, any fault counting as no. -/
def holds (answer : Except Fault Bool) : Bool :=
  match answer with
  | .ok b => b
  | .error _ => false

/-- What one part of a name stands for: a directory with an `__init__.py` comes before a
plain module, and that before any other directory. -/
def packageEntry? (disk : Disk) (base : Path) (part : String) : Option PackageEntry :=
  let directory : Path := ⟨base.anchor, base.parts ++ [part]⟩
  let init : Path := ⟨base.anchor, base.parts ++ [part, "__init__.py"]⟩
  let file : Path := ⟨base.anchor, base.parts ++ [part ++ ".py"]⟩
  if part = "" then none
  else if holds (disk.isFile init) then some (.package directory)
  else if holds (disk.isFile file) then some (.plainModule file)
  else if holds (disk.isDirectory directory) then some (.package directory)
  else none

/-- What a name in parts stands for, searched from `base` on; nothing lies below a plain
module. -/
def findPackage (disk : Disk) (base : Path) : List String → Option PackageEntry
  | [] => none
  | [part] => packageEntry? disk base part
  | part :: rest =>
      match packageEntry? disk base part with
      | some (.package directory) => findPackage disk directory rest
      | _ => none

/-- What the name of a package or module stands for. -/
def resolveName (disk : Disk) (name : String) : Except ResourceError (Option PackageEntry) :=
  if name = "" then .error .emptyName
  else if name.toList.head? = some '.' then .error (.relativeName name)
  else
    let parts := (name.toList.splitOn '.').map String.ofList
    .ok (findPackage disk disk.currentPath parts)

/-- The directory of a location, if there is one. -/
def locationRoot (disk : Disk) : Location → Except ResourceError (Option Path)
  | .current => .ok (some disk.currentPath)
  | .directory path => .ok (some path)
  | .package name =>
      match resolveName disk name with
      | .error error => .error error
      | .ok none => .ok none
      | .ok (some (.package directory)) => .ok (some directory)
      | .ok (some (.plainModule _)) => .error (.notPackage (Text.Quoted.text name))
  | .module name =>
      match resolveName disk name with
      | .error error => .error error
      | .ok none => .error (.missingModule name)
      | .ok (some (.package directory)) => .ok (some directory)
      | .ok (some (.plainModule file)) =>
          let shown := Text.Quoted.text name ++ " from " ++ Text.Quoted.text file.text
          .error (.notPackage s!"<module {shown}>")

/-! ## §3. Resources. -/

/-- The end of a resource's file name: an extension with a point in front, or
nothing. -/
def suffixOf (extension : Option String) : String :=
  match extension with
  | none => ""
  | some e => if e = "" then "" else if e.toList.head? = some '.' then e else "." ++ e

/-- The least of some names in the order of code points. -/
def leastName : List String → Option String
  | [] => none
  | name :: rest =>
      match leastName rest with
      | none => some name
      | some other => some (if other < name then other else name)

/-- The path of an entry of a directory. -/
def entryPath (root : Path) (name : String) : Path := ⟨root.anchor, root.parts ++ [name]⟩

/-- The names in `root` that end in `suffix` and are those of files.  Every name is asked
for at its own path, also where its end rules it out, so that a path that is too long is a
fault. -/
def matchingNames (disk : Disk) (root : Path) (suffix : String) :
    List String → Except ResourceError (List String)
  | [] => .ok []
  | name :: rest =>
      match disk.isFile (entryPath root name) with
      | .error fault => .error (.fault (entryPath root name) fault)
      | .ok isFile =>
          let wanted := isFile && suffix.toList.isSuffixOf name.toList
          (matchingNames disk root suffix rest).map fun names =>
            if wanted then name :: names else names

/-- The file of a resource below a directory. -/
def resourceIn (disk : Disk) (root : Path) (name : Option String) (suffix : String) :
    Except ResourceError (Option Path) :=
  match name with
  | some name =>
      let candidate := root.join (Path.ofText (name ++ suffix))
      match disk.isFile candidate with
      | .ok found => .ok (if found then some candidate else none)
      | .error fault => .error (.fault candidate fault)
  | none =>
      (matchingNames disk root suffix ((disk.list root).map (·.1))).map fun names =>
        (leastName names).map (entryPath root)

/-- The file of a resource; `none` when nothing matches. -/
def findResource (disk : Disk) (name extension : Option String) (location : Location) :
    Except ResourceError (Option Path) :=
  let suffix := suffixOf extension
  if name.isNone && suffix = "" then .ok none
  else
    match locationRoot disk location with
    | .error error => .error error
    | .ok none => .ok none
    | .ok (some root) =>
        match disk.isDirectory root with
        | .error fault => .error (.fault root fault)
        | .ok false => .ok none
        | .ok true => resourceIn disk root name suffix

/-! ## §4. Scripts. -/

/-- Why a script cannot be loaded from a resource. -/
inductive ResourceLoadError where
  | lookup (error : ResourceError)
  | load (error : LoadError)
  deriving Repr, DecidableEq

/-- The script in a resource; `none` when nothing matches. -/
def scriptOfResource (disk : Disk) (name extension : Option String) (location : Location)
    (encoding : Option String) (settings : Settings)
    (codecs : Encoding.ForeignCodecs := Encoding.noForeignCodecs) :
    Except ResourceLoadError (Option Script) :=
  match findResource disk name extension location with
  | .error error => .error (.lookup error)
  | .ok none => .ok none
  | .ok (some path) =>
      match scriptOfFile disk path encoding settings codecs with
      | .ok script => .ok (some script)
      | .error error => .error (.load error)

end SqlStatements.Files
