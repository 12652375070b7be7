/-
  SqlStatements.Files.Path
  ────────────────────────
  **File paths in their normal form.**

  A path is relative, or it begins at the root; exactly two slashes in front are kept
  apart from one, and three or more are one.  Empty parts and the parts that are a
  single point say nothing and are left out; the parts that are two points are kept,
  for what they lead to depends on the files.
-/
import SqlStatements.Text.Blank

namespace SqlStatements.Files

open Text

/-! ## §1. Paths. -/

/-- Where a path begins. -/
inductive Anchor where
  | relative
  | root
  /-- A root written with exactly two slashes. -/
  | doubleRoot
  deriving Repr, DecidableEq

/-- The slashes in front of a path. -/
def Anchor.text : Anchor → String
  | .relative => ""
  | .root => "/"
  | .doubleRoot => "//"

/-- A path in normal form. -/
structure Path where
  anchor : Anchor
  parts : List String
  deriving Repr, DecidableEq

namespace Path

/-- The anchor that a text begins with. -/
def anchorOf : List Char → Anchor
  | '/' :: '/' :: '/' :: _ => .root
  | '/' :: '/' :: _ => .doubleRoot
  | '/' :: _ => .root
  | _ => .relative

/-- Whether a part of a path says something. -/
def isPart (part : List Char) : Bool :=
  !part.isEmpty && part != ['.']

/-- The path that a text denotes. -/
def ofText (text : String) : Path :=
  let pieces := (text.toList.splitOn '/').filter isPart
  ⟨anchorOf text.toList, pieces.map String.ofList⟩

/-- A path as text; the path that says nothing is a single point. -/
def text (p : Path) : String :=
  match p.anchor, p.parts with
  | .relative, [] => "."
  | anchor, parts => anchor.text ++ String.intercalate "/" parts

/-- A path below another, unless it begins at the root itself. -/
def join (base below : Path) : Path :=
  match below.anchor with
  | .relative => ⟨base.anchor, base.parts ++ below.parts⟩
  | _ => below

/-- Whether the text of a path holds the character that ends a name for the system. -/
def hasNul (p : Path) : Bool :=
  p.parts.any (·.toList.contains '\x00')

end Path

end SqlStatements.Files
