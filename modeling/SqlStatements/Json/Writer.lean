/-
  SqlStatements.Json.Writer
  ─────────────────────────
  **Writing JSON text.**

  The text is printable ASCII: every other character is written by code units.  With an
  indent, each item and each member stands on a line of its own, and the containers
  that hold nothing are closed at once.
-/
import SqlStatements.Decimal.Numeral
import SqlStatements.Json.Value
import SqlStatements.Text.Hex

namespace SqlStatements.Json

open Decimal Text

/-! ## §1. Strings and numbers. -/

/-- An escape by one code unit. -/
def unitEscape (unit : Nat) : List Char :=
  ['\\', 'u'] ++ Hex.lower 4 unit

/-- One character of a string. -/
def escapeChar (c : Char) : List Char :=
  let n := c.toNat
  if c == '"' then ['\\', '"']
  else if c == '\\' then ['\\', '\\']
  else if c == '\n' then ['\\', 'n']
  else if c == '\r' then ['\\', 'r']
  else if c == '\t' then ['\\', 't']
  else if c == '\x08' then ['\\', 'b']
  else if c == '\x0c' then ['\\', 'f']
  else if 32 ≤ n && n < 127 then [c]
  else if n < 0x10000 then unitEscape n
  else unitEscape (0xD800 + (n - 0x10000) / 0x400) ++ unitEscape (0xDC00 + (n - 0x10000) % 0x400)

/-- A string between its quotes. -/
def writeString (s : String) : String :=
  String.ofList ('"' :: (s.toList.flatMap escapeChar ++ ['"']))

/-- A floating point number; the infinite ones and what is no number have words. -/
def writeReal (x : Binary64) : String :=
  if x.isNaN then "NaN"
  else if x.isInfinite then (if x.negative then "-Infinity" else "Infinity")
  else x.text

/-! ## §2. Values. -/

/-- What stands between the parts of a container at a depth. -/
structure Spacing where
  /-- The number of spaces per level; none writes everything on one line. -/
  indent : Option Nat

/-- The start of a new line at a depth, or nothing. -/
def Spacing.line (s : Spacing) (depth : Nat) : String :=
  match s.indent with
  | none => ""
  | some width => "\n" ++ String.ofList (List.replicate (width * depth) ' ')

/-- What stands between two parts at a depth. -/
def Spacing.comma (s : Spacing) (depth : Nat) : String :=
  match s.indent with
  | none => ", "
  | some _ => "," ++ s.line depth

mutual

/-- The pieces of a value whose first line is already indented. -/
def writeValue (s : Spacing) (depth : Nat) : Value → List String
  | .null => ["null"]
  | .bool b => [if b then "true" else "false"]
  | .int n => [toString n]
  | .real x => [writeReal x]
  | .string t => [writeString t]
  | .array [] => ["[]"]
  | .array (item :: items) =>
      ["[", s.line (depth + 1)] ++ writeValue s (depth + 1) item
        ++ writeItems s (depth + 1) items ++ [s.line depth, "]"]
  | .object [] => ["\x7b\x7d"]
  | .object (member :: members) =>
      ["\x7b", s.line (depth + 1)] ++ writeMember s (depth + 1) member
        ++ writeMembers s (depth + 1) members ++ [s.line depth, "\x7d"]

/-- The items after the first. -/
def writeItems (s : Spacing) (depth : Nat) : List Value → List String
  | [] => []
  | item :: items => s.comma depth :: (writeValue s depth item ++ writeItems s depth items)

/-- A member: its name and its value. -/
def writeMember (s : Spacing) (depth : Nat) : String × Value → List String
  | (name, value) => writeString name :: ": " :: writeValue s depth value

/-- The members after the first. -/
def writeMembers (s : Spacing) (depth : Nat) : List (String × Value) → List String
  | [] => []
  | member :: members => s.comma depth :: (writeMember s depth member ++ writeMembers s depth members)

end

/-- A value on a single line. -/
def compact (value : Value) : String :=
  String.join (writeValue ⟨none⟩ 0 value)

/-- A value with two spaces per level. -/
def pretty (value : Value) : String :=
  String.join (writeValue ⟨some 2⟩ 0 value)

end SqlStatements.Json
