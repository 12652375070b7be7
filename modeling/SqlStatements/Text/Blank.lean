/-
  SqlStatements.Text.Blank
  ────────────────────────
  **Blank characters, and cutting them off the ends of a text.**

  Two sets of white space matter in a script:

    • `isBlank`      — every white-space character, the set that decides whether a
                       line is blank and what a statement loses at its two ends,
    • `isLineTail`   — space, tab and carriage return, the only characters that a
                       line of code loses at its right end.

  `strip` and `dropTrailing` cut by such a set.
-/

namespace SqlStatements.Text

/-! ## §1. The two sets. -/

/-- White space of any kind: the tabs, line and page breaks, the four information
separators, and every space and line separator of the wider character set.  The
zero-width characters are not blank. -/
def isBlank (c : Char) : Bool :=
  let n := c.toNat
  (9 ≤ n && n ≤ 13) || (28 ≤ n && n ≤ 32) || n == 0x85 || n == 0xA0 || n == 0x1680
    || (0x2000 ≤ n && n ≤ 0x200A) || n == 0x2028 || n == 0x2029 || n == 0x202F
    || n == 0x205F || n == 0x3000

/-- The characters that a line of code may end in without saying anything. -/
def isLineTail (c : Char) : Bool :=
  c == ' ' || c == '\t' || c == '\r'

/-- White space of the first 128 characters, the separators left out: what may
stand between the digits of a number or a byte string and its surroundings. -/
def isAsciiSpace (c : Char) : Bool :=
  let n := c.toNat
  (9 ≤ n && n ≤ 13) || n == 32

/-! ## §2. Cutting. -/

/-- A list without its longest final stretch inside `p`. -/
def dropTrailing {α : Type} (p : α → Bool) : List α → List α
  | [] => []
  | a :: rest =>
      match dropTrailing p rest with
      | [] => if p a then [] else [a]
      | kept => a :: kept

/-- A text without the blank characters at its two ends. -/
def strip (text : List Char) : List Char :=
  dropTrailing isBlank (text.dropWhile isBlank)

/-! ## §3. Lines. -/

/-- The lines of a text: cut at each line feed, which is left out. -/
def lines (text : List Char) : List (List Char) :=
  text.splitOn '\n'

end SqlStatements.Text
