/-
  SqlStatements.Console.Screen
  ────────────────────────────
  **What is printed on the console.**

  Some control characters are not printed, and a tab moves on to the next of the columns
  that are multiples of eight.  `shownMarkup` shows a text with tags; `printed` shows one as
  it is, and ends the line.

  `written` is for text that another program may read: its tabs and control characters
  stay, and only the sequences that colour a terminal are taken out.

  A program prints through a `Printer`, of which it knows nothing but that it has these three
  ways to show a text.  `Printer.standard` shows texts as it is described here: on a screen
  that is wide enough for every line, without colours, and with words between colons left
  as they are.
-/
import SqlStatements.Console.Markup
import SqlStatements.Text.CellWidth

namespace SqlStatements.Console

open Text

/-! ## §1. Characters. -/

/-- The distance between two tab stops. -/
def tabWidth : Nat := 8

/-- The parts of a line between its tabs, put together with spaces, from `column` on.  A
tab is one space, and as many more as lead to the next tab stop. -/
def joinAtStops (column : Nat) : List (List Char) → List Char
  | [] => []
  | [last] => last
  | part :: rest =>
      let spaced := part ++ [' ']
      let reached := column + textWidth spaced
      let missing := (tabWidth - reached % tabWidth) % tabWidth
      spaced ++ List.replicate missing ' ' ++ joinAtStops (reached + missing) rest

/-- A line with its tabs as spaces. -/
def expandTabs (line : List Char) : List Char :=
  joinAtStops 0 (line.splitOn '\t')

/-- A text as it appears on the console. -/
def visible (text : List Char) : List Char :=
  List.intercalate ['\n'] ((lines text).map expandTabs)

/-! ## §2. Terminal sequences. -/

/-- The character that begins a sequence for the terminal. -/
def escapeChar : Char := '\x1b'

/-- The length of the sequence that a text begins with: the escape character, a square
bracket, any number of digits and marks, and an ASCII letter. -/
def sequenceLength? : List Char → Option Nat
  | e :: '[' :: rest =>
      let parameters := rest.takeWhile fun c => c.isDigit || c == ';' || c == '?'
      match rest.drop parameters.length with
      | c :: _ => if e = escapeChar && c.isAlpha then some (parameters.length + 3) else none
      | [] => none
  | _ => none

/-- A text without its sequences; `skip` characters belong to one that has begun. -/
def dropSequences (skip : Nat) : List Char → List Char
  | [] => []
  | c :: rest =>
      match skip with
      | more + 1 => dropSequences more rest
      | 0 =>
          match sequenceLength? (c :: rest) with
          | some size => dropSequences (size - 1) rest
          | none => c :: dropSequences 0 rest

/-! ## §3. Lines. -/

/-- A text written for another program to read. -/
def written (text : String) : String :=
  String.ofList (dropSequences 0 text.toList) ++ "\n"

/-- A text printed as it is. -/
def printed (text : String) : String :=
  String.ofList (visible (text.toList.filter (!isSilent ·))) ++ "\n"

/-- A text with tags as it appears on the console. -/
def shownMarkup (text : String) : Except MarkupError String :=
  (render text.toList).map fun chars => String.ofList (visible chars)

/-! ## §4. Printers. -/

/-- A console that a program prints on. -/
structure Printer where
  /-- What is shown of a text with tags, before the end of the line. -/
  marked : String → Except MarkupError String
  /-- What is printed of a text in which nothing is a tag. -/
  plain : String → String
  /-- What is printed of a text that another program may read. -/
  echo : String → String

/-- The console that is described here. -/
def Printer.standard : Printer := { marked := shownMarkup, plain := printed, echo := written }

/-- A line with tags printed. -/
def Printer.markedLine (printer : Printer) (text : String) : Except MarkupError String :=
  (printer.marked text).map (· ++ "\n")

end SqlStatements.Console
