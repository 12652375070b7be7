/-
  SqlStatements.Console.Colour
  ────────────────────────────
  **Which words name a colour.**

  A colour has a name, a number below 256 as in `color(7)`, six hexadecimal digits as
  in `#ff8000`, or three numbers below 256 as in `rgb(255,128,0)`.  A word is compared
  in lower case.  The numbers after `rgb` may be in the digits of any script; one that
  is missing is a fault, not another kind of word.
-/
import SqlStatements.Decimal.Whole
import SqlStatements.Text.LowerCase

namespace SqlStatements.Console

open Decimal Text

/-! ## §1. Names. -/

/-- The eight basic colours. -/
def basicColours : List String :=
  ["black", "red", "green", "yellow", "blue", "magenta", "cyan", "white"]

/-- The greys, by how many hundredths of white they have. -/
def greyLevels : List Nat :=
  [ 0, 3, 7, 11, 15, 19, 23, 27, 30, 35, 37, 39, 42, 46, 50, 53, 54, 58, 62, 63, 66, 69, 70,
    74, 78, 82, 84, 85, 89, 93, 100 ]

/-- The names of further colours. -/
def furtherColours : List String :=
  [
    "navy_blue", "dark_blue", "blue3", "blue1", "dark_green", "deep_sky_blue4",
    "dodger_blue3", "dodger_blue2", "green4", "spring_green4", "turquoise4",
    "deep_sky_blue3", "dodger_blue1", "green3", "spring_green3", "dark_cyan",
    "light_sea_green", "deep_sky_blue2", "deep_sky_blue1", "spring_green2", "cyan3",
    "dark_turquoise", "turquoise2", "green1", "spring_green1", "medium_spring_green",
    "cyan2", "cyan1", "dark_red", "deep_pink4", "purple4", "purple3", "blue_violet",
    "orange4", "medium_purple4", "slate_blue3", "royal_blue1", "chartreuse4",
    "dark_sea_green4", "pale_turquoise4", "steel_blue", "steel_blue3", "cornflower_blue",
    "chartreuse3", "cadet_blue", "sky_blue3", "steel_blue1", "pale_green3", "sea_green3",
    "aquamarine3", "medium_turquoise", "chartreuse2", "sea_green2", "sea_green1",
    "aquamarine1", "dark_slate_gray2", "dark_magenta", "dark_violet", "purple",
    "light_pink4", "plum4", "medium_purple3", "slate_blue1", "yellow4", "wheat4",
    "light_slate_grey", "light_slate_gray", "medium_purple", "light_slate_blue",
    "dark_olive_green3", "dark_sea_green", "light_sky_blue3", "sky_blue2",
    "dark_sea_green3", "dark_slate_gray3", "sky_blue1", "chartreuse1", "light_green",
    "pale_green1", "dark_slate_gray1", "red3", "medium_violet_red", "magenta3",
    "dark_orange3", "indian_red", "hot_pink3", "medium_orchid3", "medium_orchid",
    "medium_purple2", "dark_goldenrod", "light_salmon3", "rosy_brown", "medium_purple1",
    "gold3", "dark_khaki", "navajo_white3", "light_steel_blue3", "light_steel_blue",
    "yellow3", "dark_sea_green2", "light_cyan3", "light_sky_blue1", "green_yellow",
    "dark_olive_green2", "dark_sea_green1", "pale_turquoise1", "deep_pink3", "magenta2",
    "hot_pink2", "orchid", "medium_orchid1", "orange3", "light_pink3", "pink3", "plum3",
    "violet", "light_goldenrod3", "tan", "misty_rose3", "thistle3", "plum2", "khaki3",
    "light_goldenrod2", "light_yellow3", "light_steel_blue1", "yellow2",
    "dark_olive_green1", "honeydew2", "light_cyan1", "red1", "deep_pink2", "deep_pink1",
    "magenta1", "orange_red1", "indian_red1", "hot_pink", "dark_orange", "salmon1",
    "light_coral", "pale_violet_red1", "orchid2", "orchid1", "orange1", "sandy_brown",
    "light_salmon1", "light_pink1", "pink1", "plum1", "gold1", "navajo_white1",
    "misty_rose1", "thistle1", "yellow1", "light_goldenrod1", "khaki1", "wheat1",
    "cornsilk1"
  ]

/-- Whether a word is the name of a colour. -/
def isColourName (word : String) : Bool :=
  word == "default" || basicColours.contains word
    || basicColours.any (fun c => word == "bright_" ++ c)
    || greyLevels.any (fun n => word == s!"grey{n}" || word == s!"gray{n}")
    || furtherColours.contains word

/-! ## §2. Numbers. -/

/-- The numbers of a colour are below this one. -/
def colourCount : Nat := 256

/-- What stands between `name(` and a closing bracket at the end, if a word is of that
form. -/
def between? (name : String) (word : List Char) : Option (List Char) :=
  let start := name.toList ++ ['(']
  if start.isPrefixOf word && word.getLast? == some ')' && start.length < word.length then
    some (word.drop start.length).dropLast
  else none

/-- Whether a word is `#` and six hexadecimal digits. -/
def isHexColour : List Char → Bool
  | '#' :: digits => digits.length == 6 && digits.all fun c => (Hex.value? c).isSome
  | _ => false

/-- Whether a word is a number of at most three digits, below 256, between the brackets
of `color(…)`. -/
def isNumberedColour (word : List Char) : Bool :=
  (between? "color" word).any fun digits =>
    1 ≤ digits.length && digits.length ≤ 3 && digits.all Char.isDigit
      && numberOf digits < colourCount

/-- The fault of a number that cannot be read, with the number. -/
structure NumberFault where
  raw : List Char
  fault : WholeFault
  deriving Repr, DecidableEq

/-- The wording of a fault. -/
def NumberFault.message (f : NumberFault) : String := f.fault.message f.raw

/-- The number of a part of `rgb(…)`. -/
def readPart (part : List Char) : Except NumberFault Int :=
  (readWhole part).mapError (⟨part, ·⟩)

/-- Whether a word is three numbers below 256 between the brackets of `rgb(…)`. -/
def isMixedColour (word : List Char) : Except NumberFault Bool :=
  match between? "rgb" word with
  | none => .ok false
  | some inner =>
      let parts := inner.splitOn ','
      let isPart := fun (c : Char) => c == ',' || (decimalDigit? c).isSome
      if !inner.isEmpty && inner.all isPart && parts.length == 3 then
        (parts.mapM readPart).map fun numbers => numbers.all (· < colourCount)
      else .ok false

/-! ## §3. Colours. -/

/-- Whether a word in lower case names a colour. -/
def isColour (word : String) : Except NumberFault Bool :=
  let chars := word.toList
  if isColourName word || isHexColour chars || isNumberedColour chars then .ok true
  else isMixedColour chars

end SqlStatements.Console
