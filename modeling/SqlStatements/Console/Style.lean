/-
  SqlStatements.Console.Style
  ───────────────────────────
  **Names of text styles, and when two of them are the same.**

  A style is a list of words: attributes such as `bold`, each with a short name and
  possibly preceded by `not`, a colour, a background after `on`, and the target of a
  link after `link`.  Two names are the same when they say the same in any order.  A
  name that is no style is compared without regard to case.
-/
import SqlStatements.Console.Colour

namespace SqlStatements.Console

open Text

/-! ## §1. Words. -/

/-- The attributes in the order in which a style lists them, each with its names. -/
def attributes : List (String × List String) :=
  [ ("bold", ["bold", "b"]), ("dim", ["dim", "d"]), ("italic", ["italic", "i"]),
    ("underline", ["underline", "u"]), ("blink", ["blink"]), ("blink2", ["blink2"]),
    ("reverse", ["reverse", "r"]), ("conceal", ["conceal", "c"]), ("strike", ["strike", "s"]),
    ("underline2", ["underline2", "uu"]), ("frame", ["frame"]), ("encircle", ["encircle"]),
    ("overline", ["overline", "o"]) ]

/-- The attribute of a name. -/
def attribute? (word : String) : Option String :=
  (attributes.find? fun a => a.2.contains word).map (·.1)

/-! ## §2. Styles. -/

/-- What a style says. -/
structure Style where
  /-- Attributes that are switched on or off, the latest first. -/
  switches : List (String × Bool) := []
  colour : Option String := none
  background : Option String := none
  link : Option String := none
  deriving Repr, DecidableEq

/-- A word in lower case. -/
def lowerWord (word : String) : String :=
  String.ofList (lowerCase word.toList)

/-- A style that goes on with the colour `word`; `none` when that is no colour. -/
def Style.withColour (word : String) (style : Style) : Except NumberFault (Option Style) :=
  (isColour word).map fun known => if known then some style else none

/-- A style that goes on with a single word; `none` when that says nothing. -/
def Style.withWord (style : Style) (name : String) : Except NumberFault (Option Style) :=
  match attribute? name with
  | some a => .ok (some { style with switches := (a, true) :: style.switches })
  | none => Style.withColour name { style with colour := some name }

/-- A style that goes on with a word and its object, which follows `on`, `not` or
`link`; nothing when the word takes no object. -/
def Style.withObject? (style : Style) (name object : String) :
    Option (Except NumberFault (Option Style)) :=
  if name = "on" then
    let colour := lowerWord object
    some (Style.withColour colour { style with background := some colour })
  else if name = "not" then
    some (.ok ((attribute? object).map fun a =>
      { style with switches := (a, false) :: style.switches }))
  else if name = "link" then some (.ok (some { style with link := some object }))
  else none

/-- The words of a style, read into what has been said so far; `none` when they are no
style. -/
def Style.read (style : Style) : List String → Except NumberFault (Option Style)
  | [] => .ok (some style)
  | [word] => style.withWord (lowerWord word)
  | word :: object :: rest =>
      let name := lowerWord word
      match style.withObject? name object with
      | some (.ok (some next)) => Style.read next rest
      | some other => other
      | none =>
          match style.withWord name with
          | .ok (some next) => Style.read next (object :: rest)
          | other => other

/-- What a style says of an attribute. -/
def Style.switchText (style : Style) (wanted : String) : List String :=
  match style.switches.find? (·.1 == wanted) with
  | some (_, true) => [wanted]
  | some (_, false) => ["not " ++ wanted]
  | none => []

/-- The words of a style in their fixed order. -/
def Style.words (style : Style) : List String :=
  attributes.flatMap (fun a => style.switchText a.1) ++ style.colour.toList
    ++ (style.background.map ("on " ++ ·)).toList ++ (style.link.map ("link " ++ ·)).toList

/-- The words between blank characters. -/
def blankWords (text : List Char) : List String :=
  ((text.splitOnP isBlank).filter (!·.isEmpty)).map String.ofList

/-- The style that a text describes; `none` when it describes none. -/
def Style.ofText (text : List Char) : Except NumberFault (Option Style) :=
  let words := blankWords text
  if words = ["none"] then .ok (some {}) else Style.read {} words

/-- A style in words. -/
def Style.text (style : Style) : String :=
  if style.words.isEmpty then "none" else String.intercalate " " style.words

/-- The normal form of the name of a style. -/
def normalStyle (name : List Char) : Except NumberFault String :=
  (Style.ofText name).map fun style =>
    match style with
    | some s => s.text
    | none => String.ofList (lowerCase (strip name))

end SqlStatements.Console
