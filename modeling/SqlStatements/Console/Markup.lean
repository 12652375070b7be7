/-
  SqlStatements.Console.Markup
  ────────────────────────────
  **Text with style tags in square brackets.**

  A tag is a pair of brackets whose content begins with a lower-case letter or one of
  `#`, `/` and `@` and holds no other opening bracket; other brackets are text.  Of the
  backslashes in front of a tag every two show one, and an odd one makes the tag text.
  A tag that begins with a slash closes: `[/]` the latest open tag, `[/name]` the latest
  of that name.  `render` gives the text that is shown, without the tags and without the
  control characters that are never printed.

  The handler of a tag is checked when the tag is closed, and the style of every stretch
  of text when all of it is known.
-/
import SqlStatements.Console.Handler
import SqlStatements.Console.Style

namespace SqlStatements.Console

open Text

/-! ## §1. Tags. -/

/-- A tag: its name and, after an equals sign, its parameters. -/
structure Tag where
  name : List Char
  parameters : Option (List Char)
  deriving Repr, DecidableEq

/-- The tag of the content of a pair of brackets. -/
def Tag.ofContent (content : List Char) : Tag :=
  let name := content.takeWhile (· != '=')
  match content.drop name.length with
  | _ :: parameters => ⟨name, some parameters⟩
  | [] => ⟨name, none⟩

/-- A tag as it is written. -/
def Tag.text (t : Tag) : String :=
  match t.parameters with
  | some p => "[" ++ String.ofList t.name ++ "=" ++ String.ofList p ++ "]"
  | none => "[" ++ String.ofList t.name ++ "]"

/-- The characters that the content of a tag may begin with. -/
def startsTag (c : Char) : Bool :=
  ('a' ≤ c && c ≤ 'z') || c == '#' || c == '/' || c == '@'

/-- The content of the tag whose opening bracket has been taken, and the text after its
closing bracket. -/
def tagContent? (text : List Char) : Option (List Char × List Char) :=
  match text with
  | [] => none
  | first :: rest =>
      let body := rest.takeWhile fun c => c != ']' && c != '['
      match rest.drop body.length with
      | ']' :: after => if startsTag first then some (first :: body, after) else none
      | _ => none

/-! ## §2. Pieces of marked-up text. -/

/-- A run of text, or a tag with its position in the whole text. -/
inductive Piece where
  | text (chars : List Char)
  | tag (position : Nat) (tag : Tag)
  deriving Repr, DecidableEq

/-- The pieces of a text that begins at `position`; `plain` is the run of text before it,
the latest character first.  The number bounds the steps and is at least the length of
the text. -/
def piecesFrom : (steps position : Nat) → (plain : List Char) → List Char → List Piece
  | 0, _, plain, text => [.text (plain.reverse ++ text)]
  | _ + 1, _, plain, [] => [.text plain.reverse]
  | steps + 1, position, plain, c :: rest =>
      let text := c :: rest
      let slashes := (text.takeWhile (· == '\\')).length
      let found := match text.drop slashes with
        | '[' :: inner => tagContent? inner
        | _ => none
      match found with
      | none =>
          let count := max slashes 1
          piecesFrom steps (position + count) ((text.take count).reverse ++ plain)
            (text.drop count)
      | some (content, after) =>
          let shown := List.replicate (slashes / 2) '\\'
          let bracketed := '[' :: (content ++ [']'])
          let stop := position + slashes + bracketed.length
          if slashes % 2 = 1 then
            [.text plain.reverse, .text shown, .text bracketed]
              ++ piecesFrom steps stop [] after
          else
            [.text plain.reverse, .text shown, .tag (position + slashes) (.ofContent content)]
              ++ piecesFrom steps stop [] after

/-- The pieces of a marked-up text. -/
def pieces (text : List Char) : List Piece :=
  piecesFrom text.length 0 [] text

/-! ## §3. Rendering. -/

/-- What is wrong with a marked-up text. -/
inductive MarkupError where
  /-- A closing tag of which no tag of that name is open. -/
  | unmatched (tag : Tag) (position : Nat)
  /-- A closing tag while no tag at all is open. -/
  | nothingOpen (position : Nat)
  | handler (text : List Char) (fault : Handler.HandlerFault)
  | colour (fault : NumberFault)
  deriving Repr, DecidableEq

/-- The wording of an error. -/
def MarkupError.message : MarkupError → String
  | .unmatched tag position =>
      s!"closing tag '{tag.text}' at position {position} doesn't match any open tag"
  | .nothingOpen position => s!"closing tag '[/]' at position {position} has nothing to close"
  | .handler text fault => fault.message text
  | .colour fault => fault.message

/-- A run of text without the backslashes in front of brackets. -/
def unescapeBrackets : List Char → List Char
  | '\\' :: '[' :: rest => '[' :: unescapeBrackets rest
  | c :: rest => c :: unescapeBrackets rest
  | [] => []

/-- The control characters that are never printed: the bell, the backspace, the vertical
tab, the page break and the carriage return. -/
def isSilent (c : Char) : Bool :=
  let n := c.toNat
  n == 7 || n == 8 || n == 11 || n == 12 || n == 13

/-- A run of text as it is shown. -/
def shownText (chars : List Char) : List Char :=
  (unescapeBrackets chars).filter (!isSilent ·)

/-- An open tag: the normal form of its name, its parameters, and how much of the shown
text stands before it. -/
structure OpenTag where
  name : String
  parameters : Option (List Char)
  start : Nat
  deriving Repr, DecidableEq

/-- Whether a tag names a handler and not a style. -/
def OpenTag.isHandler (t : OpenTag) : Bool := t.name.toList.head? == some '@'

/-- A stretch of the shown text with the words for its style. -/
structure Stretch where
  start : Nat
  stop : Nat
  style : List Char
  deriving Repr, DecidableEq

/-- The stretch of an open tag that ends at `stop`; a handler has none. -/
def OpenTag.stretch? (stop : Nat) (t : OpenTag) : Option Stretch :=
  let words := match t.parameters with
    | some p => t.name.toList ++ ' ' :: p
    | none => t.name.toList
  if t.isHandler then none else some ⟨t.start, stop, words⟩

/-- Checks the handler of a tag, if it has one. -/
def OpenTag.check (t : OpenTag) : Except MarkupError Unit :=
  match t.isHandler, t.parameters with
  | true, some (c :: rest) => (Handler.checkHandler (c :: rest)).mapError (.handler (c :: rest))
  | _, _ => .ok ()

/-- What has been rendered of a text. -/
structure Rendering where
  shown : List Char := []
  /-- The open tags, the latest first. -/
  opened : List OpenTag := []
  stretches : List Stretch := []
  deriving Repr, DecidableEq

namespace Rendering

/-- Text is shown. -/
def append (r : Rendering) (chars : List Char) : Rendering :=
  { r with shown := r.shown ++ shownText chars }

/-- A tag is opened. -/
def openTag (r : Rendering) (tag : Tag) : Except MarkupError Rendering := do
  let name ← (normalStyle tag.name).mapError .colour
  return { r with opened := ⟨name, tag.parameters, r.shown.length⟩ :: r.opened }

/-- An open tag is closed, and `rest` are open after it. -/
def closeTag (r : Rendering) (tag : OpenTag) (rest : List OpenTag) :
    Except MarkupError Rendering := do
  tag.check
  let stretch := (tag.stretch? r.shown.length).toList
  return { r with opened := rest, stretches := r.stretches ++ stretch }

/-- The latest open tag is closed. -/
def closeLatest (r : Rendering) (position : Nat) : Except MarkupError Rendering :=
  match r.opened with
  | [] => .error (.nothingOpen position)
  | latest :: rest => r.closeTag latest rest

/-- The latest open tag of the same name as a closing tag is closed. -/
def closeNamed (r : Rendering) (position : Nat) (tag : Tag) (name : List Char) :
    Except MarkupError Rendering := do
  let style ← (normalStyle name).mapError .colour
  match r.opened.find? (·.name == style) with
  | none => throw (.unmatched tag position)
  | some found => r.closeTag found (r.opened.eraseP (·.name == style))

/-- What has been rendered after one more piece. -/
def add (r : Rendering) : Piece → Except MarkupError Rendering
  | .text chars => .ok (r.append chars)
  | .tag position tag =>
      match tag.name with
      | '/' :: rest =>
          match strip rest with
          | [] => r.closeLatest position
          | name => r.closeNamed position tag name
      | _ => r.openTag tag

/-- The stretches of the text, those of the tags that are still open included. -/
def allStretches (r : Rendering) : List Stretch :=
  r.stretches ++ r.opened.filterMap (OpenTag.stretch? r.shown.length)

end Rendering

/-! ## §4. Styles of stretches. -/

/-- Whether the style of a stretch is looked at: one without a character of its own is
dropped where the text is cut into lines or at tabs. -/
def Stretch.isUsed (shown : List Char) (s : Stretch) : Bool :=
  let covered := (shown.drop s.start).take (s.stop - s.start)
  covered.any (· != '\n') || !(shown.contains '\n' || shown.contains '\t')

/-- Checks the style of a stretch. -/
def Stretch.check (s : Stretch) : Except MarkupError Unit :=
  ((Style.ofText s.style).mapError .colour).map fun _ => ()

/-- The text that a marked-up text shows. -/
def render (text : List Char) : Except MarkupError (List Char) := do
  let r ← (pieces text).foldlM Rendering.add {}
  (r.allStretches.filter (·.isUsed r.shown)).forM Stretch.check
  return r.shown

end SqlStatements.Console
