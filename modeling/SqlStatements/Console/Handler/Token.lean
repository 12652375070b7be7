/-
  SqlStatements.Console.Handler.Token
  ───────────────────────────────────
  **The tokens of an expression.**

  A token is a name, a number, a text between quotes, or a sign.  Inside brackets line
  breaks are space; outside of them they are tokens, and so is space in front of a later
  line.  `Token.ofText` gives the tokens of a text one after the other.  The first fault
  ends them: whoever reads that far meets it, and what stands behind it is never seen.
-/
import SqlStatements.Console.Handler.Fault
import SqlStatements.Text.WordChar

namespace SqlStatements.Console.Handler

open Text

/-! ## §1. Tokens. -/

/-- A number, as far as its kind matters. -/
inductive NumberToken where
  /-- A whole number in decimal, with its number of digits. -/
  | whole (digits : Nat)
  | real
  | imaginary
  deriving Repr, DecidableEq

/-- A text between quotes. -/
structure TextToken where
  bytes : Bool
  /-- Whether backslashes are plain characters. -/
  raw : Bool
  /-- Whether expressions may stand inside the text. -/
  formatted : Bool
  content : List Char
  deriving Repr, DecidableEq

/-- A token. -/
inductive Token where
  | name (text : List Char)
  | number (n : NumberToken)
  | text (t : TextToken)
  | sign (s : String)
  | lineEnd
  | indent
  | stop
  deriving Repr, DecidableEq

/-- A token with the number of brackets that are open after it, and its line. -/
structure Lexeme where
  token : Token
  depth : Nat
  line : Nat
  deriving Repr, DecidableEq

/-- A token, or the fault that ends the tokens. -/
inductive Item where
  | lexeme (l : Lexeme)
  | fault (f : Fault)
  deriving Repr, DecidableEq

/-! ## §2. Numbers. -/

/-- Whether a character may stand in a name as far as its first look tells: every one
beyond ASCII may. -/
def mayContinueName (c : Char) : Bool :=
  c.isAlphanum || c == '_' || 128 ≤ c.toNat

/-- The ends of the words that may follow a number without space, by their first
letter, and whether they have to end there. -/
def wordsAfterNumber : List (Char × String × Bool) :=
  [ ('a', "nd", true), ('e', "lse", true), ('f', "or", true), ('i', "f", false),
    ('i', "n", false), ('i', "s", false), ('o', "r", true), ('n', "ot", true) ]

/-- Whether what follows a number is one of the words that may. -/
def startsWordAfterNumber : List Char → Bool
  | [] => false
  | c :: rest =>
      wordsAfterNumber.any fun (letter, ending, whole) =>
        letter == c && ending.toList.isPrefixOf rest
          && !(whole && ((rest.drop ending.length).head?).any mayContinueName)

/-- Checks that a number may end in front of `rest`. -/
def endNumber (form : NumberForm) (rest : List Char) : Except Fault (List Char) :=
  match rest with
  | c :: _ =>
      if c.toNat < 128 && mayContinueName c && !startsWordAfterNumber rest then
        .error (.invalidNumber form)
      else .ok rest
  | [] => .ok rest

/-- The fault of a number that goes on with `rest` where a digit has to stand. -/
def missingDigit (form : NumberForm) (rest : List Char) : Fault :=
  match rest with
  | c :: _ => if c.isDigit && form != .decimal then .invalidDigit c form else .invalidNumber form
  | [] => .invalidNumber form

/-- What follows a run of digits with single underscores between them. -/
def skipDigits (form : NumberForm) (isDigit : Char → Bool) : List Char → Except Fault (List Char)
  | [] => .ok []
  | '_' :: c :: rest =>
      if isDigit c then skipDigits form isDigit rest
      else .error (missingDigit form (c :: rest))
  | c :: rest =>
      if c = '_' then .error (missingDigit form rest)
      else if isDigit c then skipDigits form isDigit rest
      else .ok (c :: rest)

/-- A number in a form with a letter of its own, after that letter. -/
def lexBased (form : NumberForm) (isDigit : Char → Bool) (text : List Char) :
    Except Fault (NumberToken × List Char) := do
  let start := match text with
    | '_' :: rest => rest
    | _ => text
  if (start.head?).any isDigit then
    let rest ← skipDigits form isDigit start
    if form != .hexadecimal && (rest.head?).any Char.isDigit then
      throw (missingDigit form rest)
    return (.real, ← endNumber form rest)
  else throw (missingDigit form start)

/-- What follows digits, if there are any. -/
def skipOptionalDigits (text : List Char) : Except Fault (List Char) :=
  if (text.head?).any Char.isDigit then skipDigits .decimal Char.isDigit text else .ok text

/-- What follows an exponent, if there is one. -/
def skipExponent (text : List Char) : Except Fault (List Char) :=
  match text with
  | e :: rest =>
      if e == 'e' || e == 'E' then
        let digits := match rest with
          | '+' :: more | '-' :: more => more
          | _ => rest
        if (digits.head?).any Char.isDigit then skipDigits .decimal Char.isDigit digits
        else if digits.length = rest.length then endNumber .decimal text
        else .error (.invalidNumber .decimal)
      else .ok text
  | [] => .ok text

/-- A decimal number. -/
def lexDecimal (text : List Char) : Except Fault (NumberToken × List Char) := do
  let afterWhole ← skipOptionalDigits text
  let run := text.take (text.length - afterWhole.length)
  let afterFraction ← match afterWhole with
    | '.' :: rest => skipOptionalDigits rest
    | _ => pure afterWhole
  let afterExponent ← skipExponent afterFraction
  match afterExponent with
  | c :: rest =>
      if c == 'j' || c == 'J' then return (.imaginary, ← endNumber .imaginary rest)
  | [] => pure ()
  if afterExponent.length = afterWhole.length then
    if run.head? == some '0' && run.any (fun c => c != '0' && c != '_') then
      throw .leadingZeros
    return (.whole (run.filter (· != '_')).length, ← endNumber .decimal afterWhole)
  else return (.real, ← endNumber .decimal afterExponent)

/-- Whether a character is a digit below `base`. -/
def isDigitBelow (base : Nat) (c : Char) : Bool :=
  c.isDigit && c.toNat - 48 < base

/-- A number, which begins with a digit or with a point and a digit. -/
def lexNumber (text : List Char) : Except Fault (NumberToken × List Char) :=
  match text with
  | '0' :: 'x' :: rest | '0' :: 'X' :: rest =>
      lexBased .hexadecimal (fun c => (Hex.value? c).isSome) rest
  | '0' :: 'o' :: rest | '0' :: 'O' :: rest => lexBased .octal (isDigitBelow 8) rest
  | '0' :: 'b' :: rest | '0' :: 'B' :: rest => lexBased .binary (isDigitBelow 2) rest
  | _ => lexDecimal text

/-! ## §3. Texts. -/

/-- The letters in front of a text between quotes, in lower case: how the text is read. -/
def textPrefixes : List (String × TextToken) :=
  let plain : TextToken := ⟨false, false, false, []⟩
  [ ("", plain), ("u", plain), ("b", { plain with bytes := true }),
    ("r", { plain with raw := true }), ("f", { plain with formatted := true }),
    ("br", { plain with bytes := true, raw := true }),
    ("rb", { plain with bytes := true, raw := true }),
    ("fr", { plain with formatted := true, raw := true }),
    ("rf", { plain with formatted := true, raw := true }) ]

/-- Whether a text goes on with a quote. -/
def startsQuoted (text : List Char) : Bool :=
  text.head? == some '\'' || text.head? == some '"'

/-- The kind of the text between quotes that begins here, and what follows the letters
in front of it. -/
def textStart? (text : List Char) : Option (TextToken × List Char) :=
  textPrefixes.findSome? fun (letters, kind) =>
    let rest := text.drop letters.length
    if (text.take letters.length).map Char.toLower == letters.toList && startsQuoted rest then
      some (kind, rest)
    else none

/-- The content of a text up to its closing quotes, and what follows them. -/
def textContent? (triple : Bool) (quote : Char) : List Char → Option (List Char × List Char)
  | [] => none
  | '\\' :: c :: rest => (textContent? triple quote rest).map fun t => ('\\' :: c :: t.1, t.2)
  | c :: rest =>
      if c = quote && (!triple || [quote, quote].isPrefixOf rest) then
        some ([], if triple then rest.drop 2 else rest)
      else if c = '\n' && !triple then none
      else (textContent? triple quote rest).map fun t => (c :: t.1, t.2)

/-- The line breaks that a text has before it would have to end. -/
def breaksInside (triple : Bool) : List Char → Nat
  | [] => 0
  | '\\' :: '\n' :: rest => breaksInside triple rest + 1
  | '\\' :: _ :: rest => breaksInside triple rest
  | c :: rest =>
      if c = '\n' then (if triple then breaksInside triple rest + 1 else 0)
      else breaksInside triple rest

/-- A text between quotes, of which the quotes come next. -/
def lexText (line : Nat) (kind : TextToken) (text : List Char) :
    Except Fault (TextToken × List Char) :=
  match text with
  | [] => .error (.unterminated false line)
  | quote :: rest =>
      let triple := [quote, quote].isPrefixOf rest
      let body := if triple then rest.drop 2 else rest
      match textContent? triple quote body with
      | some (content, after) => .ok ({ kind with content := content }, after)
      | none =>
          .error (.unterminated triple (line + breaksInside triple body))

/-! ## §4. Names and signs. -/

/-- Checks that a run of characters is a name. -/
def checkName (run : List Char) : Except Fault Unit :=
  let wrong := match run with
    | [] => none
    | c :: rest => if startsName c then rest.find? (!continuesName ·) else some c
  match wrong with
  | none => .ok ()
  | some c => .error (if isPrintable c then .invalidCharacter c else .unprintable c)

/-- The signs of more than one character, longer ones first. -/
def longSigns : List String :=
  [ "...", "**=", "//=", ">>=", "<<=", "**", "//", ">>", "<<", "<=", ">=", "==", "!=", "<>",
    "->", "+=", "-=", "*=", "/=", "%=", "&=", "|=", "^=", "@=", ":=" ]

/-- The sign at the start of a text. -/
def signAt (c : Char) (rest : List Char) : String :=
  (longSigns.find? (·.toList.isPrefixOf (c :: rest))).getD (String.ofList [c])

/-- An open bracket and its line. -/
structure OpenBracket where
  bracket : Char
  line : Nat
  deriving Repr, DecidableEq

/-- The closing bracket of an opening one. -/
def closingOf : Char → Char
  | '(' => ')'
  | '[' => ']'
  | _ => '\x7d'

/-- Brackets may not be nested deeper than this. -/
def bracketLimit : Nat := 200

/-- The open brackets after a character. -/
def bracketsAfter (line : Nat) (opened : List OpenBracket) (c : Char) :
    Except Fault (List OpenBracket) :=
  if c == '(' || c == '[' || c == '\x7b' then
    if bracketLimit ≤ opened.length then .error .tooManyBrackets
    else .ok (⟨c, line⟩ :: opened)
  else if c == ')' || c == ']' || c == '\x7d' then
    match opened with
    | [] => .error (.unmatched c)
    | first :: rest =>
        if closingOf first.bracket = c then .ok rest
        else
          let place := if first.line = line then none else some first.line
          .error (.mismatched c first.bracket place)
  else .ok opened

/-! ## §5. The tokens of a text. -/

/-- Whether a character is space inside a line. -/
def isLineSpace (c : Char) : Bool :=
  c == ' ' || c == '\t' || c == '\x0c'

/-- Whether a later line begins with space and is not blank. -/
def isIndented (text : List Char) : Bool :=
  let rest := text.dropWhile isLineSpace
  (text.head?).any isLineSpace && !(rest.head?).all fun c => c == '\n' || c == '#'

/-- The number of line breaks in what has been read of a text. -/
def breaksBetween (text rest : List Char) : Nat :=
  (text.take (text.length - rest.length)).count '\n'

/-- The tokens from a place on: `fresh` says that the line has had no token yet.  The
number bounds the steps and is more than the length of the text. -/
def itemsFrom : (steps line : Nat) → (opened : List OpenBracket) → (fresh : Bool) →
    List Char → List Item
  | 0, _, _, _, _ => []
  | _ + 1, line, opened, _, [] =>
      match opened with
      | [] => [.lexeme ⟨.stop, 0, line⟩]
      | first :: _ => [.fault (.neverClosed first.bracket)]
  | steps + 1, line, opened, fresh, c :: rest =>
      let lexeme := fun (token : Token) => Item.lexeme ⟨token, opened.length, line⟩
      if isLineSpace c then itemsFrom steps line opened fresh rest
      else if c = '#' then itemsFrom steps line opened fresh (rest.dropWhile (· != '\n'))
      else if c = '\n' then
        let ended := if fresh || !opened.isEmpty then [] else [lexeme .lineEnd]
        let indented := if opened.isEmpty && isIndented rest then [lexeme .indent] else []
        ended ++ indented ++ itemsFrom steps (line + 1) opened true rest
      else if c = '\\' then
        match rest with
        | '\n' :: more => itemsFrom steps (line + 1) opened fresh more
        | _ => [.fault .afterBackslash]
      else
        match textStart? (c :: rest) with
        | some (kind, quoted) =>
            match lexText line kind quoted with
            | .error fault => [.fault fault]
            | .ok (token, after) =>
                lexeme (.text token)
                  :: itemsFrom steps (line + breaksBetween quoted after) opened false after
        | none =>
            if c.isDigit || (c == '.' && (rest.head?).any Char.isDigit) then
              match lexNumber (c :: rest) with
              | .error fault => [.fault fault]
              | .ok (token, after) =>
                  lexeme (.number token) :: itemsFrom steps line opened false after
            else if mayContinueName c then
              let run := (c :: rest).takeWhile mayContinueName
              match checkName run with
              | .error fault => [.fault fault]
              | .ok () =>
                  lexeme (.name run)
                    :: itemsFrom steps line opened false (rest.drop (run.length - 1))
            else if !isPrintable c then [.fault (.unprintable c)]
            else
              match bracketsAfter line opened c with
              | .error fault => [.fault fault]
              | .ok next =>
                  let sign := signAt c rest
                  .lexeme ⟨.sign sign, next.length, line⟩
                    :: itemsFrom steps line next false (rest.drop (sign.length - 1))

/-- A text with every line break as a line feed. -/
def unifyBreaks : List Char → List Char
  | [] => []
  | '\r' :: '\n' :: rest => '\n' :: unifyBreaks rest
  | c :: rest => (if c = '\r' then '\n' else c) :: unifyBreaks rest

/-- The tokens of a text. -/
def Token.ofText (text : List Char) : List Item :=
  let plain := unifyBreaks text
  itemsFrom (plain.length + 1) 1 [] true plain

end SqlStatements.Console.Handler
