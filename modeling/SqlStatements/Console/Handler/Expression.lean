/-
  SqlStatements.Console.Handler.Expression
  ────────────────────────────────────────
  **Expressions, and how tokens are read as one.**

  An expression is built from constants, names, tuples, sets and dictionaries with
  signs, operations, comparisons and calls.  `Expression.ofText` reads the whole of a
  text as expressions with commas between them.

  A text that is no expression is read a second time, with `hints`: wherever a fault
  that is often made can be recognised, that fault is reported.  Without one, all that
  is said is that the text is no expression.
-/
import SqlStatements.Console.Handler.Token

namespace SqlStatements.Console.Handler

open Text

/-! ## §1. Expressions. -/

/-- A constant, as far as its kind matters. -/
inductive Constant where
  | none
  | truth (b : Bool)
  | ellipsis
  | real
  | imaginary
  | text
  | bytes
  /-- A text with expressions inside. -/
  | formatted
  deriving Repr, DecidableEq

/-- An expression. -/
inductive Expression where
  | constant (c : Constant)
  | name (n : List Char)
  | tuple (items : List Expression)
  | set (items : List Expression)
  /-- A dictionary; a member without a key is unpacked. -/
  | dict (members : List (Option Expression × Expression))
  | starred (e : Expression)
  | group (e : Expression)
  | signed (sign : String) (e : Expression)
  | operation (sign : String) (left right : Expression)
  | attribute (e : Expression)
  | call (e : Expression) (arguments : Nat)
  | comparison (left : Expression)
  /-- An expression of truth values. -/
  | logical (first : Expression)
  | conditional (first : Expression)
  | named
  deriving Repr, Inhabited

namespace Expression

/-- What an expression is called in a message. -/
def kind : Expression → String
  | .constant .none => "None"
  | .constant (.truth true) => "True"
  | .constant (.truth false) => "False"
  | .constant .ellipsis => "ellipsis"
  | .constant .formatted => "f-string expression"
  | .constant _ => "literal"
  | .name _ => "name"
  | .tuple _ => "tuple"
  | .set _ => "set display"
  | .dict _ => "dict literal"
  | .starred _ => "starred"
  | .group e => e.kind
  | .signed _ _ | .operation _ _ _ | .logical _ => "expression"
  | .attribute _ => "attribute"
  | .call _ _ => "function call"
  | .comparison _ => "comparison"
  | .conditional _ => "conditional expression"
  | .named => "named expression"

/-- Whether an expression is an operand of comparisons. -/
def isOperand : Expression → Bool
  | .comparison _ | .logical _ | .conditional _ | .named | .starred _ => false
  | _ => true

/-- Whether an expression begins with a tuple or with one of the constant words. -/
def startsConstant : Expression → Bool
  | .constant .none | .constant (.truth _) | .tuple _ => true
  | .operation _ e _ | .attribute e | .call e _ => e.startsConstant
  | _ => false

end Expression

/-! ## §2. Reading tokens. -/

/-- Tokens that are still to be read. -/
abbrev Tokens := List Item

/-- What has been read, and what is left; nothing when the tokens are of another form. -/
abbrev Reading (α : Type) := Option (α × Tokens)

/-- The tokens are of another form. -/
def noReading {α : Type} : Except Fault (Reading α) := .ok none

/-- Something has been read. -/
def readingOf {α : Type} (a : α) (rest : Tokens) : Except Fault (Reading α) := .ok (some (a, rest))

/-- The next token. -/
def nextToken : Tokens → Except Fault Token
  | .lexeme l :: _ => .ok l.token
  | .fault f :: _ => .error f
  | [] => .ok .stop

/-- What follows the sign `s`, if it comes next. -/
def afterSign (s : String) (tokens : Tokens) : Except Fault (Option Tokens) :=
  (nextToken tokens).map fun t => if t = .sign s then some tokens.tail else none

/-- Whether the sign `s` comes next. -/
def atSign (s : String) (tokens : Tokens) : Except Fault Bool :=
  (nextToken tokens).map (· == .sign s)

/-- Whether the word `w` comes next. -/
def atWord (w : String) (tokens : Tokens) : Except Fault Bool :=
  (nextToken tokens).map (· == .name w.toList)

/-- The number of open brackets after the last token that has been read. -/
def depthBefore (tokens rest : Tokens) : Nat :=
  match (tokens.take (tokens.length - rest.length)).getLast? with
  | some (.lexeme l) => l.depth
  | _ => 0

/-- The words that are no names. -/
def keywords : List String :=
  [ "False", "None", "True", "and", "as", "assert", "async", "await", "break", "class",
    "continue", "def", "del", "elif", "else", "except", "finally", "for", "from", "global", "if",
    "import", "in", "is", "lambda", "nonlocal", "not", "or", "pass", "raise", "return", "try",
    "while", "with", "yield" ]

/-- Whether a word is a name. -/
def isName (word : List Char) : Bool := !keywords.contains (String.ofList word)

/-- The word of a token that is a constant of one word. -/
def constantWord? : Token → Option String
  | .name w =>
      let word := String.ofList w
      if ["True", "False", "None"].contains word then some word else none
  | _ => none

/-- The words that are keywords in some places only. -/
def softKeywords : List String := ["_", "case", "match"]

/-- The commands that once needed no brackets. -/
def oldCommands : List String := ["print", "exec"]

/-! ## §3. Texts between quotes. -/

/-- The number of hexadecimal digits that follow the letter of an escape. -/
def escapeDigits? : Char → Option Nat
  | 'x' => some 2
  | 'u' => some 4
  | 'U' => some 8
  | _ => none

/-- Checks the escapes of a text, of which `position` units have been read.  A character
beyond ASCII counts ten units, and a backslash in front of one six.  The number bounds
the steps and is at least the length of the text. -/
def checkEscapes : (steps position : Nat) → List Char → Except Fault Unit
  | 0, _, _ => .ok ()
  | _ + 1, _, [] => .ok ()
  | steps + 1, position, c :: rest =>
      if c = '\\' then
        match rest with
        | [] => .ok ()
        | letter :: more =>
            if 128 ≤ letter.toNat then checkEscapes steps (position + 6) rest
            else
              match escapeDigits? letter with
              | some count =>
                  let digits := (more.take count).takeWhile fun d => (Hex.value? d).isSome
                  let stop := position + 2 + digits.length
                  if digits.length < count then
                    .error (.escape position stop (.truncated letter count))
                  else if 0x10FFFF < (Hex.number? digits).getD 0 then
                    .error (.escape position stop .beyondCharacters)
                  else checkEscapes steps stop (more.drop count)
              | none =>
                  if letter = 'N' then
                    match more with
                    | '\x7b' :: name =>
                        let inner := name.takeWhile (· != '\x7d')
                        if inner.length < name.length && !inner.isEmpty then
                          checkEscapes steps (position + 4 + inner.length)
                            (name.drop (inner.length + 1))
                        else .error (.escape position (position + 3 + inner.length) .malformedName)
                    | _ => .error (.escape position (position + 2) .malformedName)
                  else checkEscapes steps (position + 2) more
      else checkEscapes steps (position + if c.toNat < 128 then 1 else 10) rest

/-- Checks the escapes of a byte string of which `position` bytes have been read. -/
def checkByteEscapes (position : Nat) : List Char → Except Fault Unit
  | '\\' :: 'x' :: rest =>
      let digits := (rest.take 2).takeWhile fun d => (Hex.value? d).isSome
      if digits.length < 2 then .error (.byteEscape (position + digits.length))
      else checkByteEscapes (position + 2) rest
  | '\\' :: _ :: rest => checkByteEscapes (position + 2) rest
  | _ :: rest => checkByteEscapes (position + 1) rest
  | [] => .ok ()

/-- Checks a text between quotes. -/
def TextToken.check (t : TextToken) : Except Fault Unit :=
  if t.bytes && t.content.any (128 ≤ ·.toNat) then .error .bytesBeyondAscii
  else if t.raw || t.formatted then .ok ()
  else if t.bytes then checkByteEscapes 0 t.content
  else checkEscapes t.content.length 0 t.content

/-- The texts that come next. -/
def takeTexts : Tokens → Except Fault (List TextToken × Tokens)
  | .lexeme ⟨.text t, _, _⟩ :: rest => (takeTexts rest).map fun r => (t :: r.1, r.2)
  | .fault f :: _ => .error f
  | rest => .ok ([], rest)

/-- Checks texts that become one with the text `first`. -/
def checkTexts (first : TextToken) : List TextToken → Except Fault Unit
  | [] => .ok ()
  | t :: rest => do
      t.check
      if t.bytes != first.bytes then throw .mixedTexts
      checkTexts first rest

/-- The constant that texts become. -/
def textConstant (first : TextToken) (texts : List TextToken) : Constant :=
  if first.bytes then .bytes
  else if texts.any (·.formatted) then .formatted
  else .text

/-! ## §4. Operators. -/

/-- The signs of the operations on numbers, the power apart. -/
def operators : List String :=
  ["|", "^", "&", "<<", ">>", "+", "-", "*", "/", "//", "%", "@"]

/-- The signs of comparisons. -/
def comparisons : List String := ["==", "!=", "<=", "<", ">=", ">"]

/-- What follows an operator of a comparison, if one comes next. -/
def afterComparison (tokens : Tokens) : Except Fault (Option Tokens) := do
  match ← nextToken tokens with
  | .sign s => return if comparisons.contains s then some tokens.tail else none
  | .name w =>
      match String.ofList w with
      | "in" => return some tokens.tail
      | "is" =>
          let negated ← atWord "not" tokens.tail
          return some (if negated then tokens.tail.tail else tokens.tail)
      | "not" =>
          let within ← atWord "in" tokens.tail
          return if within then some tokens.tail.tail else none
      | _ => return none
  | _ => return none

/-! ## §5. Hints. -/

/-- Whether two expressions without a comma between them have other reasons than a
forgotten comma. -/
def startsOtherwise (tokens : Tokens) : Except Fault Bool := do
  match ← nextToken tokens with
  | .name w =>
      if !isName w then return false
      else if softKeywords.contains (String.ofList w) then return true
      else
        match ← nextToken tokens.tail with
        | .text _ => return true
        | _ => return false
  | _ => return false

/-- Whether an expression is one of the old commands. -/
def oldCommand? : Expression → Option (List Char)
  | .name n => if oldCommands.contains (String.ofList n) then some n else none
  | _ => none

/-! ## §6. The grammar. -/

mutual

/-- An atom: a name, a constant, texts, or brackets of either kind. -/
def readAtom (hints : Bool) : Nat → Tokens → Except Fault (Reading Expression)
  | 0, _ => noReading
  | fuel + 1, tokens => do
      let rest := tokens.tail
      match ← nextToken tokens with
      | .name w =>
          match String.ofList w with
          | "None" => readingOf (.constant .none) rest
          | "True" => readingOf (.constant (.truth true)) rest
          | "False" => readingOf (.constant (.truth false)) rest
          | _ => if isName w then readingOf (.name w) rest else noReading
      | .number (.whole digits) =>
          if Decimal.digitLimit < digits then throw (.tooManyDigits digits)
          readingOf (.constant .real) rest
      | .number .real => readingOf (.constant .real) rest
      | .number .imaginary => readingOf (.constant .imaginary) rest
      | .text t =>
          let (texts, after) ← takeTexts tokens
          checkTexts t texts
          readingOf (.constant (textConstant t texts)) after
      | .sign "..." => readingOf (.constant .ellipsis) rest
      | .sign "(" => readRound hints fuel rest
      | .sign "\x7b" => readCurly hints fuel rest
      | _ => noReading

/-- What stands after an opening round bracket: a tuple or a single expression. -/
def readRound (hints : Bool) : Nat → Tokens → Except Fault (Reading Expression)
  | 0, _ => noReading
  | fuel + 1, tokens => do
      if let some after ← afterSign ")" tokens then return some (.tuple [], after)
      if let some inner ← afterSign "**" tokens then
        if hints then
          if let some (_, rest) ← readExpression hints fuel inner then
            if ← atSign ")" rest then throw (.starredExpression true)
        return none
      match ← readItem hints fuel tokens with
      | none => noReading
      | some (first, rest) =>
          if let some more ← afterSign "," rest then
            let (items, last) ← readItems hints fuel more
            match ← afterSign ")" last with
            | some after => readingOf (.tuple (first :: items)) after
            | none => noReading
          else if let some inner ← afterSign "*" tokens then
            if hints then
              if let some (_, last) ← readExpression hints fuel inner then
                if ← atSign ")" last then throw (.starredExpression false)
            noReading
          else
            match ← afterSign ")" rest with
            | some after => readingOf (.group first) after
            | none => noReading

/-- What stands after an opening curly bracket: a dictionary or a set. -/
def readCurly (hints : Bool) : Nat → Tokens → Except Fault (Reading Expression)
  | 0, _ => noReading
  | fuel + 1, tokens => do
      if let some after ← afterSign "\x7d" tokens then return some (.dict [], after)
      if ← atSign "**" tokens then return ← readMembers hints fuel [] tokens
      if let some inner ← afterSign "*" tokens then
        match ← readOperand hints fuel inner with
        | some (e, rest) => return ← finishSet hints fuel (.starred e) rest
        | none => return none
      match ← readExpression hints fuel tokens with
      | none => noReading
      | some (first, rest) =>
          if let some inner ← afterSign ":" rest then readValue hints fuel [] first inner
          else
            match ← finishNamed hints fuel first rest with
            | some (item, last) => finishSet hints fuel item last
            | none => noReading

/-- The rest of a set after its first item, up to the closing bracket. -/
def finishSet (hints : Bool) : Nat → Expression → Tokens → Except Fault (Reading Expression)
  | 0, _, _ => noReading
  | fuel + 1, first, tokens => do
      let (others, last) ← match ← afterSign "," tokens with
        | some more => readItems hints fuel more
        | none => pure ([], tokens)
      match ← afterSign "\x7d" last with
      | some after => readingOf (.set (first :: others)) after
      | none => noReading

/-- The members of a dictionary up to the closing bracket, after those that have been
read, the latest first. -/
def readMembers (hints : Bool) : Nat → List (Option Expression × Expression) → Tokens →
    Except Fault (Reading Expression)
  | 0, _, _ => noReading
  | fuel + 1, before, tokens => do
      if !before.isEmpty then
        if let some after ← afterSign "\x7d" tokens then
          return some (.dict before.reverse, after)
      if let some inner ← afterSign "**" tokens then
        match ← readOperand hints fuel inner with
        | some (value, rest) => finishMember hints fuel ((none, value) :: before) rest
        | none => noReading
      else
        match ← readExpression hints fuel tokens with
        | none => noReading
        | some (key, rest) =>
            match ← afterSign ":" rest with
            | some inner => readValue hints fuel before key inner
            | none => if hints && !before.isEmpty then throw .missingColon else noReading

/-- The value of a member of a dictionary, and the rest of the dictionary. -/
def readValue (hints : Bool) : Nat → List (Option Expression × Expression) → Expression →
    Tokens → Except Fault (Reading Expression)
  | 0, _, _, _ => noReading
  | fuel + 1, before, key, tokens => do
      match ← readExpression hints fuel tokens with
      | some (value, rest) => finishMember hints fuel ((some key, value) :: before) rest
      | none =>
          if hints then
            if let some operand ← afterSign "*" tokens then
              if (← readOperand hints fuel operand).isSome then throw .starredValue
            if (← atSign "\x7d" tokens) || (← atSign "," tokens) then throw .missingValue
          noReading

/-- What follows a member of a dictionary. -/
def finishMember (hints : Bool) : Nat → List (Option Expression × Expression) → Tokens →
    Except Fault (Reading Expression)
  | 0, _, _ => noReading
  | fuel + 1, members, tokens => do
      if let some after ← afterSign "\x7d" tokens then
        readingOf (.dict members.reverse) after
      else if let some more ← afterSign "," tokens then readMembers hints fuel members more
      else noReading

/-- One item of a tuple or a set. -/
def readItem (hints : Bool) : Nat → Tokens → Except Fault (Reading Expression)
  | 0, _ => noReading
  | fuel + 1, tokens => do
      match ← afterSign "*" tokens with
      | some inner =>
          match ← readOperand hints fuel inner with
          | some (e, rest) => readingOf (.starred e) rest
          | none => noReading
      | none => readNamed hints fuel tokens

/-- Items with commas between them, as many as there are. -/
def readItems (hints : Bool) : Nat → Tokens → Except Fault (List Expression × Tokens)
  | 0, tokens => .ok ([], tokens)
  | fuel + 1, tokens => do
      match ← readItem hints fuel tokens with
      | none => return ([], tokens)
      | some (item, rest) =>
          match ← afterSign "," rest with
          | none => return ([item], rest)
          | some more =>
              let (items, last) ← readItems hints fuel more
              return (item :: items, last)

/-- Whether expressions with commas between them come next, each with a star or
without. -/
def readStarred (hints : Bool) : Nat → Tokens → Except Fault Bool
  | 0, _ => .ok false
  | fuel + 1, tokens => do
      let item ← match ← afterSign "*" tokens with
        | some inner => readOperand hints fuel inner
        | none => readExpression hints fuel tokens
      match item with
      | none => return false
      | some (_, rest) =>
          if let some more ← afterSign "," rest then
            let _ ← readStarred hints fuel more
          return true

/-- Expressions with commas between them, as many as there are. -/
def readPlain (hints : Bool) : Nat → Tokens → Except Fault (List Expression × Tokens)
  | 0, tokens => .ok ([], tokens)
  | fuel + 1, tokens => do
      match ← readExpression hints fuel tokens with
      | none => return ([], tokens)
      | some (e, rest) =>
          match ← afterSign "," rest with
          | none => return ([e], rest)
          | some more =>
              let (others, last) ← readPlain hints fuel more
              return (e :: others, last)

/-- An expression that may be given a name. -/
def readNamed (hints : Bool) : Nat → Tokens → Except Fault (Reading Expression)
  | 0, _ => noReading
  | fuel + 1, tokens => do
      match ← readExpression hints fuel tokens with
      | some (e, rest) => finishNamed hints fuel e rest
      | none => noReading

/-- An expression that has been read, which may be the name for another one. -/
def finishNamed (hints : Bool) : Nat → Expression → Tokens → Except Fault (Reading Expression)
  | 0, _, _ => noReading
  | fuel + 1, e, tokens => do
      if let some inner ← afterSign ":=" tokens then
        match ← readExpression hints fuel inner with
        | none => noReading
        | some (_, rest) =>
            match e with
            | .name _ => readingOf .named rest
            | _ => if hints then throw (.cannotName e.kind) else noReading
      else
        if hints && e.isOperand then
          if let some inner ← afterSign "=" tokens then
            if let some (_, last) ← readOperand hints fuel inner then
              let goesOn := (← atSign "=" last) || (← atSign ":=" last)
              if !goesOn then
                if let .name _ := e then throw .assignmentForComparison
                if !e.startsConstant then throw (.cannotAssign e.kind)
        readingOf e tokens

/-- The arguments of a call up to the closing bracket: how many there are.  `keyed` says
that one with a name has been read, `unpacked` that a dictionary has. -/
def readArguments (hints : Bool) : Nat → (keyed unpacked : Bool) → (count : Nat) → Tokens →
    Except Fault (Reading Nat)
  | 0, _, _, _, _ => noReading
  | fuel + 1, keyed, unpacked, count, tokens => do
      if let some after ← afterSign ")" tokens then return some (count, after)
      let first ← nextToken tokens
      if let some w := constantWord? first then
        if hints && (← atSign "=" tokens.tail) then throw (.constantAmongArguments w)
      let keyword ← match first with
        | .name w => if isName w then afterSign "=" tokens.tail else pure none
        | _ => pure none
      let starred ← afterSign "*" tokens
      let double ← afterSign "**" tokens
      let plain := keyword.isNone && starred.isNone && double.isNone
      let inner := ((keyword.orElse fun _ => starred).orElse fun _ => double).getD tokens
      let argument ← if plain && !hints then readNamed hints fuel tokens
        else readExpression hints fuel inner
      match argument with
      | none => noReading
      | some (_, rest) =>
          if hints && plain && (← atSign "=" rest) then throw .assignmentAmongArguments
          let next ← afterSign "," rest
          let closed ← atSign ")" rest
          if next.isNone && !closed then return none
          if plain && (keyed || unpacked) then
            if hints then throw (.positionalAfterKeyword unpacked) else return none
          readArguments hints fuel (keyed || keyword.isSome) (unpacked || double.isSome) (count + 1)
            (next.getD rest)

/-- What follows an atom: attributes and calls. -/
def readTrailers (hints : Bool) : Nat → Expression → Tokens → Except Fault (Reading Expression)
  | 0, _, _ => noReading
  | fuel + 1, e, tokens => do
      if let some inner ← afterSign "." tokens then
        match ← nextToken inner with
        | .name w =>
            if isName w then return ← readTrailers hints fuel (.attribute e) inner.tail
        | _ => pure ()
        readingOf e tokens
      else if let some inner ← afterSign "(" tokens then
        match ← readArguments hints fuel false false 0 inner with
        | some (count, rest) => readTrailers hints fuel (.call e count) rest
        | none => readingOf e tokens
      else readingOf e tokens

/-- An atom with its attributes and calls, a power of it, or one of these with a
sign. -/
def readFactor (hints : Bool) : Nat → Tokens → Except Fault (Reading Expression)
  | 0, _ => noReading
  | fuel + 1, tokens => do
      let sign := match ← nextToken tokens with
        | .sign s => if s == "+" || s == "-" || s == "~" then some s else none
        | _ => none
      match sign with
      | some s =>
          match ← readFactor hints fuel tokens.tail with
          | some (e, rest) => readingOf (.signed s e) rest
          | none => noReading
      | none =>
          match ← readAtom hints fuel tokens with
          | none => noReading
          | some (atom, afterAtom) =>
              match ← readTrailers hints fuel atom afterAtom with
              | none => noReading
              | some (base, rest) =>
                  if let some inner ← afterSign "**" rest then
                    match ← readFactor hints fuel inner with
                    | some (exponent, last) => readingOf (.operation "**" base exponent) last
                    | none => readingOf base rest
                  else readingOf base rest

/-- Operations on what has been read. -/
def readOperations (hints : Bool) : Nat → Expression → Tokens → Except Fault (Reading Expression)
  | 0, _, _ => noReading
  | fuel + 1, left, tokens => do
      let sign := match ← nextToken tokens with
        | .sign s => if operators.contains s then some s else none
        | _ => none
      match sign with
      | none => readingOf left tokens
      | some s =>
          match ← readFactor hints fuel tokens.tail with
          | some (right, rest) => readOperations hints fuel (.operation s left right) rest
          | none => readingOf left tokens

/-- An operand of comparisons. -/
def readOperand (hints : Bool) : Nat → Tokens → Except Fault (Reading Expression)
  | 0, _ => noReading
  | fuel + 1, tokens => do
      match ← readFactor hints fuel tokens with
      | none => noReading
      | some (e, rest) => readOperations hints fuel e rest

/-- Comparisons with what has been read. -/
def readComparisons (hints : Bool) : Nat → Expression → Tokens → Except Fault (Reading Expression)
  | 0, _, _ => noReading
  | fuel + 1, left, tokens => do
      match ← afterComparison tokens with
      | none => readingOf left tokens
      | some inner =>
          match ← readOperand hints fuel inner with
          | some (_, rest) => readComparisons hints fuel (.comparison left) rest
          | none => readingOf left tokens

/-- A comparison, or the denial of one. -/
def readInversion (hints : Bool) : Nat → Tokens → Except Fault (Reading Expression)
  | 0, _ => noReading
  | fuel + 1, tokens => do
      if ← atWord "not" tokens then
        match ← readInversion hints fuel tokens.tail with
        | some (e, rest) => readingOf (.logical e) rest
        | none => noReading
      else
        match ← readOperand hints fuel tokens with
        | none => noReading
        | some (e, rest) => readComparisons hints fuel e rest

/-- Links by `and` and `or` to what has been read. -/
def readLinks (hints : Bool) : Nat → Expression → Tokens → Except Fault (Reading Expression)
  | 0, _, _ => noReading
  | fuel + 1, first, tokens => do
      if (← atWord "and" tokens) || (← atWord "or" tokens) then
        match ← readInversion hints fuel tokens.tail with
        | some (_, rest) => readLinks hints fuel (.logical first) rest
        | none => readingOf first tokens
      else readingOf first tokens

/-- Comparisons with `and` and `or` between them. -/
def readDisjunction (hints : Bool) : Nat → Tokens → Except Fault (Reading Expression)
  | 0, _ => noReading
  | fuel + 1, tokens => do
      match ← readInversion hints fuel tokens with
      | none => noReading
      | some (e, rest) => readLinks hints fuel e rest

/-- Throws the fault that is recognised behind an expression, if there is one. -/
def hintAfter : Nat → Expression → (tokens rest : Tokens) → Except Fault Unit
  | 0, _, _, _ => .ok ()
  | fuel + 1, e, tokens, rest => do
      if !(← startsOtherwise tokens) then
        if let some (_, last) ← readExpression false fuel rest then
          if (oldCommand? e).isNone && depthBefore tokens last != 0 then throw .forgottenComma
      if ← atWord "if" rest then
        if let some (_, last) ← readDisjunction true fuel rest.tail then
          let goesOn := (← atWord "else" last) || (← atSign ":" last)
          if !goesOn then throw .missingElse
      if let .name n ← nextToken tokens then
        let called ← atSign "(" tokens.tail
        if isName n && !called then
          let found ← readStarred true fuel tokens.tail
          if found && (oldCommand? (.name n)).isSome then throw (.missingBrackets n)

/-- An expression. -/
def readExpression (hints : Bool) : Nat → Tokens → Except Fault (Reading Expression)
  | 0, _ => noReading
  | fuel + 1, tokens => do
      match ← readDisjunction hints fuel tokens with
      | none => noReading
      | some (e, rest) =>
          if hints then hintAfter fuel e tokens rest
          if ← atWord "if" rest then
            if let some (_, afterTest) ← readDisjunction hints fuel rest.tail then
              if ← atWord "else" afterTest then
                if let some (_, last) ← readExpression hints fuel afterTest.tail then
                  return some (.conditional e, last)
          readingOf e rest

end

/-! ## §7. Whole texts. -/

/-- Tokens without the line ends in front. -/
def skipLineEnds : Tokens → Tokens
  | .lexeme l :: rest => if l.token = .lineEnd then skipLineEnds rest else .lexeme l :: rest
  | tokens => tokens

/-- More steps than reading takes. -/
def stepsFor (tokens : Tokens) : Nat := 24 * (tokens.length + 2)

/-- The expressions of all tokens; a tuple when there are commas. -/
def readAll (hints : Bool) (tokens : Tokens) : Except Fault (Reading Expression) := do
  let fuel := stepsFor tokens
  if (← nextToken tokens) == .indent then throw .unexpectedIndent
  match ← readExpression hints fuel tokens with
  | none => noReading
  | some (first, rest) =>
      let (e, last) ← match ← afterSign "," rest with
        | none => pure (first, rest)
        | some more =>
            let (items, last) ← readPlain hints fuel more
            pure (Expression.tuple (first :: items), last)
      match ← nextToken (skipLineEnds last) with
      | .stop => readingOf e []
      | .indent => throw .unexpectedIndent
      | _ => noReading

/-- The fault that ends the tokens, if there is one that counts more than a fault of an
expression. -/
def outweighing? (tokens : Tokens) : Option Fault :=
  match tokens.getLast? with
  | some (.fault f) => if f.outweighs then some f else none
  | _ => none

/-- The expression of a text. -/
def Expression.ofText (text : List Char) : Except Fault Expression :=
  let tokens := Token.ofText text
  let outcome := match readAll false tokens with
    | .ok none => readAll true tokens
    | other => other
  match outcome with
  | .ok (some (e, _)) => .ok e
  | .ok none => .error ((outweighing? tokens).getD .notExpression)
  | .error .unexpectedIndent => .error .unexpectedIndent
  | .error fault => .error ((outweighing? tokens).getD fault)

end SqlStatements.Console.Handler
