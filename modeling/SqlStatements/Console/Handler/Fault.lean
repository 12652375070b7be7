/-
  SqlStatements.Console.Handler.Fault
  ───────────────────────────────────
  **What can be wrong with the arguments of a handler.**

  The first faults are those of single tokens: a text that does not end, brackets that
  do not match, a number that is cut off.  The others are those of expressions; the
  plainest of them says only that the tokens are no expression.
-/
import SqlStatements.Decimal.Whole

namespace SqlStatements.Console.Handler

open Text

/-! ## §1. Numbers. -/

/-- The ways in which a number may be written. -/
inductive NumberForm where
  | decimal
  | hexadecimal
  | octal
  | binary
  | imaginary
  deriving Repr, DecidableEq

/-- The name of a form. -/
def NumberForm.name : NumberForm → String
  | .decimal => "decimal"
  | .hexadecimal => "hexadecimal"
  | .octal => "octal"
  | .binary => "binary"
  | .imaginary => "imaginary"

/-! ## §2. Escapes in texts. -/

/-- What is wrong with an escape in a text. -/
inductive EscapeFault where
  /-- Too few hexadecimal digits follow the letter. -/
  | truncated (letter : Char) (digits : Nat)
  | beyondCharacters
  | malformedName
  deriving Repr, DecidableEq

/-- The wording of a fault. -/
def EscapeFault.message : EscapeFault → String
  | .truncated letter digits =>
      let pattern := String.ofList ('\\' :: letter :: List.replicate digits 'X')
      s!"truncated {pattern} escape"
  | .beyondCharacters => "illegal Unicode character"
  | .malformedName => "malformed \\N character escape"

/-! ## §3. Faults. -/

/-- What is wrong with a text that should be an expression. -/
inductive Fault where
  | neverClosed (bracket : Char)
  | unmatched (bracket : Char)
  /-- A closing bracket of another kind than the open one, with the line of that one when
  it is another line. -/
  | mismatched (closing opening : Char) (line : Option Nat)
  | tooManyBrackets
  /-- A text that does not end, between single or triple quotes. -/
  | unterminated (triple : Bool) (line : Nat)
  | invalidNumber (form : NumberForm)
  | invalidDigit (digit : Char) (form : NumberForm)
  | leadingZeros
  | invalidCharacter (c : Char)
  | unprintable (c : Char)
  | afterBackslash
  | unexpectedIndent
  /-- A whole number of so many digits is not read. -/
  | tooManyDigits (count : Nat)
  | bytesBeyondAscii
  | mixedTexts
  /-- The places from which and up to which an escape is faulty. -/
  | escape (start stop : Nat) (fault : EscapeFault)
  /-- The place of a faulty escape in a byte string. -/
  | byteEscape (position : Nat)
  | notExpression
  | forgottenComma
  | missingElse
  /-- A command without brackets. -/
  | missingBrackets (name : List Char)
  | assignmentForComparison
  /-- An assignment to what is no name. -/
  | cannotAssign (target : String)
  /-- An assignment inside an expression to what is no name. -/
  | cannotName (target : String)
  /-- An assignment to what is no name, among the arguments of a call. -/
  | assignmentAmongArguments
  | constantAmongArguments (name : String)
  | positionalAfterKeyword (unpacked : Bool)
  | starredExpression (double : Bool)
  | starredValue
  | missingValue
  | missingColon
  deriving Repr, DecidableEq

/-- The wording of a fault of an escape at places of a text. -/
def escapeMessage (start stop : Nat) (fault : EscapeFault) : String :=
  s!"(unicode error) 'unicodeescape' codec can't decode bytes in position {start}-{stop - 1}: "
    ++ fault.message

/-- The code point of a character in at least four digits. -/
def codePointText (c : Char) : String :=
  let digits := (Nat.toDigits 16 c.toNat).map Char.toUpper
  String.ofList (Decimal.padLeft 4 digits)

/-- The wording of a fault. -/
def Fault.message : Fault → String
  | .neverClosed bracket => s!"'{bracket}' was never closed"
  | .unmatched bracket => s!"unmatched '{bracket}'"
  | .mismatched closing opening line =>
      let place := match line with
        | some n => s!" on line {n}"
        | none => ""
      s!"closing parenthesis '{closing}' does not match opening parenthesis '{opening}'{place}"
  | .tooManyBrackets => "too many nested parentheses"
  | .unterminated triple line =>
      let kind := if triple then "triple-quoted string" else "string"
      s!"unterminated {kind} literal (detected at line {line})"
  | .invalidNumber form => s!"invalid {form.name} literal"
  | .invalidDigit digit form => s!"invalid digit '{digit}' in {form.name} literal"
  | .leadingZeros =>
      "leading zeros in decimal integer literals are not permitted; "
        ++ "use an 0o prefix for octal integers"
  | .invalidCharacter c => s!"invalid character '{c}' (U+{codePointText c})"
  | .unprintable c => s!"invalid non-printable character U+{codePointText c}"
  | .afterBackslash => "unexpected character after line continuation character"
  | .unexpectedIndent => "unexpected indent"
  | .tooManyDigits count =>
      Decimal.tooManyDigitsMessage count ++ " - Consider hexadecimal for huge integer literals "
        ++ "to avoid decimal conversion limits."
  | .bytesBeyondAscii => "bytes can only contain ASCII literal characters"
  | .mixedTexts => "cannot mix bytes and nonbytes literals"
  | .escape start stop fault => escapeMessage start stop fault
  | .byteEscape position => s!"(value error) invalid \\x escape at position {position}"
  | .notExpression => "invalid syntax"
  | .forgottenComma => "invalid syntax. Perhaps you forgot a comma?"
  | .missingElse => "expected 'else' after 'if' expression"
  | .missingBrackets name =>
      let command := String.ofList name
      s!"Missing parentheses in call to '{command}'. Did you mean {command}(...)?"
  | .assignmentForComparison => "invalid syntax. Maybe you meant '==' or ':=' instead of '='?"
  | .cannotAssign target =>
      s!"cannot assign to {target} here. Maybe you meant '==' instead of '='?"
  | .cannotName target => s!"cannot use assignment expressions with {target}"
  | .assignmentAmongArguments =>
      "expression cannot contain assignment, perhaps you meant \"==\"?"
  | .constantAmongArguments name => s!"cannot assign to {name}"
  | .positionalAfterKeyword unpacked =>
      "positional argument follows keyword argument" ++ (if unpacked then " unpacking" else "")
  | .starredExpression double =>
      let kind := if double then "double starred" else "starred"
      s!"cannot use {kind} expression here"
  | .starredValue => "cannot use a starred expression in a dictionary value"
  | .missingValue => "expression expected after dictionary key and ':'"
  | .missingColon => "':' expected after dictionary key"

/-- Whether a fault of the tokens counts more than a fault of an expression before it. -/
def Fault.outweighs : Fault → Bool
  | .neverClosed _ | .afterBackslash => false
  | _ => true

end SqlStatements.Console.Handler
