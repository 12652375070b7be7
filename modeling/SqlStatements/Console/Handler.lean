/-
  SqlStatements.Console.Handler
  ─────────────────────────────
  **The handler that a tag names.**

  A tag that begins with `@` may name a handler, as in `@press=app.open('x')`.  The
  arguments of the handler have to be literal: numbers, texts, constants, and tuples,
  sets and dictionaries of these.  `checkHandler` says what is wrong with them.
-/
import SqlStatements.Console.Handler.Expression

namespace SqlStatements.Console.Handler

open Text

/-! ## §1. Literal values. -/

/-- Why an expression has no value. -/
inductive ValueFault where
  | notLiteral
  /-- A value of this type is asked to be an item of a set or a key. -/
  | unhashable (type : String)
  deriving Repr, DecidableEq

/-- The wording of a fault. -/
def ValueFault.message : ValueFault → String
  | .notLiteral => "malformed node or string"
  | .unhashable type => s!"unhashable type: '{type}'"

/-- An expression without the brackets around it. -/
def Expression.inner : Expression → Expression
  | .group e => e.inner
  | e => e

/-- Whether an expression is a real number. -/
def Expression.isReal (e : Expression) : Bool :=
  match e.inner with
  | .constant .real => true
  | _ => false

/-- Whether an expression is an imaginary number. -/
def Expression.isImaginary (e : Expression) : Bool :=
  match e.inner with
  | .constant .imaginary => true
  | _ => false

/-- Whether a sign is one that numbers may have. -/
def isNumberSign (sign : String) : Bool := sign == "+" || sign == "-"

/-- Whether an expression is a real number with a sign or without. -/
def Expression.isSignedReal (e : Expression) : Bool :=
  match e.inner with
  | .signed sign n => isNumberSign sign && n.isReal
  | _ => e.isReal

/-- Whether an expression makes an empty set. -/
def Expression.isEmptySet (e : Expression) (arguments : Nat) : Bool :=
  match e.inner with
  | .name n => n == "set".toList && arguments == 0
  | _ => false

/-- Fails when a value cannot be an item of a set. -/
def requireHashable : Option String → Except ValueFault Unit
  | some type => .error (.unhashable type)
  | none => .ok ()

mutual

/-- Evaluates an expression as far as anything depends on it: gives the type that keeps
the value from being an item of a set, if there is one. -/
def Expression.evaluate : Expression → Except ValueFault (Option String)
  | .constant .formatted => .error .notLiteral
  | .constant _ => .ok none
  | .group e => e.evaluate
  | .tuple items => evaluateItems items
  | .set items => do
      evaluateSet items
      return some "set"
  | .dict members => do
      evaluateMembers members
      return some "dict"
  | .signed sign e =>
      if isNumberSign sign && (e.isReal || e.isImaginary) then .ok none else .error .notLiteral
  | .operation sign left right =>
      if isNumberSign sign && left.isSignedReal && right.isImaginary then .ok none
      else .error .notLiteral
  | .call e arguments => if e.isEmptySet arguments then .ok (some "set") else .error .notLiteral
  | _ => .error .notLiteral

/-- Evaluates the items of a tuple. -/
def evaluateItems : List Expression → Except ValueFault (Option String)
  | [] => .ok none
  | item :: items => do
      let first ← item.evaluate
      let others ← evaluateItems items
      return first.orElse fun _ => others

/-- Evaluates the items of a set. -/
def evaluateSet : List Expression → Except ValueFault Unit
  | [] => .ok ()
  | item :: items => do
      requireHashable (← item.evaluate)
      evaluateSet items

/-- Evaluates the members of a dictionary. -/
def evaluateMembers : List (Option Expression × Expression) → Except ValueFault Unit
  | [] => .ok ()
  | (none, _) :: _ => .error .notLiteral
  | (some key, value) :: members => do
      let hashable ← key.evaluate
      let _ ← value.evaluate
      requireHashable hashable
      evaluateMembers members

end

/-! ## §2. Handlers. -/

/-- Why the handler of a tag is refused. -/
inductive HandlerFault where
  /-- This text should be the arguments. -/
  | arguments (text : List Char) (fault : Fault)
  | value (fault : ValueFault)
  | nul
  deriving Repr, DecidableEq

/-- The text of the arguments of a handler: without a name in front of them, and empty
brackets when there is nothing but a name. -/
def argumentsText (handler : List Char) : List Char :=
  let text := strip handler
  let name := text.takeWhile fun c => isWordChar c || c == '.'
  let rest := text.drop name.length
  let bracketed := rest.head? == some '(' && rest.getLast? == some ')' && !rest.contains '\n'
  if rest.isEmpty then "()".toList
  else if bracketed then rest
  else text

/-- Checks the handler of a tag. -/
def checkHandler (handler : List Char) : Except HandlerFault Unit :=
  let text := argumentsText handler
  if text.contains '\x00' then .error .nul
  else
    match Expression.ofText text with
    | .error fault => .error (.arguments text fault)
    | .ok e =>
        match e.evaluate with
        | .error fault => .error (.value fault)
        | .ok _ => .ok ()

/-- The wording of a fault of the handler `handler`. -/
def HandlerFault.message (handler : List Char) (fault : HandlerFault) : String :=
  let shown := String.ofList (Quoted.chars handler)
  match fault with
  | .arguments text reason =>
      let arguments := String.ofList (Quoted.chars text)
      s!"error parsing {arguments} in {shown}; {reason.message}"
  | .value reason => s!"error parsing {shown}; {reason.message}"
  | .nul => s!"error parsing {shown}; source code string cannot contain null bytes"

end SqlStatements.Console.Handler
