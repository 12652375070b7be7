/-
  SqlStatements.CommandLine.Options
  ─────────────────────────────────
  **Reading the words of a command line.**

  A word that begins with a hyphen and is longer than that gives options; every other
  word is an operand.  A long option is two hyphens and a name, and its value is what
  follows an equals sign, or else the next word.  A word with one hyphen holds short
  options, a letter each; the first of them that takes a value takes the rest of the
  word, or else the next word.  Two hyphens alone end the options.

    • `readWord` reads one word of options,
    • `readWords` reads all words, up to the first operand or beyond it.
-/

namespace SqlStatements.CommandLine

/-! ## §1. Options. -/

/-- What an option stands for: a result, or one that is made from its value. -/
inductive Meaning (α : Type) where
  | flag (result : α)
  | valued (make : String → α)

/-- An option with its names, the long one with its hyphens and the short one without. -/
structure OptionForm (α : Type) where
  long : String
  short : Option Char := none
  meaning : Meaning α
  /-- What the option does, for the help text. -/
  summary : String

/-- What is wrong with the words of a command line. -/
inductive UsageError where
  | unknownOption (name : String)
  | missingValue (name : String)
  | unwantedValue (name : String)
  | missingOperand (name : String)
  | extraOperands (words : List String)
  | unknownChoice (name value : String) (choices : List String)
  | missingCommand
  | unknownCommand (name : String)
  deriving Repr, DecidableEq

/-- The wording of an error. -/
def UsageError.message : UsageError → String
  | .unknownOption name => s!"No such option: {name}"
  | .missingValue name => s!"Option '{name}' requires an argument."
  | .unwantedValue name => s!"Option '{name}' does not take a value."
  | .missingOperand name => s!"Missing argument '{name}'."
  | .extraOperands words =>
      let noun := if words.length = 1 then "argument" else "arguments"
      let shown := String.intercalate " " words
      s!"Got unexpected extra {noun} ({shown})"
  | .unknownChoice name value choices =>
      let expected := String.intercalate ", " (choices.map fun c => s!"'{c}'")
      s!"Invalid value for '{name}': '{value}' is not one of {expected}."
  | .missingCommand => "Missing command."
  | .unknownCommand name => s!"No such command '{name}'."

/-! ## §2. One word. -/

/-- An option that still needs its value. -/
structure Waiting (α : Type) where
  name : String
  make : String → α

/-- The options of one word, and the last of them if its value is the next word. -/
structure WordReading (α : Type) where
  found : List α
  waiting : Option (Waiting α)

/-- Whether a word gives options. -/
def isOptionWord (word : String) : Bool :=
  match word.toList with
  | '-' :: _ :: _ => true
  | _ => false

/-- A long option with or without a value. -/
def readLong {α : Type} (form : OptionForm α) (value : Option String) :
    Except UsageError (WordReading α) :=
  match form.meaning, value with
  | .flag result, none => .ok ⟨[result], none⟩
  | .flag _, some _ => .error (.unwantedValue form.long)
  | .valued make, some v => .ok ⟨[make v], none⟩
  | .valued make, none => .ok ⟨[], some ⟨form.long, make⟩⟩

/-- The short options of a word. -/
def readShorts {α : Type} (forms : List (OptionForm α)) :
    List Char → Except UsageError (WordReading α)
  | [] => .ok ⟨[], none⟩
  | c :: rest =>
      let name := String.ofList ['-', c]
      match forms.find? (·.short == some c) with
      | none => .error (.unknownOption name)
      | some form =>
          match form.meaning with
          | .flag result =>
              (readShorts forms rest).map fun r => ⟨result :: r.found, r.waiting⟩
          | .valued make =>
              if rest = [] then .ok ⟨[], some ⟨name, make⟩⟩
              else .ok ⟨[make (String.ofList rest)], none⟩

/-- The value after the equals sign of a long option. -/
def attachedValue : List Char → Option String
  | '=' :: value => some (String.ofList value)
  | _ => none

/-- The options of a word. -/
def readWord {α : Type} (forms : List (OptionForm α)) (word : String) :
    Except UsageError (WordReading α) :=
  let chars := word.toList
  let name := chars.takeWhile (· != '=')
  match forms.find? (·.long.toList == name) with
  | some form => readLong form (attachedValue (chars.drop name.length))
  | none =>
      if "--".toList.isPrefixOf chars then .error (.unknownOption (String.ofList name))
      else readShorts forms (chars.drop 1)

/-! ## §3. All words. -/

/-- The options and the operands of a command line, in order. -/
structure Arguments (α : Type) where
  options : List α := []
  operands : List String := []

/-- Arguments with further options in front. -/
def Arguments.withOptions {α : Type} (options : List α) (a : Arguments α) : Arguments α :=
  { a with options := options ++ a.options }

/-- Arguments with a further operand in front. -/
def Arguments.withOperand {α : Type} (word : String) (a : Arguments α) : Arguments α :=
  { a with operands := word :: a.operands }

/-- The arguments that some words give.  Options may follow operands if they are
`mixed`; otherwise all words from the first operand on are operands. -/
def readWords {α : Type} (forms : List (OptionForm α)) (mixed : Bool) :
    List String → Except UsageError (Arguments α)
  | [] => .ok {}
  | word :: rest =>
      if word = "--" then .ok { operands := rest }
      else if isOptionWord word then
        match readWord forms word with
        | .error error => .error error
        | .ok ⟨found, none⟩ => (readWords forms mixed rest).map (·.withOptions found)
        | .ok ⟨found, some waiting⟩ =>
            match rest with
            | [] => .error (.missingValue waiting.name)
            | value :: more =>
                (readWords forms mixed more).map
                  (·.withOptions (found ++ [waiting.make value]))
      else if mixed then (readWords forms mixed rest).map (·.withOperand word)
      else .ok { operands := word :: rest }

end SqlStatements.CommandLine
