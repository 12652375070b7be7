/-
  SqlStatements.Check
  ───────────────────
  **Checking every statement of a script with a parser.**

  The parser is a parameter: any function from a statement and a dialect to one of four
  outcomes.  A statement has an issue when the parser rejects it or finds nothing in
  it.  A parser that breaks down stops the whole check.
-/

namespace SqlStatements

/-! ## §1. Parsers. -/

/-- What a parser makes of a statement. -/
inductive ParseOutcome where
  | parsed
  /-- The parser ends without a result. -/
  | nothing
  | rejected (message : String)
  /-- The parser breaks down. -/
  | crashed (message : String)
  deriving Repr, DecidableEq

/-- A parser of single statements in a dialect. -/
abbrev SqlParser := (statement dialect : String) → ParseOutcome

/-- The breakdown of a parser. -/
structure Crash where
  message : String
  deriving Repr, DecidableEq

/-! ## §2. Single statements. -/

/-- The error that a parser finds in a statement, if any. -/
def statementError (parser : SqlParser) (statement dialect : String) :
    Except Crash (Option String) :=
  match parser statement dialect with
  | .parsed => .ok none
  | .nothing => .ok (some "SQLGlot returned None (invalid SQL)")
  | .rejected message => .ok (some s!"SQL parsing error: {message}")
  | .crashed message => .error ⟨message⟩

/-! ## §3. Scripts. -/

/-- A statement that does not parse, by its position in the script. -/
structure Issue where
  index : Nat
  statement : String
  error : String
  deriving Repr, DecidableEq

/-- The issue of the statement at a position, if its error is one. -/
def issue? (index : Nat) (statement : String) (error : Option String) : Option Issue :=
  error.map (⟨index, statement, ·⟩)

/-- The issues of statements whose first has the position `index`. -/
def issuesFrom (parser : SqlParser) (dialect : String) (index : Nat) :
    List String → Except Crash (List Issue)
  | [] => .ok []
  | statement :: rest =>
      match statementError parser statement dialect with
      | .error crash => .error crash
      | .ok error =>
          (issuesFrom parser dialect (index + 1) rest).map
            ((issue? index statement error).toList ++ ·)

/-- The issues of a script, in order. -/
def findIssues (parser : SqlParser) (dialect : String) (statements : List String) :
    Except Crash (List Issue) :=
  issuesFrom parser dialect 0 statements

/-- The statements that a check hands to the parser: all of them, up to and including
the first that it breaks down on. -/
def consulted (parser : SqlParser) (dialect : String) : List String → List String
  | [] => []
  | statement :: rest =>
      match parser statement dialect with
      | .crashed _ => [statement]
      | _ => statement :: consulted parser dialect rest

end SqlStatements
