/-
  SqlStatements.Script.Collection
  ───────────────────────────────
  **A parsed script: an ordered collection of statements that never changes.**

  A script is cut into statements once, when it is made.  After that its statements
  can be counted, taken by position, sliced and searched.  Positions may be negative,
  which counts them from the end.
-/
import SqlStatements.Int64
import SqlStatements.Script.Statements
import SqlStatements.Settings
import SqlStatements.Text.Quoted

namespace SqlStatements

/-! ## §1. Scripts. -/

/-- The statements of a script, in order. -/
structure Script where
  statements : List String
  deriving Repr, DecidableEq, Inhabited

namespace Script

/-- The script of a text. -/
def ofText (text : String) (settings : Settings) : Script :=
  ⟨(splitScript text.toList settings.triggerBlocks).map String.ofList⟩

/-- The number of statements. -/
def size (s : Script) : Nat := s.statements.length

/-- Whether there is no statement at all. -/
def isEmpty (s : Script) : Bool := s.statements.isEmpty

/-- The statements from the last to the first. -/
def reversed (s : Script) : List String := s.statements.reverse

/-- The number of times a statement occurs. -/
def count (s : Script) (statement : String) : Nat := s.statements.count statement

/-- Whether a statement occurs. -/
def contains (s : Script) (statement : String) : Bool := s.statements.contains statement

/-- The display of a script: the list of its statements. -/
def display (s : Script) : String := s!"SQLScript({Text.Quoted.texts s.statements})"

/-! ## §2. What may be refused. -/

/-- Why a request to a script is refused. -/
inductive Refusal where
  | positionOutOfRange
  /-- The position is beyond what a machine word can hold. -/
  | positionTooLarge
  | zeroStep
  | notFound
  | noAssignment
  | noDeletion
  /-- A script has no operation of this name. -/
  | noOperation (name : String)
  deriving Repr, DecidableEq

/-- The wording of a refusal. -/
def Refusal.message : Refusal → String
  | .positionOutOfRange => "tuple index out of range"
  | .positionTooLarge => "cannot fit 'int' into an index-sized integer"
  | .zeroStep => "slice step cannot be zero"
  | .notFound => ""
  | .noAssignment => "'SQLScript' object does not support item assignment"
  | .noDeletion => "'SQLScript' object doesn't support item deletion"
  | .noOperation name => s!"'SQLScript' object has no attribute '{name}'"

/-! ## §3. Positions. -/

/-- The statement at a position. -/
def get (s : Script) (position : Int) : Except Refusal String :=
  if ¬FitsInt64 position then .error .positionTooLarge
  else
    let index := if position < 0 then position + s.size else position
    if index < 0 then .error .positionOutOfRange
    else
      match s.statements[index.toNat]? with
      | some statement => .ok statement
      | none => .error .positionOutOfRange

/-! ## §4. Slices. -/

/-- A request for every `step`-th statement from `start` up to but not at `stop`; an
end that is left out is the end of the script in the direction of the step. -/
structure Slice where
  start : Option Int
  stop : Option Int
  step : Option Int
  deriving Repr, DecidableEq

/-- An end of a slice as a position between `low` and `high`; a negative one counts
from the end. -/
def Slice.clamp (size low high : Int) (bound : Int) : Int :=
  if bound < 0 then max (bound + size) low else min bound high

/-- The positions `start`, `start + step` and so on, at most `steps` of them, as long
as they stand before `stop` in the direction of the step. -/
def Slice.positions (step stop : Int) : Nat → Int → List Int
  | 0, _ => []
  | steps + 1, here =>
      if (0 < step ∧ here < stop) ∨ (step < 0 ∧ stop < here) then
        here :: positions step stop steps (here + step)
      else []

/-- The statements of a slice. -/
def slice (s : Script) (request : Slice) : Except Refusal (List String) :=
  let step := request.step.getD 1
  let n : Int := s.size
  let low : Int := if step < 0 then -1 else 0
  let high : Int := if step < 0 then n - 1 else n
  let start := (request.start.map (Slice.clamp n low high)).getD (if step < 0 then high else low)
  let stop := (request.stop.map (Slice.clamp n low high)).getD (if step < 0 then low else high)
  if step = 0 then .error .zeroStep
  else .ok ((Slice.positions step stop s.size start).filterMap fun i => s.statements[i.toNat]?)

/-! ## §5. Search. -/

/-- The position of the first occurrence of a statement from `start` on and before
`stop`.  A negative start counts from the end and is never before the beginning; a
negative stop counts from the end. -/
def indexOf (s : Script) (statement : String) (start : Int) (stop : Option Int) :
    Except Refusal Nat :=
  let n : Int := s.size
  let first := if start < 0 then max (n + start) 0 else start
  let last := stop.map fun e => if e < 0 then n + e else e
  let candidates := (List.range s.size).filter fun (i : Nat) =>
    first ≤ (i : Int) && last.all ((i : Int) < ·)
  match candidates.find? (fun (i : Nat) => s.statements[i]? == some statement) with
  | some i => .ok i
  | none => .error .notFound

end Script

end SqlStatements
