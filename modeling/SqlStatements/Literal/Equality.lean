/-
  SqlStatements.Literal.Equality
  ──────────────────────────────
  **When two values are equal.**

  Numbers of all types are equal when their exact quantities are, texts and byte
  strings when their contents are, moments when they are the same instant, and
  containers of one type when their items are.  A scalar equals only scalars of its
  class, and those when the values they hold are equal.
-/
import SqlStatements.Literal.HostValue

namespace SqlStatements.Literal

open Decimal

/-! ## §1. Values without parts. -/

/-- Equality of moments: the same instant when both distances from universal time are
known, and the same reading of the clock when neither is. -/
def Moment.equals (a b : Moment) : Bool :=
  match a.instant?, b.instant? with
  | some s, some t => s == t && a.time.microsecond == b.time.microsecond
  | none, none => a == b
  | _, _ => false

/-- Equality of values that hold no others; `none` when one of them is a number that
may not be compared.  A member of a plain enumeration equals only itself, and two
values are never the same one. -/
def HostValue.sameAtom? (a b : HostValue) : Option Bool :=
  match a, b with
  | .nothing, .nothing => some true
  | .date d, .date e => some (d == e)
  | .time t, .time u => some (t == u)
  | .moment m, .moment n => some (m.equals n)
  | .uuid u, .uuid v => some (u == v)
  | .foreign type shown, .foreign type' shown' => some (type == type' && shown == shown')
  | _, _ =>
      match a.quantity?, b.quantity? with
      | some x, some y => x.equals? y
      | _, _ =>
          some ((a.str?.any fun s => b.str?.any (s == ·))
            || (a.bytes?.any fun data => b.bytes?.any (data == ·)))

/-- The value that a scalar holds, when its class is one that keeps values. -/
def Scalar.held? : Scalar → Option (Holder × HostValue)
  | .real x => some (.real, .float x)
  | .text s => some (.text, .str s)
  | .blob bytes => some (.blob, .bytes .fixed bytes)
  | _ => none

/-- Whether a scalar equals one that holds a value of another type. -/
def Scalar.equalsHolder? (s : Scalar) (h : Holder) (value : HostValue) : Option Bool :=
  match s.held? with
  | some (own, inner) => if own = h then inner.sameAtom? value else some false
  | none => some false

/-! ## §2. All values. -/

/-- The second of two answers when the first is yes, and the first otherwise. -/
def andThen? (first second : Option Bool) : Option Bool :=
  if first = some true then second else first

namespace HostValue

mutual

/-- Equality of values; `none` when it comes to a number that may not be compared. -/
def equals? : HostValue → HostValue → Option Bool
  | .list items, .list items' =>
      if items.length = items'.length then sameItems? items items' else some false
  | .tuple items, .tuple items' => sameItems? items items'
  | .dict members, .dict members' =>
      if members.length = members'.length then sameMembers? members members' else some false
  | .holder h value, .holder h' value' => if h = h' then equals? value value' else some false
  | .scalar s, .holder h value => s.equalsHolder? h value
  | .holder h value, .scalar s => s.equalsHolder? h value
  | .scalar s, .scalar t => some (s.equals t)
  | a, b => a.sameAtom? b

/-- Equality of the items of two containers, one by one up to the first difference. -/
def sameItems? : List HostValue → List HostValue → Option Bool
  | [], [] => some true
  | a :: rest, b :: rest' => andThen? (equals? a b) (sameItems? rest rest')
  | _, _ => some false

/-- Whether every member of a dictionary has an equal one of its name in another. -/
def sameMembers? : List (String × HostValue) → List (String × HostValue) → Option Bool
  | [], _ => some true
  | (name, value) :: rest, members =>
      match members.lookup name with
      | none => some false
      | some other => andThen? (equals? value other) (sameMembers? rest members)

end

end HostValue

end SqlStatements.Literal
