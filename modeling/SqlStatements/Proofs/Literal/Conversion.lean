/-
  SqlStatements.Proofs.Literal.Conversion
  ───────────────────────────────────────
  **What a value becomes is decided by the value under all its enumerations.**

  A value may be a member of an enumeration whose value is again a member, to any depth.
  Under all of them lies a value that is no member, and its type alone decides:

    • a whole number that is too wide for 64 bits is out of range,
    • a value of a type that no scalar stands for is unsupported, and the refusal names
      the type of this innermost value, not that of the enumeration,
    • every other value becomes a scalar.

  A scalar becomes itself, so that the conversion is a retraction onto the scalars, and
  a value and its scalar have the same literal.

  The types overlap: a member of an enumeration of whole numbers is a whole number
  itself, one of an enumeration of texts is a text, and a truth value counts as a whole
  number.  Whichever of its types is looked at, the scalar is the same.

  Main results:

    • `toScalar_of_count?`, `toScalar_of_str?` — overlapping types agree,
    • `innermost_outcome`                      — the three outcomes of an innermost value,
    • `toScalar_eq_integer_iff`                — the whole numbers that are built,
    • `toScalar_retraction`                    — the conversion of any value.
-/
import SqlStatements.Literal.ScalarValue

namespace SqlStatements.Literal

/-! ## §1. Scalars. -/

/-- A number has a scalar only if it fits, and the scalar holds this number. -/
theorem Scalar.map_ofInt_eq_ok_iff {m : Int} {n : Int64Value} :
    (Scalar.ofInt m).map ScalarValue.plain = .ok (.plain (.integer n)) ↔ m = n.value := by
  unfold Scalar.ofInt
  constructor
  · intro h
    split at h
    · injection h with h
      injection h with h
      injection h with h
      exact congrArg Int64Value.value h
    · exact nomatch h
  · rintro rfl
    rw [dif_pos n.fits]
    rfl

/-- **A scalar becomes itself.** -/
theorem ScalarValue.toScalar_host (s : ScalarValue) : s.host.toScalar = .ok s := by
  cases s <;> rfl

namespace HostValue

/-! ## §2. The value under the enumerations. -/

/-- The value under all the enumerations that a value is a member of. -/
def innermost : HostValue → HostValue
  | .member _ _ _ value => value.innermost
  | value => value

/-- The value is a member of an enumeration. -/
def IsMember : HostValue → Prop
  | .member _ _ _ _ => True
  | _ => False

theorem not_isMember_innermost (x : HostValue) : ¬ x.innermost.IsMember := by
  fun_induction innermost x with
  | case1 kind type name value ih => exact ih
  | case2 x hmember =>
      cases x with
      | member kind type name value => exact absurd rfl (hmember kind type name value)
      | _ => exact id

/-- **A member of an enumeration becomes what its value becomes**, to any depth. -/
theorem toScalar_innermost (x : HostValue) : x.innermost.toScalar = x.toScalar := by
  fun_induction innermost x with
  | case1 kind type name value ih => exact ih
  | case2 x hmember => rfl

/-! ## §3. Overlapping types. -/

theorem toScalar_of_int? {x : HostValue} {n : Int} (h : x.int? = some n) :
    x.toScalar = (Scalar.ofInt n).map .plain := by
  fun_induction int? x with
  | case1 m =>
      obtain rfl : m = n := Option.some.inj h
      rfl
  | case2 type name value ih => exact ih h
  | case3 x hint hwhole => exact absurd h (by simp)

/-- **A value that counts as a whole number becomes this number**, a truth value 1 or 0,
whether or not it is a member of an enumeration too. -/
theorem toScalar_of_count? {x : HostValue} {n : Int} (h : x.count? = some n) :
    x.toScalar = (Scalar.ofInt n).map .plain := by
  fun_cases count? x with
  | case1 b =>
      obtain rfl : intOfBool b = n := Option.some.inj h
      cases b <;> rfl
  | case2 x hbool =>
      rw [count?] at h
      · exact toScalar_of_int? h
      · exact hbool

/-- **A value that is a text becomes this text**, whether or not it is a member of an
enumeration too. -/
theorem toScalar_of_str? {x : HostValue} {s : String} (h : x.str? = some s) :
    x.toScalar = .ok (.plain (.text s)) := by
  fun_induction str? x with
  | case1 t =>
      obtain rfl : t = s := Option.some.inj h
      rfl
  | case2 type name value ih => exact ih h
  | case3 x hstr htext => exact absurd h (by simp)

/-! ## §4. The outcomes of an innermost value. -/

/-- The types that scalars stand for, the scalars' own among them.  Decimal numbers,
times of day, containers and values of foreign types are of none of these. -/
inductive Supported : HostValue → Prop where
  | nothing : Supported .nothing
  | bool (b : Bool) : Supported (.bool b)
  | int (n : Int) : Supported (.int n)
  | float (x : Decimal.Binary64) : Supported (.float x)
  | str (s : String) : Supported (.str s)
  | bytes (kind : BytesKind) (data : List UInt8) : Supported (.bytes kind data)
  | date (d : Date) : Supported (.date d)
  | moment (m : Moment) : Supported (.moment m)
  | uuid (u : Uuid) : Supported (.uuid u)
  | scalar (s : Scalar) : Supported (.scalar s)
  | holder (h : Holder) (value : HostValue) : Supported (.holder h value)

/-- A whole number that is too wide for 64 bits. -/
def TooWide (v : HostValue) : Prop := ∃ n, v = .int n ∧ ¬ FitsInt64 n

/-- What comes of an innermost value: one of three outcomes, each with the values it
belongs to. -/
inductive Outcome (v : HostValue) : Prop where
  | outOfRange (n : Int) (value : v = .int n) (wide : ¬ FitsInt64 n)
      (result : v.toScalar = .error (.outOfRange n))
  | unsupported (type : ¬ Supported v) (result : v.toScalar = .error (.unsupported v.typeName))
  | converted (type : Supported v) (narrow : ¬ TooWide v) (s : ScalarValue)
      (result : v.toScalar = .ok s)

theorem not_tooWide_of_ne_int {v : HostValue} (h : ∀ n, v ≠ .int n) : ¬ TooWide v := by
  rintro ⟨n, rfl, -⟩
  exact h n rfl

theorem Outcome.int (n : Int) : Outcome (.int n) := by
  by_cases hfits : FitsInt64 n
  · have hnarrow : ¬ TooWide (.int n) := by
      rintro ⟨m, hm, hwide⟩
      obtain rfl : n = m := by injection hm
      exact hwide hfits
    exact .converted (.int n) hnarrow (.plain (.integer ⟨n, hfits⟩))
      (by simp [toScalar, Scalar.ofInt, hfits, Except.map])
  · exact .outOfRange n rfl hfits (by simp [toScalar, Scalar.ofInt, hfits, Except.map])

/-- **A value that is no member has one of three outcomes**, by its type and its size. -/
theorem innermost_outcome {v : HostValue} (h : ¬ v.IsMember) : Outcome v := by
  have hother {v : HostValue} (hint : ∀ n, v ≠ .int n) (htype : Supported v)
      {s : ScalarValue} (hs : v.toScalar = .ok s) : Outcome v :=
    .converted htype (not_tooWide_of_ne_int hint) s hs
  cases v with
  | member kind type name value => exact absurd trivial h
  | int n => exact .int n
  -- the other types that scalars stand for: their size does not matter
  | nothing => exact hother nofun .nothing rfl
  | bool b => exact hother nofun (.bool b) rfl
  | float x => exact hother nofun (.float x) rfl
  | str s => exact hother nofun (.str s) rfl
  | bytes kind data => exact hother nofun (.bytes kind data) rfl
  | date d => exact hother nofun (.date d) rfl
  | moment m => exact hother nofun (.moment m) rfl
  | uuid u => exact hother nofun (.uuid u) rfl
  | scalar s => exact hother nofun (.scalar s) rfl
  | holder holder value => exact hother nofun (.holder holder value) rfl
  -- the types that no scalar stands for
  | decimal d => exact .unsupported nofun rfl
  | time t => exact .unsupported nofun rfl
  | list items => exact .unsupported nofun rfl
  | tuple items => exact .unsupported nofun rfl
  | dict members => exact .unsupported nofun rfl
  | foreign type shown => exact .unsupported nofun rfl

/-! ## §5. The three outcomes told apart. -/

/-- Out of range is a whole number that is too wide, and nothing else. -/
theorem Outcome.eq_outOfRange_iff {v : HostValue} (h : Outcome v) (n : Int) :
    v.toScalar = .error (.outOfRange n) ↔ v = .int n ∧ ¬ FitsInt64 n := by
  cases h with
  | outOfRange m value wide result =>
      rw [result, value]
      constructor
      · intro h
        obtain rfl : m = n := by injection h with h; injection h
        exact ⟨rfl, wide⟩
      · rintro ⟨h, -⟩
        obtain rfl : m = n := by injection h
        rfl
  | unsupported type result =>
      rw [result]
      refine ⟨nofun, ?_⟩
      rintro ⟨rfl, -⟩
      exact absurd (.int n) type
  | converted type narrow s result =>
      rw [result]
      exact ⟨nofun, fun h => absurd ⟨n, h⟩ narrow⟩

/-- Unsupported is a value of a type that no scalar stands for, and nothing else. -/
theorem Outcome.eq_unsupported_iff {v : HostValue} (h : Outcome v) (type : String) :
    v.toScalar = .error (.unsupported type) ↔ ¬ Supported v ∧ type = v.typeName := by
  cases h with
  | outOfRange n value wide result =>
      rw [result, value]
      exact ⟨nofun, fun h => absurd (.int n) h.1⟩
  | unsupported htype result =>
      rw [result]
      constructor
      · intro h
        obtain rfl : v.typeName = type := by injection h with h; injection h
        exact ⟨htype, rfl⟩
      · rintro ⟨-, rfl⟩
        rfl
  | converted htype narrow s result =>
      rw [result]
      exact ⟨nofun, fun h => absurd htype h.1⟩

/-- What is neither becomes a scalar. -/
theorem Outcome.exists_ok_iff {v : HostValue} (h : Outcome v) :
    (∃ s, v.toScalar = .ok s) ↔ Supported v ∧ ¬ TooWide v := by
  cases h with
  | outOfRange n value wide result =>
      rw [result]
      exact ⟨fun ⟨_, hs⟩ => (nomatch hs), fun h => absurd ⟨n, value, wide⟩ h.2⟩
  | unsupported htype result =>
      rw [result]
      exact ⟨fun ⟨_, hs⟩ => (nomatch hs), fun h => absurd h.1 htype⟩
  | converted htype narrow s result => exact ⟨fun _ => ⟨htype, narrow⟩, fun _ => ⟨s, result⟩⟩

/-! ## §6. Whole numbers. -/

/-- What becomes a given whole number: the number itself, the truth value that it counts
as, and the scalar that it is already. -/
inductive Becomes (n : Int64Value) : HostValue → Prop where
  | int : Becomes n (.int n.value)
  | bool (b : Bool) (value : n.value = if b then 1 else 0) : Becomes n (.bool b)
  | scalar : Becomes n (.scalar (.integer n))

/-- The whole numbers that are built: each is a plain number of 64 bits. -/
theorem toScalar_eq_integer_iff {v : HostValue} (h : ¬ v.IsMember) (n : Int64Value) :
    v.toScalar = .ok (.plain (.integer n)) ↔ Becomes n v := by
  constructor
  · intro hv
    cases v with
    | member kind type name value => exact absurd trivial h
    | int m =>
        obtain rfl : m = n.value := Scalar.map_ofInt_eq_ok_iff.mp hv
        exact .int
    | bool b =>
        obtain rfl : (⟨intOfBool b, _⟩ : Int64Value) = n := by
          injection hv with hv
          injection hv with hv
          injection hv
        exact .bool b rfl
    | scalar s =>
        obtain rfl : s = .integer n := by
          injection hv with hv
          injection hv
        exact .scalar
    | _ => exact nomatch hv
  · -- the other way round, a number that fits is wrapped as it is
    rintro (_ | ⟨b, hb⟩ | _)
    · exact Scalar.map_ofInt_eq_ok_iff.mpr rfl
    · obtain ⟨value, fits⟩ := n
      obtain rfl : value = intOfBool b := hb
      rfl
    · rfl

/-! ## §7. The conversion of any value. -/

theorem literal_innermost (x : HostValue) : x.innermost.literal = x.literal := by
  rw [literal, literal, toScalar_innermost]

/-- **The conversion is a retraction onto the scalars, and its domain is exact.**  A value
becomes what the value under all its enumerations becomes.  It is out of range exactly if
this is a whole number, and no truth value, that does not fit in 64 bits; it is unsupported
exactly if this is of no type that scalars stand for; and otherwise it becomes a scalar.
Each whole number that is built fits and is the number given, or 1 or 0 for a truth value.
A second conversion changes nothing, and a value and its scalar have the same literal. -/
theorem toScalar_retraction (x : HostValue) :
    ¬ x.innermost.IsMember
      ∧ x.toScalar = x.innermost.toScalar
      ∧ (∀ n, x.toScalar = .error (.outOfRange n) ↔ x.innermost = .int n ∧ ¬ FitsInt64 n)
      ∧ (∀ type, x.toScalar = .error (.unsupported type)
          ↔ ¬ Supported x.innermost ∧ type = x.innermost.typeName)
      ∧ ((∃ s, x.toScalar = .ok s) ↔ Supported x.innermost ∧ ¬ TooWide x.innermost)
      ∧ (∀ n : Int64Value, x.toScalar = .ok (.plain (.integer n)) ↔ Becomes n x.innermost)
      ∧ (x.toScalar.bind fun s => s.host.toScalar) = x.toScalar
      ∧ (x.toScalar.bind fun s => s.host.literal) = x.literal := by
  have hmember := not_isMember_innermost x
  have houtcome := innermost_outcome hmember
  -- from here on only the innermost value counts
  rw [← toScalar_innermost x, ← literal_innermost x]
  refine ⟨hmember, rfl, houtcome.eq_outOfRange_iff, houtcome.eq_unsupported_iff,
    houtcome.exists_ok_iff, toScalar_eq_integer_iff hmember, ?_, ?_⟩
  · cases hscalar : x.innermost.toScalar with
    | error refusal => rfl
    | ok s => exact s.toScalar_host
  · rw [literal]
    cases hscalar : x.innermost.toScalar with
    | error refusal => rfl
    | ok s =>
        show s.host.literal = s.literal
        rw [literal, s.toScalar_host]
        rfl

/-- A number one too wide, a truth value and a time of day, each under two enumerations. -/
theorem toScalar_retraction_nested :
    (member .plain "Color" "A" (member .whole "Level" "B" (.int (int64Max + 1)))).toScalar
        = .error (.outOfRange (int64Max + 1))
      ∧ (member .plain "Color" "A" (member .plain "Color" "B" (.bool true))).toScalar
        = .ok (.plain (.integer ⟨1, by decide⟩))
      ∧ (member .plain "Color" "A" (member .plain "Color" "B" (.time ⟨0, 0, 0, 0⟩))).toScalar
        = .error (.unsupported "time") := by
  refine ⟨?_, ?_, ?_⟩
  · exact ((toScalar_retraction _).2.2.1 _).mpr ⟨rfl, by decide⟩
  · exact ((toScalar_retraction _).2.2.2.2.2.1 _).mpr (.bool true rfl)
  · exact ((toScalar_retraction _).2.2.2.1 _).mpr ⟨nofun, rfl⟩

end HostValue

end SqlStatements.Literal
