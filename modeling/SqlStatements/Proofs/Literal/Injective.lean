/-
  SqlStatements.Proofs.Literal.Injective
  ──────────────────────────────────────
  **A literal tells the scalar that it was written for.**

  The first character of a literal separates null, numbers, texts and byte strings.  Among
  the numbers, a floating point number has a point or an exponent behind its first digits,
  and a whole number has not.  Then each class is decoded by itself: the digits with their
  sign, the doubled quotes, the pairs of hexadecimal digits.  A number too large to be
  finite is written with an exponent without a sign, which no finite number has.

  Main results:

    • `Scalar.leading_sqlText`  — what the first character tells,
    • `realLiteral_injective`   — floating point numbers,
    • `Scalar.sqlText_eq_iff`   — two literals are equal only if the scalars are, except that
      null and what is no number are written alike.
-/
import SqlStatements.Proofs.Literal.SelfContained

namespace SqlStatements.Literal

open Decimal Lexical Text

/-! ## §1. The first character. -/

/-- What the first character of a literal tells. -/
inductive Leading where
  | null
  | number
  | text
  | blob
  deriving DecidableEq

/-- What the first character of a text tells. -/
def Leading.ofText : List Char → Leading
  | 'N' :: _ => .null
  | '\'' :: _ => .text
  | 'X' :: _ => .blob
  | _ => .number

/-- What the literal of a scalar begins with. -/
def Scalar.leading : Scalar → Leading
  | .integer _ => .number
  | .real x => if x.isNaN then .null else .number
  | .text _ => .text
  | .blob _ => .blob
  | .null => .null

/-- A sign and a digit behind it are the beginning of a number. -/
theorem Leading.ofText_sign_append (negative : Bool) {c : Char} (hc : c.isDigit = true)
    (rest : List Char) : ofText (sign negative ++ c :: rest) = .number := by
  cases negative with
  | true => rfl
  | false =>
      show ofText (c :: rest) = .number
      unfold ofText
      split
      case h_4 => rfl
      all_goals
        rename_i hcons
        obtain rfl := (List.cons.inj hcons).1
        exact absurd hc (by decide)

/-- **What a literal begins with tells the kind of its scalar.** -/
theorem Scalar.leading_sqlText (v : Scalar) : Leading.ofText v.sqlText.toList = v.leading := by
  cases v with
  | integer n =>
      obtain ⟨c, rest, hdigits⟩ := List.exists_cons_of_ne_nil (digitsOf_ne_nil n.value.natAbs)
      have hc : c.isDigit = true := isDigit_of_mem_digitsOf (by rw [hdigits]; simp)
      show Leading.ofText (toString n.value).toList = .number
      rw [toList_toString, hdigits, Leading.ofText_sign_append _ hc]
  | real x =>
      show Leading.ofText (realLiteral x).toList = if x.isNaN then .null else .number
      by_cases hnan : x.isNaN = true
      · rw [realLiteral, if_pos hnan, if_pos hnan]
        rfl
      · obtain ⟨-, c, rest, hbody, hc⟩ := realBody_word x
        rw [if_neg hnan, toList_realLiteral (by simpa using hnan), hbody,
          Leading.ofText_sign_append _ hc]
  | text s =>
      show Leading.ofText (textLiteral s).toList = .text
      rw [toList_textLiteral]
      rfl
  | blob bytes =>
      show Leading.ofText (blobLiteral bytes).toList = .blob
      rw [toList_blobLiteral]
      rfl
  | null => rfl

/-! ## §2. Numbers. -/

/-- The digits of a whole number hold no sign. -/
theorem head?_digitsOf_ne (n : Nat) : (digitsOf n).head? ≠ some '-' :=
  head?_ne_dash_of_isDigit fun _ hc => isDigit_of_mem_digitsOf hc

/-- **No two whole numbers have the same literal.** -/
theorem toString_injective {m n : Int} (h : toString m = toString n) : m = n := by
  have hlist := congrArg String.toList h
  rw [toList_toString, toList_toString] at hlist
  obtain ⟨hsign, hdigits⟩ :=
    sign_append_injective (head?_digitsOf_ne _) (head?_digitsOf_ne _) hlist
  have hmagnitude : m.natAbs = n.natAbs := digitsOf_injective hdigits
  rw [decide_eq_decide] at hsign
  omega

/-- The magnitude of a floating point number does not consist of digits only. -/
theorem dropWhile_realBody_ne_nil (x : Binary64) : (realBody x).dropWhile Char.isDigit ≠ [] := by
  unfold realBody
  split
  · decide
  · obtain ⟨n, htext, -⟩ := exists_numeral (shortest x.code)
    rw [← htext, n.span_text.2]
    rcases n.marked with hfraction | hexponent
    · simp [Numeral.pointText, hfraction]
    · obtain ⟨e, he⟩ := Option.ne_none_iff_exists'.mp hexponent
      simp [Numeral.tail, he]

/-- A whole number is never written like a floating point number. -/
theorem toString_ne_realLiteral (n : Int) {x : Binary64} (h : x.isNaN = false) :
    toString n ≠ realLiteral x := by
  intro heq
  have hlist := congrArg String.toList heq
  rw [toList_toString, toList_realLiteral h] at hlist
  obtain ⟨-, hsame⟩ :=
    sign_append_injective (head?_digitsOf_ne _) (head?_realBody_ne x) hlist
  -- a whole number is digits to its end
  apply dropWhile_realBody_ne_nil x
  rw [← hsame, List.dropWhile_eq_nil_iff]
  exact fun c hc => isDigit_of_mem_digitsOf hc

/-- An infinite magnitude is never written like a finite one: its exponent has no sign. -/
theorem write_ne_infinite (d : Scientific) : d.write layout ≠ "9e999".toList := by
  obtain ⟨n, htext, -⟩ := exists_numeral d
  rw [← htext]
  intro hsame
  -- behind its first digits a numeral has a point, or an `e` and a sign
  have hrest := n.span_text.2
  rw [hsame] at hrest
  have hafter : "9e999".toList.dropWhile Char.isDigit = ['e', '9', '9', '9'] := rfl
  rw [hafter] at hrest
  unfold Numeral.pointText Numeral.tail at hrest
  split at hrest
  · split at hrest
    · exact absurd hrest (by simp)
    · rename_i e _
      have hexponent : ['9', '9', '9'] = exponentText layout.exponentWidth e :=
        (List.cons.inj hrest).2
      have hsign : '9' = if e < 0 then '-' else '+' := (List.cons.inj hexponent).1
      split at hsign <;> exact absurd hsign (by decide)
  · exact absurd (List.cons.inj hrest).1 (by decide)

/-- The magnitude that is written tells the magnitude. -/
theorem realBody_injective {x y : Binary64} (h : realBody x = realBody y) :
    x.code = y.code := by
  unfold realBody at h
  split at h <;> split at h
  · rename_i hx hy
    rw [Binary64.isInfinite, beq_iff_eq] at hx hy
    rw [hx, hy]
  · exact absurd h.symm (write_ne_infinite _)
  · exact absurd h (write_ne_infinite _)
  · exact write_shortest_injective h

/-- **No two floating point numbers have the same literal**, the two zeros included. -/
theorem realLiteral_injective {x y : Binary64} (hx : x.isNaN = false) (hy : y.isNaN = false)
    (h : realLiteral x = realLiteral y) : x = y := by
  have hlist := congrArg String.toList h
  rw [toList_realLiteral hx, toList_realLiteral hy] at hlist
  obtain ⟨hsign, hbody⟩ :=
    sign_append_injective (head?_realBody_ne x) (head?_realBody_ne y) hlist
  exact Binary64.eq_of_sign_code hsign (realBody_injective hbody)

/-! ## §3. Texts and byte strings. -/

theorem textLiteral_injective {s t : String} (h : textLiteral s = textLiteral t) : s = t := by
  have hlist := congrArg String.toList h
  rw [toList_textLiteral, toList_textLiteral] at hlist
  apply String.toList_injective
  rw [← undoubled_literal '\'' s.toList, hlist, undoubled_literal]

theorem blobLiteral_injective {a b : List UInt8} (h : blobLiteral a = blobLiteral b) : a = b := by
  have hlist := congrArg String.toList h
  rw [toList_blobLiteral, toList_blobLiteral] at hlist
  have hliteral := List.append_cancel_left hlist
  apply Hex.upperBytes_injective
  rw [← undoubled_literal '\'' (Hex.upperBytes a), hliteral, undoubled_literal]

/-! ## §4. All scalars. -/

/-- A scalar that is written as null: null itself, and what is no number. -/
def Scalar.WrittenNull : Scalar → Prop
  | .real x => x.isNaN = true
  | .null => True
  | _ => False

theorem Scalar.leading_eq_null_iff {v : Scalar} : v.leading = .null ↔ v.WrittenNull := by
  cases v with
  | real x =>
      unfold leading WrittenNull
      cases x.isNaN <;> simp
  | integer _ | text _ | blob _ | null => simp [leading, WrittenNull]

theorem Scalar.sqlText_of_writtenNull {v : Scalar} (h : v.WrittenNull) : v.sqlText = "NULL" := by
  cases v with
  | real x =>
      have hnan : x.isNaN = true := h
      show realLiteral x = "NULL"
      rw [realLiteral, if_pos hnan]
  | null => rfl
  | integer _ | text _ | blob _ => exact absurd h id

theorem Scalar.isNaN_of_leading {x : Binary64} (h : (Scalar.real x).leading ≠ .null) :
    x.isNaN = false := by
  cases hnan : x.isNaN with
  | false => rfl
  | true => exact absurd (if_pos hnan) h

/-- Two scalars with the same literal are equal, if it is not that of null. -/
theorem Scalar.eq_of_sqlText {x y : Scalar} (h : x.sqlText = y.sqlText)
    (hleading : x.leading = y.leading) (hnull : x.leading ≠ .null) : x = y := by
  have hnull' : y.leading ≠ .null := hleading ▸ hnull
  -- what the literals begin with leaves the four classes and the two kinds of numbers
  cases x with
  | integer m =>
      cases y with
      | integer n =>
          obtain ⟨m, hm⟩ := m
          obtain ⟨n, hn⟩ := n
          obtain rfl : m = n := toString_injective h
          rfl
      | real y => exact absurd h (toString_ne_realLiteral m.value (isNaN_of_leading hnull'))
      | text _ | blob _ | null => exact absurd hleading (by simp [leading])
  | real x =>
      have hx := isNaN_of_leading hnull
      cases y with
      | integer n => exact absurd h.symm (toString_ne_realLiteral n.value hx)
      | real y => exact congrArg real (realLiteral_injective hx (isNaN_of_leading hnull') h)
      | text _ | blob _ | null => exact absurd hleading (by simp [leading, hx])
  | text s =>
      cases y with
      | text t => exact congrArg text (textLiteral_injective h)
      | real y => exact absurd hleading (by simp [leading, isNaN_of_leading hnull'])
      | integer _ | blob _ | null => exact absurd hleading (by simp [leading])
  | blob bytes =>
      cases y with
      | blob bytes' => exact congrArg blob (blobLiteral_injective h)
      | real y => exact absurd hleading (by simp [leading, isNaN_of_leading hnull'])
      | integer _ | text _ | null => exact absurd hleading (by simp [leading])
  | null => exact absurd rfl hnull

/-- **Two literals are equal only if the scalars are**, of the same class and with the same
value down to the sign of zero, except that null and what is no number are written alike. -/
theorem Scalar.sqlText_eq_iff (x y : Scalar) :
    x.sqlText = y.sqlText ↔ x = y ∨ x.WrittenNull ∧ y.WrittenNull := by
  constructor
  · intro h
    have hleading : x.leading = y.leading := by
      rw [← x.leading_sqlText, ← y.leading_sqlText, h]
    by_cases hnull : x.leading = .null
    · exact .inr ⟨leading_eq_null_iff.mp hnull, leading_eq_null_iff.mp (hleading ▸ hnull)⟩
    · exact .inl (eq_of_sqlText h hleading hnull)
  · rintro (rfl | ⟨hx, hy⟩)
    · rfl
    · rw [sqlText_of_writtenNull hx, sqlText_of_writtenNull hy]

end SqlStatements.Literal
