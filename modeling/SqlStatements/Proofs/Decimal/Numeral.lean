/-
  SqlStatements.Proofs.Decimal.Numeral
  ────────────────────────────────────
  **What is written of a number reads back with its value.**

  However a decimal number is laid out, it is written as a numeral: digits, then a point
  and more digits or an exponent with a sign, or both.  A numeral can be taken apart at
  its point and its `e`, and the digits on the two sides of the point, with the exponent,
  give the value of the number that was written.

  Main results:

    • `exists_numeral`          — what is written is a numeral,
    • `Numeral.unsigned?_text`  — reading a numeral,
    • `exists_unsigned?_write`  — reading what was written.
-/
import Mathlib.Algebra.Order.Field.Power
import Mathlib.Tactic.FieldSimp
import Mathlib.Tactic.Ring
import SqlStatements.Decimal.Numeral

namespace SqlStatements.Decimal

/-! ## §1. Digits. -/

theorem numberOf_eq (digits : List Char) : numberOf digits = Nat.ofDigitChars 10 digits 0 :=
  Nat.ofDigitChars_eq_foldl.symm

/-- The digits of a number denote it. -/
theorem numberOf_digitsOf (n : Nat) : numberOf (digitsOf n) = n := by
  rw [numberOf_eq]
  exact Nat.ofDigitChars_ten_toDigits

theorem isDigit_of_mem_digitsOf {n : Nat} {c : Char} (h : c ∈ digitsOf n) : c.isDigit = true :=
  Nat.isDigit_of_mem_toDigits (by decide) (by decide) h

theorem digitsOf_ne_nil (n : Nat) : digitsOf n ≠ [] :=
  Nat.toDigits_ne_nil

/-- Zeros in front of digits change nothing. -/
theorem numberOf_zeros_append (k : Nat) (digits : List Char) :
    numberOf (List.replicate k '0' ++ digits) = numberOf digits := by
  rw [numberOf_eq, numberOf_eq, Nat.ofDigitChars_append, Nat.ofDigitChars_replicate_zero,
    Nat.mul_zero]

/-- Zeros behind digits multiply by ten. -/
theorem numberOf_append_zeros (digits : List Char) (k : Nat) :
    numberOf (digits ++ List.replicate k '0') = numberOf digits * 10 ^ k := by
  rw [numberOf_eq, numberOf_eq, Nat.ofDigitChars_append, Nat.ofDigitChars_replicate_zero,
    Nat.mul_comm]

theorem isDigit_of_mem_zeros {k : Nat} {c : Char} (h : c ∈ List.replicate k '0') :
    c.isDigit = true := by
  obtain rfl := (List.mem_replicate.mp h).2
  rfl

theorem isDigit_of_mem_padLeft {width n : Nat} {c : Char} (h : c ∈ padLeft width (digitsOf n)) :
    c.isDigit = true := by
  rcases List.mem_append.mp h with h | h
  · exact isDigit_of_mem_zeros h
  · exact isDigit_of_mem_digitsOf h

theorem padLeft_ne_nil (width n : Nat) : padLeft width (digitsOf n) ≠ [] := by
  simp [padLeft, digitsOf_ne_nil]

theorem numberOf_padLeft (width n : Nat) : numberOf (padLeft width (digitsOf n)) = n := by
  rw [padLeft, numberOf_zeros_append, numberOf_digitsOf]

/-- The digits of a number tell the number. -/
theorem digitsOf_injective {m n : Nat} (h : digitsOf m = digitsOf n) : m = n := by
  rw [← numberOf_digitsOf m, h, numberOf_digitsOf]

/-- A run of digits ends before a character that is no digit. -/
theorem span_digits {digits rest : List Char} (hdigits : ∀ c ∈ digits, c.isDigit = true)
    (hrest : ∀ c ∈ rest.head?, c.isDigit = false) :
    (digits ++ rest).takeWhile Char.isDigit = digits
      ∧ (digits ++ rest).dropWhile Char.isDigit = rest := by
  rw [List.takeWhile_append_of_pos hdigits, List.dropWhile_append_of_pos hdigits]
  cases rest with
  | nil => simp
  | cons c rest =>
      have hc : ¬ c.isDigit = true := by simp [hrest c rfl]
      rw [List.takeWhile_cons_of_neg hc, List.dropWhile_cons_of_neg hc, List.append_nil]
      exact ⟨rfl, rfl⟩

/-- The sign that stands in front of the digits of a number. -/
def sign (negative : Bool) : List Char := if negative then ['-'] else []

/-- A text that does not begin with a minus sign can be told from one behind a sign. -/
theorem sign_append_injective {negative negative' : Bool} {a b : List Char}
    (ha : a.head? ≠ some '-') (hb : b.head? ≠ some '-')
    (h : sign negative ++ a = sign negative' ++ b) : negative = negative' ∧ a = b := by
  cases negative <;> cases negative'
  · exact ⟨rfl, h⟩
  · exact absurd (congrArg List.head? h) ha
  · exact absurd (congrArg List.head? h).symm hb
  · exact ⟨rfl, (List.cons.inj h).2⟩

/-- A whole number is written as its sign and the digits of its magnitude. -/
theorem toList_toString (n : Int) :
    (toString n).toList = sign (decide (n < 0)) ++ digitsOf n.natAbs := by
  rw [Int.toString_eq_repr, Int.repr_eq_if]
  by_cases h : 0 ≤ n
  · have hsign : decide (n < 0) = false := by simpa using h
    rw [if_pos h, hsign, Nat.repr_eq_ofList_toDigits, String.toList_ofList,
      show n.toNat = n.natAbs by omega]
    rfl
  · have hsign : decide (n < 0) = true := by simpa using h
    rw [if_neg h, hsign, Nat.repr_eq_ofList_toDigits, show (-n).toNat = n.natAbs by omega,
      String.toList_append, String.toList_ofList, String.toList_ofList]
    rfl

/-! ## §2. Numerals. -/

/-- The value of a decimal number. -/
def Scientific.value (d : Scientific) : ℚ := d.digits * 10 ^ d.exponent

/-- A number as it is written: digits, the digits behind the point, if there is one, and an
exponent, if there is one.  One of the two there is. -/
structure Numeral where
  whole : List Char
  fraction : List Char
  exponent : Option Int
  whole_ne_nil : whole ≠ []
  isDigit_whole : ∀ c ∈ whole, c.isDigit = true
  isDigit_fraction : ∀ c ∈ fraction, c.isDigit = true
  marked : fraction ≠ [] ∨ exponent ≠ none

namespace Numeral

/-- The point and the digits behind it. -/
def pointText (n : Numeral) : List Char :=
  if n.fraction = [] then [] else '.' :: n.fraction

/-- The exponent with its `e`. -/
def tail (n : Numeral) : List Char :=
  match n.exponent with
  | none => []
  | some e => 'e' :: exponentText layout.exponentWidth e

/-- The whole numeral. -/
def text (n : Numeral) : List Char := n.whole ++ (n.pointText ++ n.tail)

/-- The number that a numeral denotes. -/
def scientific (n : Numeral) : Scientific :=
  ⟨numberOf (n.whole ++ n.fraction), n.exponent.getD 0 - n.fraction.length⟩

end Numeral

/-! ## §3. Reading. -/

theorem splitSign_exponentText (width : Nat) (e : Int) :
    splitSign (exponentText width e) = (decide (e < 0), padLeft width (digitsOf e.natAbs)) := by
  unfold exponentText
  by_cases h : e < 0 <;> simp [h, splitSign]

/-- An exponent reads back. -/
theorem exponent?_exponentText (width : Nat) (e : Int) :
    exponent? ('e' :: exponentText width e) = some e := by
  have hdigits : (padLeft width (digitsOf e.natAbs)).all Char.isDigit = true :=
    List.all_eq_true.mpr fun c hc => isDigit_of_mem_padLeft hc
  have hne : (padLeft width (digitsOf e.natAbs)).isEmpty = false := by
    simp [padLeft_ne_nil]
  simp only [exponent?, splitSign_exponentText, hdigits, hne, numberOf_padLeft]
  show some (if decide (e < 0) = true then -(e.natAbs : Int) else e.natAbs) = some e
  congr 1
  by_cases h : e < 0
  · rw [if_pos (by simpa using h)]
    omega
  · rw [if_neg (by simpa using h)]
    omega

theorem Numeral.exponent?_tail (n : Numeral) : exponent? n.tail = some (n.exponent.getD 0) := by
  unfold tail
  cases n.exponent with
  | none => rfl
  | some e => exact exponent?_exponentText layout.exponentWidth e

theorem Numeral.head?_tail (n : Numeral) : ∀ c ∈ n.tail.head?, c = 'e' := by
  unfold tail
  cases n.exponent <;> simp

/-- A numeral begins with a digit. -/
theorem Numeral.exists_text_eq_cons (n : Numeral) :
    ∃ c rest, n.text = c :: rest ∧ c.isDigit = true := by
  obtain ⟨c, rest, hwhole⟩ := List.exists_cons_of_ne_nil n.whole_ne_nil
  refine ⟨c, rest ++ (n.pointText ++ n.tail), ?_, n.isDigit_whole c (by simp [hwhole])⟩
  rw [text, hwhole, List.cons_append]

theorem Numeral.not_isDigit_tail (n : Numeral) : ∀ c ∈ n.tail.head?, c.isDigit = false := by
  intro c hc
  rw [n.head?_tail c hc]
  rfl

/-- The first digits of a numeral end at its point, or else at its `e`. -/
theorem Numeral.span_text (n : Numeral) :
    n.text.takeWhile Char.isDigit = n.whole
      ∧ n.text.dropWhile Char.isDigit = n.pointText ++ n.tail := by
  refine span_digits n.isDigit_whole fun c hc => ?_
  unfold pointText at hc
  split at hc
  · exact n.not_isDigit_tail c hc
  · obtain rfl : '.' = c := by simpa using hc
    rfl

/-- **A numeral reads as the number that it denotes.** -/
theorem Numeral.unsigned?_text (n : Numeral) : unsigned? n.text = some n.scientific := by
  have hwhole : n.whole.isEmpty = false := by simp [n.whole_ne_nil]
  obtain ⟨htake, hdrop⟩ := n.span_text
  by_cases hfraction : n.fraction = []
  · -- no point: the exponent follows the digits
    have hpointText : n.pointText = [] := if_pos hfraction
    have hpoint : n.tail.head? ≠ some '.' := by
      intro hhead
      exact absurd (n.head?_tail '.' hhead) (by decide)
    have hrest : n.tail = [] ∨ ∃ more, n.tail = 'e' :: more := by
      cases hcons : n.tail with
      | nil => exact .inl rfl
      | cons c more =>
          obtain rfl := n.head?_tail c (by rw [hcons]; rfl)
          exact .inr ⟨more, rfl⟩
    have hexponent := n.exponent?_tail
    unfold unsigned? scientific
    rw [htake, hdrop, hpointText, List.nil_append]
    rcases hrest with hnil | ⟨more, hmore⟩
    · rw [hnil] at hexponent ⊢
      simp [hwhole, hexponent, hfraction]
    · rw [hmore] at hexponent ⊢
      simp [hwhole, hexponent, hfraction]
  · have hpointText : n.pointText = '.' :: n.fraction := if_neg hfraction
    obtain ⟨htake', hdrop'⟩ := span_digits n.isDigit_fraction n.not_isDigit_tail
    unfold unsigned? scientific
    rw [htake, hdrop, hpointText, List.cons_append]
    simp [hwhole, htake', hdrop', n.exponent?_tail]

/-! ## §4. Writing. -/

section
variable (d : Scientific)

/-- A number whose first digit stands behind the point. -/
theorem exists_numeral_small {zeros : Nat}
    (h : -((zeros + (digitsOf d.digits).length : Nat) : Int) = d.exponent) :
    ∃ n : Numeral, n.text = ['0', '.'] ++ List.replicate zeros '0' ++ digitsOf d.digits
      ∧ n.scientific.value = d.value := by
  refine ⟨⟨['0'], List.replicate zeros '0' ++ digitsOf d.digits, none, by simp, by simp, ?_,
    .inl (by simp [digitsOf_ne_nil])⟩, ?_, ?_⟩
  · intro c hc
    rcases List.mem_append.mp hc with hc | hc
    · exact isDigit_of_mem_zeros hc
    · exact isDigit_of_mem_digitsOf hc
  · simp [Numeral.text, Numeral.pointText, Numeral.tail, digitsOf_ne_nil]
  · have hdigits : numberOf (['0'] ++ (List.replicate zeros '0' ++ digitsOf d.digits))
        = d.digits := by
      rw [show ['0'] = List.replicate 1 '0' from rfl, numberOf_zeros_append, numberOf_zeros_append,
        numberOf_digitsOf]
    have hsame : (⟨numberOf (['0'] ++ (List.replicate zeros '0' ++ digitsOf d.digits)),
        0 - (List.replicate zeros '0' ++ digitsOf d.digits).length⟩ : Scientific) = d := by
      rw [hdigits, List.length_append, List.length_replicate, Int.zero_sub, h]
    exact congrArg Scientific.value hsame

/-- A number whose point stands between two of its digits. -/
theorem exists_numeral_inner {place : Nat} (hpos : 0 < place)
    (hlt : place < (digitsOf d.digits).length)
    (h : (place : Int) - (digitsOf d.digits).length = d.exponent) :
    ∃ n : Numeral,
      n.text = (digitsOf d.digits).take place ++ '.' :: (digitsOf d.digits).drop place
        ∧ n.scientific.value = d.value := by
  have hdrop : (digitsOf d.digits).drop place ≠ [] := by
    rw [Ne, List.drop_eq_nil_iff]
    omega
  refine ⟨⟨(digitsOf d.digits).take place, (digitsOf d.digits).drop place, none, ?_,
    fun c hc => isDigit_of_mem_digitsOf (List.mem_of_mem_take hc),
    fun c hc => isDigit_of_mem_digitsOf (List.mem_of_mem_drop hc), .inl hdrop⟩, ?_, ?_⟩
  · rw [Ne, List.take_eq_nil_iff, not_or]
    exact ⟨by omega, digitsOf_ne_nil d.digits⟩
  · simp [Numeral.text, Numeral.pointText, Numeral.tail, hdrop]
  · have hsame : (⟨numberOf ((digitsOf d.digits).take place ++ (digitsOf d.digits).drop place),
        0 - ((digitsOf d.digits).drop place).length⟩ : Scientific) = d := by
      rw [List.take_append_drop, numberOf_digitsOf, List.length_drop, Nat.cast_sub hlt.le,
        Int.zero_sub, Int.neg_sub, h]
    exact congrArg Scientific.value hsame

/-- A whole number, with zeros up to the point. -/
theorem exists_numeral_whole {zeros : Nat} (h : (zeros : Int) = d.exponent) :
    ∃ n : Numeral, n.text = digitsOf d.digits ++ List.replicate zeros '0' ++ ['.', '0']
      ∧ n.scientific.value = d.value := by
  refine ⟨⟨digitsOf d.digits ++ List.replicate zeros '0', ['0'], none, ?_, ?_, by simp,
    .inl (by simp)⟩, ?_, ?_⟩
  · simp [digitsOf_ne_nil]
  · intro c hc
    rcases List.mem_append.mp hc with hc | hc
    · exact isDigit_of_mem_digitsOf hc
    · exact isDigit_of_mem_zeros hc
  · simp [Numeral.text, Numeral.pointText, Numeral.tail]
  · have hdigits : numberOf (digitsOf d.digits ++ List.replicate zeros '0' ++ ['0'])
        = d.digits * 10 ^ zeros * 10 := by
      rw [show ['0'] = List.replicate 1 '0' from rfl, numberOf_append_zeros, numberOf_append_zeros,
        numberOf_digitsOf, pow_one]
    -- the zero behind the point multiplies by ten, and the point divides by it
    show ((numberOf (digitsOf d.digits ++ List.replicate zeros '0' ++ ['0']) : Nat) : ℚ)
      * 10 ^ (0 - 1 : Int) = d.digits * 10 ^ d.exponent
    rw [hdigits, ← h]
    push_cast
    rw [zpow_natCast]
    field_simp

/-- A number with an exponent: its point stands behind its first digit, if there are more. -/
theorem exists_numeral_exponent :
    ∃ n : Numeral,
      n.text = (digitsOf d.digits).take 1
          ++ (if (digitsOf d.digits).length = 1 then [] else '.' :: (digitsOf d.digits).drop 1)
          ++ 'e' :: exponentText layout.exponentWidth ((digitsOf d.digits).length + d.exponent - 1)
        ∧ n.scientific.value = d.value := by
  have hlength : 0 < (digitsOf d.digits).length := List.length_pos_iff.mpr (digitsOf_ne_nil _)
  refine ⟨⟨(digitsOf d.digits).take 1, (digitsOf d.digits).drop 1,
    some ((digitsOf d.digits).length + d.exponent - 1), ?_,
    fun c hc => isDigit_of_mem_digitsOf (List.mem_of_mem_take hc),
    fun c hc => isDigit_of_mem_digitsOf (List.mem_of_mem_drop hc), .inr (by simp)⟩, ?_, ?_⟩
  · rw [Ne, List.take_eq_nil_iff, not_or]
    exact ⟨by omega, digitsOf_ne_nil d.digits⟩
  · have hdrop : (digitsOf d.digits).drop 1 = [] ↔ (digitsOf d.digits).length = 1 := by
      rw [List.drop_eq_nil_iff]
      omega
    by_cases hone : (digitsOf d.digits).length = 1
    · simp [Numeral.text, Numeral.pointText, Numeral.tail, hdrop.mpr hone, hone]
    · simp only [Numeral.text, Numeral.pointText, Numeral.tail, mt hdrop.mp hone, hone, if_false]
      simp
  · have hsame : (⟨numberOf ((digitsOf d.digits).take 1 ++ (digitsOf d.digits).drop 1),
        ((digitsOf d.digits).length + d.exponent - 1) - ((digitsOf d.digits).drop 1).length⟩
          : Scientific) = d := by
      rw [List.take_append_drop, numberOf_digitsOf, List.length_drop, Nat.cast_sub hlength]
      congr 1
      push_cast
      ring
    exact congrArg Scientific.value hsame

/-- **What is written of a number is a numeral of its value.** -/
theorem exists_numeral :
    ∃ n : Numeral, n.text = d.write layout ∧ n.scientific.value = d.value := by
  unfold Scientific.write
  dsimp only
  by_cases hzero : d.digits = 0
  · rw [if_pos hzero]
    refine ⟨⟨['0'], ['0'], none, by simp, by simp, by simp, .inl (by simp)⟩, rfl, ?_⟩
    show ((numberOf ['0', '0'] : Nat) : ℚ) * 10 ^ (0 - 1 : Int) = d.digits * 10 ^ d.exponent
    rw [hzero, show numberOf ['0', '0'] = 0 from rfl, Nat.cast_zero, zero_mul, zero_mul]
  · rw [if_neg hzero]
    split
    · split
      · exact exists_numeral_small d (by omega)
      · split
        · exact exists_numeral_inner d (by omega) (by omega) (by omega)
        · exact exists_numeral_whole d (by omega)
    · exact exists_numeral_exponent d

/-- **What is written of a number reads back with its value.** -/
theorem exists_unsigned?_write :
    ∃ d', unsigned? (d.write layout) = some d' ∧ d'.value = d.value := by
  obtain ⟨n, htext, hvalue⟩ := exists_numeral d
  exact ⟨n.scientific, by rw [← htext, n.unsigned?_text], hvalue⟩

end

end SqlStatements.Decimal
