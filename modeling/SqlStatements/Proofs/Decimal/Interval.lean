/-
  SqlStatements.Proofs.Decimal.Interval
  ─────────────────────────────────────
  **The rounding intervals of the magnitudes, as sets of rational numbers.**

  The interval of a magnitude reaches half-way to its two neighbours, so where one ends the
  next one begins.  The end that they share belongs to one of them only: the one whose
  significand is even.  A number therefore lies in the interval of at most one magnitude.

  Main results:

    • `holds_iff`               — the test of a decimal number, as a statement of its value,
    • `highEnd_eq_lowEnd_succ`  — an interval ends where the next one begins,
    • `eq_of_holdsValue`        — no two intervals overlap.
-/
import Mathlib.Algebra.Order.Field.Power
import Mathlib.Tactic.FieldSimp
import Mathlib.Tactic.Linarith
import Mathlib.Tactic.Positivity
import SqlStatements.Proofs.Decimal.Numeral

namespace SqlStatements.Decimal

/-! ## §1. Powers as fractions. -/

/-- A power as a numerator and a denominator. -/
theorem power_ratio {b : Nat} (hb : 0 < b) (e : Int) {p : Nat × Nat}
    (hp : p = if 0 ≤ e then (Nat.pow b e.toNat, 1) else (1, Nat.pow b (-e).toNat)) :
    0 < p.1 ∧ 0 < p.2 ∧ (p.1 : ℚ) / p.2 = (b : ℚ) ^ e := by
  have hpow : ∀ n, 0 < Nat.pow b n := fun n => Nat.pow_pos hb
  have hb' : (b : ℚ) ≠ 0 := by positivity
  by_cases he : 0 ≤ e
  · obtain ⟨n, rfl⟩ := Int.eq_ofNat_of_zero_le he
    rw [if_pos he] at hp
    subst hp
    refine ⟨hpow _, Nat.one_pos, ?_⟩
    simp
  · obtain ⟨n, rfl⟩ : ∃ n : Nat, e = -n := ⟨(-e).toNat, by omega⟩
    rw [if_neg he] at hp
    subst hp
    refine ⟨Nat.one_pos, hpow _, ?_⟩
    simp

namespace Interval

/-! ## §2. The ends of an interval. -/

section
variable (i : Interval)

/-- The unit of an interval. -/
def unit : ℚ := i.unitNum / i.unitDen

/-- The least number of the interval, or of those just beyond it. -/
def lowEnd : ℚ := i.low * i.unit

/-- The magnitude. -/
def center : ℚ := i.value * i.unit

/-- The greatest number of the interval, or of those just beyond it. -/
def highEnd : ℚ := i.high * i.unit

/-- Whether a number rounds to the magnitude. -/
def HoldsValue (r : ℚ) : Prop :=
  if i.closed then i.lowEnd ≤ r ∧ r ≤ i.highEnd else i.lowEnd < r ∧ r < i.highEnd

/-- An interval whose unit is a positive number. -/
def Proper : Prop := 0 < i.unitNum ∧ 0 < i.unitDen

end

section
variable {i : Interval}

theorem HoldsValue.bounds {r : ℚ} (h : i.HoldsValue r) : i.lowEnd ≤ r ∧ r ≤ i.highEnd := by
  unfold HoldsValue at h
  split at h
  · exact h
  · exact ⟨h.1.le, h.2.le⟩

/-- Inside the interval it does not matter whether its ends belong to it. -/
theorem holdsValue_of_lt {r : ℚ} (hlow : i.lowEnd < r) (hhigh : r < i.highEnd) :
    i.HoldsValue r := by
  unfold HoldsValue
  split
  · exact ⟨hlow.le, hhigh.le⟩
  · exact ⟨hlow, hhigh⟩

/-- A number of units as a count of steps of a grid. -/
theorem onGrid_ratio (h : i.Proper) (g : Int) (units : Nat) :
    0 < (i.onGrid g units).2
      ∧ ((i.onGrid g units).1 : ℚ) / (i.onGrid g units).2 = units * i.unit / 10 ^ g := by
  obtain ⟨hnum, hden, hratio⟩ := power_ratio (b := 10) (by decide) g (p := powerOfTen g) rfl
  obtain ⟨hunitNum, hunitDen⟩ := h
  refine ⟨Nat.mul_pos hunitDen hnum, ?_⟩
  have hratio' : (10 : ℚ) ^ g = (powerOfTen g).1 / (powerOfTen g).2 := hratio.symm
  rw [hratio']
  show ((units * i.unitNum * (powerOfTen g).2 : Nat) : ℚ) / (i.unitDen * (powerOfTen g).1 : Nat) = _
  unfold unit
  push_cast
  field_simp

/-- Comparing a number of units with a decimal number. -/
theorem onGrid_le_iff (h : i.Proper) (g : Int) (units d : Nat) :
    ((i.onGrid g units).1 ≤ d * (i.onGrid g units).2 ↔ units * i.unit ≤ d * 10 ^ g)
      ∧ (d * (i.onGrid g units).2 ≤ (i.onGrid g units).1 ↔ (d : ℚ) * 10 ^ g ≤ units * i.unit) := by
  obtain ⟨hden, hratio⟩ := onGrid_ratio h g units
  have hpow : (0 : ℚ) < 10 ^ g := by positivity
  have hden' : (0 : ℚ) < (i.onGrid g units).2 := by exact_mod_cast hden
  constructor
  · rw [← div_le_iff₀ hpow, ← hratio, div_le_iff₀ hden']
    exact_mod_cast Iff.rfl
  · rw [← le_div_iff₀ hpow, ← hratio, le_div_iff₀ hden']
    exact_mod_cast Iff.rfl

/-- **The test of a decimal number** says whether its value rounds to the magnitude. -/
theorem holds_iff (h : i.Proper) (g : Int) (d : Nat) :
    i.holds g d = true ↔ i.HoldsValue (d * 10 ^ g) := by
  obtain ⟨hlow, hlow'⟩ := onGrid_le_iff h g i.low d
  obtain ⟨hhigh', hhigh⟩ := onGrid_le_iff h g i.high d
  unfold holds HoldsValue lowEnd highEnd
  cases i.closed with
  | true => simp [hlow, hhigh]
  | false =>
      simp only [Bool.false_eq_true, if_false, Bool.and_eq_true, decide_eq_true_eq]
      rw [← not_le, ← not_le, ← not_le, ← not_le, hlow', hhigh']

end

/-! ## §3. The interval of a magnitude. -/

/-- The significand of a magnitude fits in 53 bits. -/
theorem significandOf_lt (code : Nat) : Binary64.significandOf code < 2 * Binary64.binade := by
  unfold Binary64.significandOf
  have hmod : code % Binary64.binade < Binary64.binade := Nat.mod_lt _ (by decide)
  split <;> omega

theorem significandOf_pos {code : Nat} (h : code ≠ 0) : 0 < Binary64.significandOf code := by
  have hbinade : 0 < Binary64.binade := by decide
  unfold Binary64.significandOf
  split <;> omega

/-- A code is as even as its significand. -/
theorem significandOf_mod_two (code : Nat) : Binary64.significandOf code % 2 = code % 2 := by
  have hbinade : Binary64.binade = 2 * 0x8000000000000 := rfl
  unfold Binary64.significandOf
  split
  · rfl
  · rw [Nat.add_mod, hbinade, Nat.mod_mul_right_mod]
    omega

theorem proper_ofCode (code : Nat) : (ofCode code).Proper := by
  obtain ⟨hnum, hden, -⟩ := power_ratio (b := 2) (by decide) (Binary64.exponentOf code - 2)
    (p := Binary64.powerOfTwo (Binary64.exponentOf code - 2)) rfl
  exact ⟨hnum, hden⟩

theorem unit_ofCode (code : Nat) : (ofCode code).unit = 2 ^ (Binary64.exponentOf code - 2) := by
  obtain ⟨-, -, hratio⟩ := power_ratio (b := 2) (by decide) (Binary64.exponentOf code - 2)
    (p := Binary64.powerOfTwo (Binary64.exponentOf code - 2)) rfl
  exact hratio

/-- How far the interval of a magnitude reaches below it, in units. -/
def below (code : Nat) : Nat :=
  if Binary64.significandOf code = Binary64.binade ∧ 2 * Binary64.binade ≤ code then 1 else 2

section
variable {code : Nat}

theorem lowEnd_ofCode (h : code ≠ 0) :
    (ofCode code).lowEnd
      = (4 * Binary64.significandOf code - below code) * 2 ^ (Binary64.exponentOf code - 2) := by
  have hpos := significandOf_pos h
  have hle : below code ≤ 4 * Binary64.significandOf code := by
    unfold below
    split <;> omega
  show ((4 * Binary64.significandOf code - below code : Nat) : ℚ) * (ofCode code).unit = _
  rw [unit_ofCode, Nat.cast_sub hle]
  push_cast
  rfl

theorem center_ofCode (code : Nat) :
    (ofCode code).center
      = 4 * Binary64.significandOf code * 2 ^ (Binary64.exponentOf code - 2) := by
  show ((4 * Binary64.significandOf code : Nat) : ℚ) * (ofCode code).unit = _
  rw [unit_ofCode]
  push_cast
  rfl

theorem highEnd_ofCode (code : Nat) :
    (ofCode code).highEnd
      = (4 * Binary64.significandOf code + 2) * 2 ^ (Binary64.exponentOf code - 2) := by
  show ((4 * Binary64.significandOf code + 2 : Nat) : ℚ) * (ofCode code).unit = _
  rw [unit_ofCode]
  push_cast
  rfl

theorem lowEnd_pos (h : code ≠ 0) : 0 < (ofCode code).lowEnd := by
  have hpos := significandOf_pos h
  have hbelow : below code ≤ 2 := by
    unfold below
    split <;> omega
  have hbelow' : (below code : ℚ) ≤ 2 := by exact_mod_cast hbelow
  have hpos' : (1 : ℚ) ≤ Binary64.significandOf code := by exact_mod_cast hpos
  rw [lowEnd_ofCode h]
  exact mul_pos (by linarith) (by positivity)

/-- An interval is not empty. -/
theorem lowEnd_lt_highEnd (h : code ≠ 0) : (ofCode code).lowEnd < (ofCode code).highEnd := by
  have hunit : (0 : ℚ) < 2 ^ (Binary64.exponentOf code - 2) := by positivity
  rw [lowEnd_ofCode h, highEnd_ofCode]
  refine mul_lt_mul_of_pos_right ?_ hunit
  have hbelow : (0 : ℚ) ≤ below code := Nat.cast_nonneg _
  linarith

/-- From one magnitude to the next the significand grows by one, or from its greatest value
to its least one while the exponent grows by one. -/
theorem next_magnitude (code : Nat) :
    (Binary64.significandOf (code + 1) = Binary64.significandOf code + 1
        ∧ Binary64.exponentOf (code + 1) = Binary64.exponentOf code ∧ below (code + 1) = 2)
      ∨ (Binary64.significandOf code = 2 * Binary64.binade - 1
        ∧ Binary64.significandOf (code + 1) = Binary64.binade
        ∧ Binary64.exponentOf (code + 1) = Binary64.exponentOf code + 1
        ∧ below (code + 1) = 1) := by
  unfold below Binary64.significandOf Binary64.exponentOf Binary64.binade
  by_cases hsubnormal : code + 1 < 0x10000000000000
  · have hcode : code < 0x10000000000000 := by omega
    simp only [hsubnormal, hcode, if_true]
    left
    refine ⟨trivial, trivial, ?_⟩
    rw [if_neg (by omega)]
  · by_cases hleast : code < 0x10000000000000
    · simp only [hsubnormal, hleast, if_true, if_false]
      left
      refine ⟨by omega, by omega, ?_⟩
      rw [if_neg (by omega)]
    · simp only [hsubnormal, hleast, if_false]
      by_cases hgreatest : (code + 1) % 0x10000000000000 = 0
      · right
        refine ⟨by omega, by omega, by omega, ?_⟩
        rw [if_pos (by omega)]
      · left
        refine ⟨by omega, by omega, ?_⟩
        rw [if_neg (by omega)]

/-- **An interval ends where the next one begins.** -/
theorem highEnd_eq_lowEnd_succ (code : Nat) :
    (ofCode code).highEnd = (ofCode (code + 1)).lowEnd := by
  rw [highEnd_ofCode, lowEnd_ofCode (Nat.succ_ne_zero code)]
  rcases next_magnitude code with
    ⟨hsignificand, hexponent, hbelow⟩ | ⟨hgreatest, hleast, hexponent, hbelow⟩
  · rw [hsignificand, hexponent, hbelow]
    push_cast
    ring
  · have hpow : (2 : ℚ) ^ (Binary64.exponentOf code + 1 - 2)
        = 2 * 2 ^ (Binary64.exponentOf code - 2) := by
      rw [show Binary64.exponentOf code + 1 - 2 = 1 + (Binary64.exponentOf code - 2) by ring,
        zpow_add₀ (by norm_num : (2 : ℚ) ≠ 0), zpow_one]
    have hcast : ((2 * Binary64.binade - 1 : Nat) : ℚ) = 2 * Binary64.binade - 1 := by
      rw [Nat.cast_sub (by decide)]
      push_cast
      rfl
    rw [hgreatest, hleast, hexponent, hbelow, hpow, hcast]
    push_cast
    ring

/-- Of two intervals that meet, one has the end that they share. -/
theorem closed_succ (code : Nat) : (ofCode (code + 1)).closed = !(ofCode code).closed := by
  show (Binary64.significandOf (code + 1) % 2 == 0) = !(Binary64.significandOf code % 2 == 0)
  rw [significandOf_mod_two, significandOf_mod_two, Bool.eq_iff_iff]
  simp
  omega

end

/-! ## §4. No two intervals overlap. -/

/-- Intervals of greater magnitudes begin later. -/
theorem lowEnd_le_of_le {a b : Nat} (ha : a ≠ 0) (hle : a ≤ b) :
    (ofCode a).lowEnd ≤ (ofCode b).lowEnd := by
  induction b, hle using Nat.le_induction with
  | base => exact le_refl _
  | succ b hle ih =>
      have hb : b ≠ 0 := by omega
      calc (ofCode a).lowEnd ≤ (ofCode b).lowEnd := ih
        _ ≤ (ofCode b).highEnd := (lowEnd_lt_highEnd hb).le
        _ = (ofCode (b + 1)).lowEnd := highEnd_eq_lowEnd_succ b

/-- What rounds to one magnitude does not round to a greater one. -/
theorem not_holdsValue_of_lt {a b : Nat} (hlt : a < b) {r : ℚ}
    (hr : (ofCode a).HoldsValue r) : ¬ (ofCode b).HoldsValue r := by
  intro hr'
  have hhigh := hr.bounds.2
  have hlow := hr'.bounds.1
  rw [highEnd_eq_lowEnd_succ] at hhigh
  rcases Nat.eq_or_lt_of_le (Nat.succ_le_of_lt hlt) with rfl | hfar
  · -- the two intervals meet in one number, which only one of them has
    have hclosed := closed_succ a
    unfold HoldsValue at hr hr'
    rw [hclosed] at hr'
    rw [highEnd_eq_lowEnd_succ] at hr
    cases hends : (ofCode a).closed with
    | true =>
        rw [hends] at hr'
        exact absurd hr'.1 (not_lt.mpr hhigh)
    | false =>
        rw [hends] at hr
        exact absurd hr.2 (not_lt.mpr hlow)
  · have hnext := lowEnd_lt_highEnd (Nat.succ_ne_zero a)
    rw [highEnd_eq_lowEnd_succ] at hnext
    have hlater := lowEnd_le_of_le (Nat.succ_ne_zero (a + 1)) hfar
    exact absurd (hnext.trans_le (hlater.trans (hlow.trans hhigh))) (lt_irrefl _)

/-- **No two intervals overlap**: a number rounds to one magnitude at most. -/
theorem eq_of_holdsValue {a b : Nat} {r : ℚ}
    (hr : (ofCode a).HoldsValue r) (hr' : (ofCode b).HoldsValue r) : a = b := by
  rcases Nat.lt_trichotomy a b with hlt | rfl | hlt
  · exact absurd hr' (not_holdsValue_of_lt hlt hr)
  · rfl
  · exact absurd hr (not_holdsValue_of_lt hlt hr')

end Interval

end SqlStatements.Decimal
