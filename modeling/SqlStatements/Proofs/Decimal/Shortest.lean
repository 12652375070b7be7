/-
  SqlStatements.Proofs.Decimal.Shortest
  ─────────────────────────────────────
  **The digits of a number are found, and no other number has them.**

  A magnitude has a significand of 53 bits, and two to the power 53 is less than ten to the
  power 16.  On the grid of seventeen digits a step is therefore smaller than the interval of
  the magnitude, and the search for digits ends there at the latest.  What it finds lies in
  the interval, and no number lies in the intervals of two magnitudes: the digits tell the
  magnitude, and with the sign they tell the number.

  Main results:

    • `ten_pow_leadingExponent_le`  — where the first digit stands,
    • `exists_onGrid?_seventeen`    — seventeen digits are enough,
    • `holdsValue_shortest`         — the number that is found rounds to the magnitude,
    • `text_injective`              — no two finite numbers are written alike.
-/
import SqlStatements.Proofs.Decimal.Interval

namespace SqlStatements.Decimal

/-! ## §1. The exponent of the first digit. -/

theorem lt_ten_pow_decimalLength (n : Nat) : n < 10 ^ decimalLength n := by
  induction n using decimalLength.induct with
  | case1 => simp [decimalLength]
  | case2 n hn ih =>
      rw [decimalLength, if_neg hn, pow_succ]
      omega

theorem ten_pow_le_of_decimalLength {n : Nat} (h : n ≠ 0) : 10 ^ (decimalLength n - 1) ≤ n := by
  induction n using decimalLength.induct with
  | case1 => exact absurd rfl h
  | case2 n hn ih =>
      rw [decimalLength, if_neg hn, Nat.add_sub_cancel]
      by_cases hsmall : n / 10 = 0
      · rw [hsmall, decimalLength, if_pos rfl]
        omega
      · have hpos : 0 < decimalLength (n / 10) := by
          rw [decimalLength, if_neg hsmall]
          omega
        have hpow := ih hsmall
        rw [show decimalLength (n / 10) = decimalLength (n / 10) - 1 + 1 by omega, pow_succ]
        omega

namespace Interval

/-- **A magnitude is at least one at the place of its first digit.** -/
theorem ten_pow_leadingExponent_le {i : Interval} (h : i.Proper) (hvalue : i.value ≠ 0) :
    (10 : ℚ) ^ i.leadingExponent ≤ i.center := by
  obtain ⟨hnum, hden⟩ := h
  have hpos : 0 < i.value * i.unitNum := Nat.mul_pos (Nat.pos_of_ne_zero hvalue) hnum
  have hden' : (0 : ℚ) < i.unitDen := by exact_mod_cast hden
  have hcenter : i.center = ((i.value * i.unitNum : Nat) : ℚ) / i.unitDen := by
    unfold center unit
    push_cast
    ring
  rw [hcenter, le_div_iff₀ hden']
  unfold leadingExponent
  dsimp only
  generalize i.value * i.unitNum = num at hpos
  by_cases hle : i.unitDen ≤ num
  · rw [if_pos hle]
    -- the digits of the whole part
    have hquotient : num / i.unitDen ≠ 0 := by
      rw [Ne, Nat.div_eq_zero_iff, not_or]
      omega
    have hlength : 0 < decimalLength (num / i.unitDen) := by
      rw [decimalLength, if_neg hquotient]
      omega
    have hpow : 10 ^ (decimalLength (num / i.unitDen) - 1) * i.unitDen ≤ num :=
      (Nat.le_div_iff_mul_le hden).mp (ten_pow_le_of_decimalLength hquotient)
    rw [← Nat.cast_one, ← Nat.cast_sub hlength, zpow_natCast]
    exact_mod_cast hpow
  · rw [if_neg hle]
    -- the zeros behind the point
    have hpow := lt_ten_pow_decimalLength ((i.unitDen - 1) / num)
    rw [zpow_neg, zpow_natCast, inv_mul_le_iff₀ (by positivity)]
    have hlt : i.unitDen - 1 < num * 10 ^ decimalLength ((i.unitDen - 1) / num) := by
      rw [Nat.mul_comm]
      exact (Nat.div_lt_iff_lt_mul hpos).mp hpow
    have hden'' : i.unitDen ≤ 10 ^ decimalLength ((i.unitDen - 1) / num) * num := by
      rw [Nat.mul_comm]
      omega
    exact_mod_cast hden''

/-! ## §2. The search. -/

/-- A number that is found on a grid rounds to the magnitude. -/
theorem holds_of_onGrid? {i : Interval} {g : Int} {d : Nat} (h : i.onGrid? g = some d) :
    i.holds g d = true := by
  unfold onGrid? at h
  dsimp only at h
  generalize (i.onGrid g i.value).1 / (i.onGrid g i.value).2 = below at h
  cases hbelow : i.holds g below <;> cases habove : i.holds g (below + 1) <;>
    rw [hbelow, habove] at h <;> dsimp only at h
  · exact absurd h (by simp)
  · obtain rfl := Option.some.inj h
    exact habove
  · obtain rfl := Option.some.inj h
    exact hbelow
  · split at h
    · obtain rfl := Option.some.inj h
      exact hbelow
    · split at h
      · obtain rfl := Option.some.inj h
        exact habove
      · split at h
        · obtain rfl := Option.some.inj h
          exact hbelow
        · obtain rfl := Option.some.inj h
          exact habove

/-- If one of the two neighbours rounds to the magnitude, one is found. -/
theorem exists_onGrid? {i : Interval} {g : Int}
    (h : i.holds g ((i.onGrid g i.value).1 / (i.onGrid g i.value).2) = true
      ∨ i.holds g ((i.onGrid g i.value).1 / (i.onGrid g i.value).2 + 1) = true) :
    ∃ d, i.onGrid? g = some d := by
  unfold onGrid?
  dsimp only
  generalize (i.onGrid g i.value).1 / (i.onGrid g i.value).2 = below at h
  cases hbelow : i.holds g below <;> cases habove : i.holds g (below + 1) <;> dsimp only
  · rw [hbelow, habove] at h
    simp at h
  · exact ⟨_, rfl⟩
  · exact ⟨_, rfl⟩
  · split
    · exact ⟨_, rfl⟩
    · split
      · exact ⟨_, rfl⟩
      · split <;> exact ⟨_, rfl⟩

/-- The search finds a number if there is one on one of its grids, and what it finds rounds
to the magnitude. -/
theorem exists_search {i : Interval} {leading : Int} {lengths : List Nat}
    (h : ∃ n ∈ lengths, ∃ d, i.onGrid? (leading - (n - 1 : Nat)) = some d) :
    ∃ d, i.search leading lengths = some d ∧ i.holds d.exponent d.digits = true := by
  induction lengths with
  | nil => simp at h
  | cons n lengths ih =>
      unfold search
      dsimp only
      cases hgrid : i.onGrid? (leading - (n - 1 : Nat)) with
      | some d => exact ⟨⟨d, _⟩, rfl, holds_of_onGrid? hgrid⟩
      | none =>
          apply ih
          obtain ⟨n', hn', d, hd⟩ := h
          rcases List.mem_cons.mp hn' with rfl | hn'
          · rw [hgrid] at hd
            exact absurd hd (by simp)
          · exact ⟨n', hn', d, hd⟩

/-- The two neighbours of the magnitude on a grid. -/
theorem neighbours {i : Interval} (h : i.Proper) (g : Int) :
    (((i.onGrid g i.value).1 / (i.onGrid g i.value).2 : Nat) : ℚ) * 10 ^ g ≤ i.center
      ∧ i.center
        < (((i.onGrid g i.value).1 / (i.onGrid g i.value).2 + 1 : Nat) : ℚ) * 10 ^ g := by
  obtain ⟨hden, -⟩ := onGrid_ratio h g i.value
  have hbelow := (onGrid_le_iff h g i.value
    ((i.onGrid g i.value).1 / (i.onGrid g i.value).2)).2.mp (Nat.div_mul_le_self _ _)
  have habove := mt (onGrid_le_iff h g i.value
    ((i.onGrid g i.value).1 / (i.onGrid g i.value).2 + 1)).2.mpr
    (not_le.mpr (Nat.lt_mul_of_div_lt (Nat.lt_succ_self _) hden))
  exact ⟨hbelow, not_le.mp habove⟩

/-- A step that is smaller than the interval leads into it, from below or from above. -/
theorem holdsValue_neighbour {i : Interval} {below step : ℚ} (hbelow : below ≤ i.center)
    (habove : i.center < below + step) (hlow : i.lowEnd < i.center) (hhigh : i.center < i.highEnd)
    (hstep : step < i.highEnd - i.center ∨ step < i.highEnd - i.lowEnd) :
    i.HoldsValue below ∨ i.HoldsValue (below + step) := by
  by_cases hinside : i.lowEnd < below
  · exact .inl (holdsValue_of_lt hinside (hbelow.trans_lt hhigh))
  · refine .inr (holdsValue_of_lt (hlow.trans habove) ?_)
    rcases hstep with hstep | hstep
    · linarith
    · linarith

/-- On the grid of seventeen digits a step is smaller than the interval, and at a power of
two than its upper half. -/
theorem step_seventeen {code : Nat} (h : code ≠ 0) {step : ℚ}
    (hstep : step * 10 ^ 16 ≤ (ofCode code).center) :
    (ofCode code).lowEnd < (ofCode code).center ∧ (ofCode code).center < (ofCode code).highEnd
      ∧ (step < (ofCode code).highEnd - (ofCode code).center
        ∨ step < (ofCode code).highEnd - (ofCode code).lowEnd) := by
  have hunit : (0 : ℚ) < 2 ^ (Binary64.exponentOf code - 2) := by positivity
  have hsignificand : (Binary64.significandOf code : ℚ) < 2 ^ 53 := by
    exact_mod_cast significandOf_lt code
  rw [center_ofCode] at hstep
  rw [lowEnd_ofCode h, center_ofCode, highEnd_ofCode]
  generalize (2 : ℚ) ^ (Binary64.exponentOf code - 2) = unit at hunit hstep
  have hbound := mul_lt_mul_of_pos_right hsignificand hunit
  by_cases hpower : Binary64.significandOf code = Binary64.binade ∧ 2 * Binary64.binade ≤ code
  · have hbelow : below code = 1 := if_pos hpower
    have hleast : (Binary64.significandOf code : ℚ) = 2 ^ 52 := by
      rw [hpower.1]
      norm_num [Binary64.binade]
    rw [hleast] at hstep ⊢
    rw [hbelow]
    refine ⟨by push_cast; linarith, by linarith, .inl (by linarith)⟩
  · have hbelow : below code = 2 := if_neg hpower
    rw [hbelow]
    refine ⟨by push_cast; linarith, by linarith, .inr (by push_cast; linarith)⟩

/-- **Seventeen digits are enough**: one of the two neighbours of the magnitude on their
grid rounds to it. -/
theorem exists_onGrid?_seventeen {code : Nat} (h : code ≠ 0) :
    ∃ d, (ofCode code).onGrid? ((ofCode code).leadingExponent - (17 - 1 : Nat)) = some d := by
  have hproper := proper_ofCode code
  have hvalue : (ofCode code).value ≠ 0 := by
    have hpos := significandOf_pos h
    show 4 * Binary64.significandOf code ≠ 0
    omega
  have hleading := ten_pow_leadingExponent_le hproper hvalue
  generalize hg : (ofCode code).leadingExponent - (17 - 1 : Nat) = g
  have hstep : (10 : ℚ) ^ g * 10 ^ 16 ≤ (ofCode code).center := by
    calc (10 : ℚ) ^ g * 10 ^ 16 = 10 ^ (g + 16) := by
          rw [zpow_add₀ (by norm_num : (10 : ℚ) ≠ 0)]
          norm_num
      _ = 10 ^ (ofCode code).leadingExponent := by
          rw [← hg]
          congr 1
          push_cast
          ring
      _ ≤ (ofCode code).center := hleading
  obtain ⟨hlow, hhigh, hsmall⟩ := step_seventeen h hstep
  obtain ⟨hbelow, habove⟩ := neighbours hproper g
  rw [Nat.cast_add, Nat.cast_one, add_mul, one_mul] at habove
  apply exists_onGrid?
  rw [holds_iff hproper, holds_iff hproper, Nat.cast_add, Nat.cast_one, add_mul, one_mul]
  exact holdsValue_neighbour hbelow habove hlow hhigh hsmall

end Interval

/-! ## §3. The shortest number. -/

/-- Zeros at the end of the digits do not count. -/
theorem Scientific.value_normal (d : Scientific) : d.normal.value = d.value := by
  induction d using Scientific.normal.induct with
  | case1 d h ih =>
      rw [Scientific.normal, dif_pos h, ih]
      have hdigits : d.digits = d.digits / 10 * 10 := by omega
      unfold Scientific.value
      conv => rhs; rw [hdigits]
      dsimp only
      rw [zpow_add₀ (by norm_num : (10 : ℚ) ≠ 0)]
      push_cast
      ring
  | case2 d h => rw [Scientific.normal, dif_neg h]

/-- **The number that is found rounds to the magnitude.** -/
theorem holdsValue_shortest {code : Nat} (h : code ≠ 0) :
    (Interval.ofCode code).HoldsValue (shortest code).value := by
  have hseventeen : 17 ∈ List.range' 1 17 := by decide
  obtain ⟨d, hsearch, hholds⟩ :=
    Interval.exists_search ⟨17, hseventeen, Interval.exists_onGrid?_seventeen h⟩
  rw [Interval.holds_iff (Interval.proper_ofCode code)] at hholds
  unfold shortest
  rw [if_neg h]
  dsimp only
  rw [hsearch, Option.getD_some, Scientific.value_normal]
  exact hholds

theorem shortest_zero : shortest 0 = ⟨0, 0⟩ := rfl

/-- Zero is written as zero, and nothing else is. -/
theorem shortest_value_eq_zero_iff {code : Nat} : (shortest code).value = 0 ↔ code = 0 := by
  constructor
  · intro hzero
    by_contra hcode
    have hlow := (holdsValue_shortest hcode).bounds.1
    rw [hzero] at hlow
    exact absurd (Interval.lowEnd_pos hcode) (not_lt.mpr hlow)
  · rintro rfl
    simp [shortest_zero, Scientific.value]

/-- **The digits tell the magnitude.** -/
theorem shortest_value_injective {a b : Nat} (h : (shortest a).value = (shortest b).value) :
    a = b := by
  by_cases ha : a = 0
  · rw [ha] at h ⊢
    rw [shortest_value_eq_zero_iff.mpr rfl] at h
    exact (shortest_value_eq_zero_iff.mp h.symm).symm
  · have hb : b ≠ 0 := by
      rintro rfl
      rw [shortest_value_eq_zero_iff.mpr rfl] at h
      exact ha (shortest_value_eq_zero_iff.mp h)
    have hrounds := holdsValue_shortest ha
    rw [h] at hrounds
    exact Interval.eq_of_holdsValue hrounds (holdsValue_shortest hb)

/-! ## §4. Numbers as text. -/

/-- What is written of magnitudes tells them apart. -/
theorem write_shortest_injective {a b : Nat}
    (h : (shortest a).write layout = (shortest b).write layout) : a = b := by
  obtain ⟨d, hread, hvalue⟩ := exists_unsigned?_write (shortest a)
  obtain ⟨d', hread', hvalue'⟩ := exists_unsigned?_write (shortest b)
  rw [h, hread'] at hread
  obtain rfl := Option.some.inj hread
  exact shortest_value_injective (hvalue.symm.trans hvalue')

/-- A number is its sign and its magnitude. -/
theorem Binary64.eq_of_sign_code {x y : Binary64} (hsign : x.negative = y.negative)
    (hcode : x.code = y.code) : x = y := by
  obtain ⟨bits⟩ := x
  obtain ⟨bits'⟩ := y
  have hlt := bits.isLt
  have hlt' := bits'.isLt
  -- the sign is the highest bit, and the code is what the bits below it count
  unfold negative at hsign
  unfold code signBit at hcode
  rw [BitVec.msb_eq_decide, BitVec.msb_eq_decide, decide_eq_decide] at hsign
  dsimp only at hsign hcode
  congr 1
  apply BitVec.eq_of_toNat_eq
  omega

/-- A finite number is written with its sign in front of its digits. -/
theorem Binary64.toList_text {x : Binary64} (hnan : x.isNaN = false)
    (hfinite : x.isInfinite = false) :
    x.text.toList = sign x.negative ++ (shortest x.code).write layout := by
  unfold text sign
  rw [hnan, hfinite]
  cases x.negative <;> simp

/-- What is written of a magnitude begins with a digit. -/
theorem Scientific.head?_write_ne (d : Scientific) : (d.write layout).head? ≠ some '-' := by
  obtain ⟨n, htext, -⟩ := exists_numeral d
  obtain ⟨c, rest, hcons, hc⟩ := n.exists_text_eq_cons
  rw [← htext, hcons]
  rintro ⟨⟩
  exact absurd hc (by decide)

/-- **No two finite numbers are written alike**, the two zeros included. -/
theorem Binary64.text_injective {x y : Binary64} (hx : x.isNaN = false ∧ x.isInfinite = false)
    (hy : y.isNaN = false ∧ y.isInfinite = false) (h : x.text = y.text) : x = y := by
  have hlist := congrArg String.toList h
  rw [toList_text hx.1 hx.2, toList_text hy.1 hy.2] at hlist
  obtain ⟨hsign, hdigits⟩ := sign_append_injective (Scientific.head?_write_ne _)
    (Scientific.head?_write_ne _) hlist
  exact eq_of_sign_code hsign (write_shortest_injective hdigits)

end SqlStatements.Decimal
