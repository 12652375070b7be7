/-
  SqlStatements.Proofs.Text.Hex
  ─────────────────────────────
  **Bytes in hexadecimal digits read back.**

  A digit is read with the value that it was written for, and two digits are one byte.

  Main results:

    • `value?_eq_some_iff`   — a digit is read in either case,
    • `bytes?_upperBytes`    — reading what was written of bytes,
    • `upperBytes_injective` — no two byte strings are written alike.
-/
import Mathlib.Tactic.ByContra
import SqlStatements.Text.Hex

namespace SqlStatements.Text

/-- What is checked of the codes of ASCII holds of its characters. -/
theorem of_ascii {P : Char → Prop} (h : ∀ code < 128, P (Char.ofNat code)) :
    ∀ c : Char, c.toNat < 128 → P c := by
  intro c hc
  have hcode := h c.toNat hc
  rwa [Char.ofNat_toNat] at hcode

namespace Hex

/-- A digit has the value that it was written for. -/
theorem value?_upperDigit {n : Nat} (h : n < 16) : value? (upperDigit n) = some n := by
  have hall : ∀ d : Fin 16, value? (upperDigit d) = some d.val := by decide
  exact hall ⟨n, h⟩

/-- Digits are characters of ASCII. -/
theorem toNat_lt_of_value? {c : Char} {n : Nat} (h : value? c = some n) : c.toNat < 128 := by
  by_contra hbeyond
  unfold value? at h
  rw [if_neg (by simp; omega), if_neg (by simp; omega), if_neg (by simp; omega)] at h
  cases h

/-- Only characters of ASCII have an upper case in ASCII. -/
theorem toNat_lt_of_toUpper {c : Char} (h : c.toUpper.toNat < 128) : c.toNat < 128 := by
  unfold Char.toUpper at h
  split at h
  · rename_i hc
    exact Nat.lt_of_le_of_lt hc.2 (by decide)
  · exact h

/-- **A digit is read in either case**: a character has the value for which its upper case
is written. -/
theorem value?_eq_some_iff {c : Char} {n : Nat} :
    value? c = some n ↔ n < 16 ∧ c.toUpper = upperDigit n := by
  have hvalue : ∀ c : Char, c.toNat < 128 → ∀ n ∈ value? c, n < 16 ∧ c.toUpper = upperDigit n :=
    of_ascii (by decide +kernel)
  have hdigit : ∀ c : Char, c.toNat < 128 → ∀ n < 16, c.toUpper = upperDigit n →
      value? c = some n := of_ascii (by decide +kernel)
  constructor
  · intro h
    exact hvalue c (toNat_lt_of_value? h) n h
  · rintro ⟨hn, hupper⟩
    have hascii : ∀ n < 16, (upperDigit n).toNat < 128 := by decide
    exact hdigit c (toNat_lt_of_toUpper (hupper ▸ hascii n hn)) n hn hupper

/-- **Bytes read back.** -/
theorem bytes?_upperBytes (bytes : List UInt8) : bytes? (upperBytes bytes) = some bytes := by
  induction bytes with
  | nil => rfl
  | cons b bytes ih =>
      have hb : b.toNat < 256 := b.toNat_lt
      have hhigh : value? (upperDigit (b.toNat / 16)) = some (b.toNat / 16) :=
        value?_upperDigit (by omega)
      have hlow : value? (upperDigit (b.toNat % 16)) = some (b.toNat % 16) :=
        value?_upperDigit (by omega)
      show bytes? (upperDigit (b.toNat / 16) :: upperDigit (b.toNat % 16) :: upperBytes bytes) = _
      simp only [bytes?, hhigh, hlow, ih]
      rw [Nat.div_add_mod, UInt8.ofNat_toNat]

theorem upperBytes_injective {a b : List UInt8} (h : upperBytes a = upperBytes b) : a = b := by
  have hread := bytes?_upperBytes a
  rw [h, bytes?_upperBytes] at hread
  exact (Option.some.inj hread).symm

/-- Only digits are written. -/
theorem isSome_value?_of_mem_upperBytes {bytes : List UInt8} {c : Char}
    (h : c ∈ upperBytes bytes) : (value? c).isSome := by
  obtain ⟨b, -, hc⟩ := List.mem_flatMap.mp h
  have hb : b.toNat < 256 := b.toNat_lt
  simp only [upperByte, List.mem_cons, List.not_mem_nil, or_false] at hc
  rcases hc with rfl | rfl
  · rw [value?_upperDigit (by omega)]
    rfl
  · rw [value?_upperDigit (by omega)]
    rfl

end Hex

end SqlStatements.Text
