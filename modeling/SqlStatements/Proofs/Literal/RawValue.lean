/-
  SqlStatements.Proofs.Literal.RawValue
  ─────────────────────────────────────
  **What is read of a value that was typed, and the literal that it gets.**

  A whole number has many spellings and one canonical text, a byte string many spellings and
  one literal.  What is no spelling, or spells a number of more than 64 bits, is refused with
  the same kind of error.

  Main results:

    • `readPairs_eq_ok_iff`        — bytes are read exactly from their spellings,
    • `readRaw_integer_eq_ok_iff`  — which whole numbers are accepted,
    • `readRaw_canonical`          — what is accepted and refused, and the texts that are
                                     written.
-/
import SqlStatements.Literal.RawValue
import SqlStatements.Proofs.Decimal.Whole
import SqlStatements.Proofs.Text.Hex

namespace SqlStatements.Literal

open Decimal Text

/-! ## §1. Spellings of byte strings. -/

/-- A text spells bytes: each is a pair of digits in either case, and ASCII space may stand
before, between and behind the pairs. -/
inductive SpellsBytes : List Char → List UInt8 → Prop
  | nil : SpellsBytes [] []
  | space {c : Char} {rest : List Char} {bytes : List UInt8} (hspace : isAsciiSpace c = true)
      (hrest : SpellsBytes rest bytes) : SpellsBytes (c :: rest) bytes
  | pair {a b : Char} {rest : List Char} {byte : UInt8} {bytes : List UInt8}
      (hpair : [a.toUpper, b.toUpper] = Hex.upperByte byte) (hrest : SpellsBytes rest bytes) :
      SpellsBytes (a :: b :: rest) (byte :: bytes)

/-- Two digits are the pair of a byte if they have its halves as values. -/
theorem pair_iff {a b : Char} {byte : UInt8} :
    [a.toUpper, b.toUpper] = Hex.upperByte byte
      ↔ Hex.value? a = some (byte.toNat / 16) ∧ Hex.value? b = some (byte.toNat % 16) := by
  have hbyte : byte.toNat < 256 := byte.toNat_lt
  rw [Hex.value?_eq_some_iff, Hex.value?_eq_some_iff, Hex.upperByte, List.cons.injEq,
    List.cons.injEq]
  constructor
  · rintro ⟨ha, hb, -⟩
    exact ⟨⟨by omega, ha⟩, by omega, hb⟩
  · rintro ⟨⟨-, ha⟩, -, hb⟩
    exact ⟨ha, hb, rfl⟩

/-- The byte of two digits. -/
theorem pair_ofNat {a b : Char} {high low : Nat} (ha : Hex.value? a = some high)
    (hb : Hex.value? b = some low) :
    [a.toUpper, b.toUpper] = Hex.upperByte (UInt8.ofNat (16 * high + low)) := by
  have hhigh := (Hex.value?_eq_some_iff.mp ha).1
  have hlow := (Hex.value?_eq_some_iff.mp hb).1
  have hbyte : (UInt8.ofNat (16 * high + low)).toNat = 16 * high + low := by
    rw [UInt8.toNat_ofNat']
    omega
  refine pair_iff.mpr ?_
  rw [hbyte, ha, hb]
  exact ⟨congrArg some (by omega), congrArg some (by omega)⟩

/-- No digit is space. -/
theorem isAsciiSpace_of_value? {c : Char} {n : Nat} (h : Hex.value? c = some n) :
    isAsciiSpace c = false := by
  by_contra hspace
  have hrange : c.toNat ≤ 32 := by
    simp only [isAsciiSpace, Bool.not_eq_false, Bool.or_eq_true, Bool.and_eq_true,
      decide_eq_true_eq, beq_iff_eq] at hspace
    omega
  unfold Hex.value? at h
  rw [if_neg (by simp; omega), if_neg (by simp; omega), if_neg (by simp; omega)] at h
  cases h

section
variable (position : Nat)

theorem readPairs_space {c : Char} (h : isAsciiSpace c = true) (rest : List Char) :
    readPairs position (c :: rest) = readPairs (position + 1) rest := by
  conv => lhs; unfold readPairs
  rw [if_pos h]

theorem readPairs_pair {a b : Char} {high low : Nat} (ha : Hex.value? a = some high)
    (hb : Hex.value? b = some low) (rest : List Char) :
    readPairs position (a :: b :: rest)
      = (readPairs (position + 2) rest).map (UInt8.ofNat (16 * high + low) :: ·) := by
  conv => lhs; unfold readPairs
  rw [if_neg (by simp [isAsciiSpace_of_value? ha])]
  simp only [ha, hb]

end

/-- **Bytes are read exactly from their spellings.** -/
theorem readPairs_eq_ok_iff {position : Nat} {raw : List Char} {bytes : List UInt8} :
    readPairs position raw = .ok bytes ↔ SpellsBytes raw bytes := by
  constructor
  · intro h
    induction position, raw using readPairs.induct generalizing bytes with
    | case1 position =>
        obtain rfl : [] = bytes := Except.ok.inj h
        exact .nil
    | case2 position c rest hspace ih =>
        rw [readPairs_space position hspace] at h
        exact .space hspace (ih h)
    | case3 position a rest hspace ha =>
        unfold readPairs at h
        simp [hspace, ha] at h
    | case4 position a hspace high ha =>
        unfold readPairs at h
        simp [hspace, ha] at h
    | case5 position a hspace high b more ha hb =>
        unfold readPairs at h
        simp [hspace, ha, hb] at h
    | case6 position a hspace high b more ha low hb ih =>
        rw [readPairs_pair position ha hb] at h
        cases hmore : readPairs (position + 2) more with
        | error fault =>
            rw [hmore] at h
            cases h
        | ok taken =>
            rw [hmore] at h
            obtain rfl := Except.ok.inj h
            exact .pair (pair_ofNat ha hb) (ih hmore)
  · intro h
    induction h generalizing position with
    | nil => rfl
    | space hspace hrest ih =>
        rw [readPairs_space position hspace]
        exact ih
    | @pair a b rest byte bytes hpair hrest ih =>
        obtain ⟨ha, hb⟩ := pair_iff.mp hpair
        rw [readPairs_pair position ha hb, ih, Nat.div_add_mod, UInt8.ofNat_toNat]
        rfl

/-- A spelling of bytes is ASCII. -/
theorem SpellsBytes.lt {raw : List Char} {bytes : List UInt8} (h : SpellsBytes raw bytes) :
    ∀ c ∈ raw, c.toNat < 128 := by
  induction h with
  | nil => simp
  | space hspace hrest ih =>
      refine List.forall_mem_cons.mpr ⟨?_, ih⟩
      simp only [isAsciiSpace, Bool.or_eq_true, Bool.and_eq_true, decide_eq_true_eq,
        beq_iff_eq] at hspace
      omega
  | pair hpair hrest ih =>
      obtain ⟨ha, hb⟩ := pair_iff.mp hpair
      exact List.forall_mem_cons.mpr ⟨Hex.toNat_lt_of_value? ha,
        List.forall_mem_cons.mpr ⟨Hex.toNat_lt_of_value? hb, ih⟩⟩

theorem readBlob_eq_ok_iff {raw : List Char} {bytes : List UInt8} :
    readBlob raw = .ok bytes ↔ SpellsBytes raw bytes := by
  unfold readBlob
  split
  · rename_i position hfound
    refine iff_of_false nofun fun h => ?_
    obtain ⟨hlt, hbeyond, -⟩ := List.findIdx?_eq_some_iff_getElem.mp hfound
    have hascii := h.lt _ (List.getElem_mem hlt)
    simp only [decide_eq_true_eq] at hbeyond
    omega
  · exact readPairs_eq_ok_iff

/-- The digits that are written of bytes spell them. -/
theorem spellsBytes_upperBytes (bytes : List UInt8) : SpellsBytes (Hex.upperBytes bytes) bytes := by
  have hupper : ∀ n < 16, (Hex.upperDigit n).toUpper = Hex.upperDigit n := by decide
  induction bytes with
  | nil => exact .nil
  | cons byte bytes ih =>
      have hbyte : byte.toNat < 256 := byte.toNat_lt
      refine .pair ?_ ih
      rw [hupper _ (by omega), hupper _ (by omega)]
      rfl

/-! ## §2. Values of a type. -/

/-- A value of a type is read, or refused with a fault of its own. -/
theorem readRaw_name (raw : String) (type : RawType) :
    readRaw (some raw) type.name = (readAs type raw).mapError (.invalid type raw) := by
  cases type <;> rfl

theorem readAs_integer (raw : String) :
    readAs .integer raw = match readWhole raw.toList with
      | .error fault => .error (.whole fault)
      | .ok n => if h : FitsInt64 n then .ok (.integer ⟨n, h⟩) else .error (.outOfRange n) := by
  unfold readAs readInteger
  cases readWhole raw.toList <;> rfl

/-- What is not read is refused with a fault of its own. -/
theorem exists_fault (raw : String) (type : RawType)
    (h : ∀ v, readRaw (some raw) type.name ≠ .ok v) :
    ∃ fault, readRaw (some raw) type.name = .error (.invalid type raw fault) := by
  rw [readRaw_name] at h ⊢
  cases hread : readAs type raw with
  | error fault => exact ⟨fault, rfl⟩
  | ok v =>
      rw [hread] at h
      exact absurd rfl (h v)

/-- What is read is encoded as the literal of its scalar. -/
theorem encodeRaw_of_readRaw {raw : Option String} {name : String} {v : Scalar}
    (h : readRaw raw name = .ok v) : encodeRaw raw name = .ok v.sqlText := by
  rw [encodeRaw, h]
  rfl

/-- **A whole number is read exactly from its spellings that are not too long**, if it fits
in 64 bits. -/
theorem readRaw_integer_eq_ok_iff {raw : String} {v : Scalar} :
    readRaw (some raw) "integer" = .ok v
      ↔ ∃ s : WholeSpelling, s.text = raw.toList ∧ s.digits.length ≤ digitLimit
          ∧ ∃ h : FitsInt64 s.value, v = .integer ⟨s.value, h⟩ := by
  have hread := readRaw_name raw .integer
  rw [readAs_integer] at hread
  rw [show "integer" = RawType.integer.name from rfl, hread]
  constructor
  · intro h
    cases hwhole : readWhole raw.toList with
    | error fault =>
        rw [hwhole] at h
        cases h
    | ok n =>
        rw [hwhole] at h
        obtain ⟨s, htext, rfl, hlength⟩ := readWhole_eq_ok_iff.mp hwhole
        by_cases hfits : FitsInt64 s.value
        · simp only [dif_pos hfits] at h
          exact ⟨s, htext, hlength, hfits, (Except.ok.inj h).symm⟩
        · simp only [dif_neg hfits] at h
          cases h
  · rintro ⟨s, htext, hlength, hfits, rfl⟩
    rw [readWhole_eq_ok_iff.mpr ⟨s, htext, rfl, hlength⟩]
    simp only [dif_pos hfits]
    rfl

/-- A whole number of 64 bits reads back from its text. -/
theorem readRaw_toString (n : Int64Value) :
    readRaw (some (toString n.value)) "integer" = .ok (.integer n) := by
  obtain ⟨n, hfits⟩ := n
  have hlength : (digitsOf n.natAbs).length ≤ 19 := by
    obtain ⟨hlow, hhigh⟩ := hfits
    unfold int64Min at hlow
    unfold int64Max at hhigh
    refine (Nat.length_toDigits_le_iff (by decide) (by decide)).mpr ?_
    omega
  have hwhole := readWhole_toString (n := n) (Nat.le_trans hlength (by decide))
  obtain ⟨s, htext, rfl, hlimit⟩ := readWhole_eq_ok_iff.mp hwhole
  exact readRaw_integer_eq_ok_iff.mpr ⟨s, htext, hlimit, hfits, rfl⟩

theorem readRaw_blob_eq_ok_iff {raw : String} {v : Scalar} :
    readRaw (some raw) "blob" = .ok v
      ↔ ∃ bytes, SpellsBytes raw.toList bytes ∧ v = .blob bytes := by
  have hread : readRaw (some raw) "blob"
      = ((readBlob raw.toList).map Scalar.blob).mapError (.invalid .blob raw) :=
    readRaw_name raw .blob
  rw [hread]
  cases hblob : readBlob raw.toList with
  | error fault =>
      refine iff_of_false nofun ?_
      rintro ⟨bytes, hspells, -⟩
      rw [readBlob_eq_ok_iff.mpr hspells] at hblob
      cases hblob
  | ok taken =>
      have htaken := readBlob_eq_ok_iff.mp hblob
      constructor
      · intro h
        exact ⟨taken, htaken, (Except.ok.inj h).symm⟩
      · rintro ⟨bytes, hspells, rfl⟩
        rw [readBlob_eq_ok_iff.mpr hspells] at hblob
        rw [Except.ok.inj hblob]
        rfl

/-! ## §3. Canonical texts. -/

/-- **Whatever spelling is accepted, one canonical text is written for it.**  Of a whole
number that is the text that the number is written in, and it is read with the same number
and encoded as itself; every number of 64 bits reads back, and what spells one that does not
fit, or none, is refused.  Bytes are read from each of their spellings and written in
upper-case digits, which are one of them; and what does not spell bytes is refused. -/
theorem readRaw_canonical :
    (∀ raw v, readRaw (some raw) "integer" = .ok v
      ↔ ∃ s : WholeSpelling, s.text = raw.toList ∧ s.digits.length ≤ digitLimit
          ∧ ∃ h : FitsInt64 s.value, v = .integer ⟨s.value, h⟩)
    ∧ (∀ raw v, readRaw (some raw) "integer" = .ok v →
        ∃ l, encodeRaw (some raw) "integer" = .ok l
          ∧ Canonical l.toList
          ∧ (∃ s : WholeSpelling, s.text = l.toList ∧ ∃ h : FitsInt64 s.value,
              v = .integer ⟨s.value, h⟩)
          ∧ readRaw (some l) "integer" = .ok v ∧ encodeRaw (some l) "integer" = .ok l)
    ∧ (∀ n (h : FitsInt64 n), readRaw (some (toString n)) "integer" = .ok (.integer ⟨n, h⟩))
    ∧ (∀ raw (s : WholeSpelling), s.text = raw.toList → ¬ FitsInt64 s.value →
        ∃ fault, readRaw (some raw) "integer" = .error (.invalid .integer raw fault))
    ∧ (∀ raw, (∀ s : WholeSpelling, s.text ≠ raw.toList) →
        ∃ fault, readRaw (some raw) "integer" = .error (.invalid .integer raw fault))
    ∧ (∀ raw bytes, SpellsBytes raw.toList bytes →
        readRaw (some raw) "blob" = .ok (.blob bytes)
          ∧ encodeRaw (some raw) "blob"
              = .ok ("X'" ++ String.ofList (Hex.upperBytes bytes) ++ "'")
          ∧ readRaw (some (String.ofList (Hex.upperBytes bytes))) "blob" = .ok (.blob bytes))
    ∧ (∀ raw, (∀ bytes, ¬ SpellsBytes raw.toList bytes) →
        ∃ fault, readRaw (some raw) "blob" = .error (.invalid .blob raw fault)) := by
  refine ⟨fun raw v => readRaw_integer_eq_ok_iff, fun raw v h => ?_,
    fun n h => readRaw_toString ⟨n, h⟩, fun raw s htext hfits => ?_, fun raw h => ?_,
    fun raw bytes h => ?_, fun raw h => ?_⟩
  · obtain ⟨s, -, -, hfits, rfl⟩ := readRaw_integer_eq_ok_iff.mp h
    have hback := readRaw_toString ⟨s.value, hfits⟩
    obtain ⟨s', htext', -, hscalar⟩ := readRaw_integer_eq_ok_iff.mp hback
    exact ⟨toString s.value, encodeRaw_of_readRaw h, canonical_toString s.value,
      ⟨s', htext', hscalar⟩, hback, encodeRaw_of_readRaw hback⟩
  · refine exists_fault raw .integer fun v hv => ?_
    obtain ⟨s', htext', hlimit, hfits', -⟩ := readRaw_integer_eq_ok_iff.mp hv
    rw [← spelling_value_eq (htext'.trans htext.symm) hlimit] at hfits
    exact hfits hfits'
  · refine exists_fault raw .integer fun v hv => ?_
    obtain ⟨s, htext, -⟩ := readRaw_integer_eq_ok_iff.mp hv
    exact h s htext
  · have hread := readRaw_blob_eq_ok_iff.mpr ⟨bytes, h, rfl⟩
    refine ⟨hread, encodeRaw_of_readRaw hread, readRaw_blob_eq_ok_iff.mpr ⟨bytes, ?_, rfl⟩⟩
    rw [String.toList_ofList]
    exact spellsBytes_upperBytes bytes
  · refine exists_fault raw .blob fun v hv => ?_
    obtain ⟨bytes, hspells, -⟩ := readRaw_blob_eq_ok_iff.mp hv
    exact h bytes hspells

/-- A number with space, a sign, an underscore and a digit of another script, the least number,
one more than the greatest and one with two underscores together, bytes in both cases with
space around them, and a pair that is split. -/
theorem readRaw_canonical_spellings :
    (∃ l, encodeRaw (some " +1_0٣\n") "integer" = .ok l ∧ Canonical l.toList
        ∧ readRaw (some l) "integer" = .ok (.integer ⟨103, by decide⟩))
      ∧ readRaw (some (toString int64Min)) "integer" = .ok (.integer ⟨int64Min, by decide⟩)
      ∧ (∃ fault, readRaw (some "9223372036854775808") "integer"
        = .error (.invalid .integer "9223372036854775808" fault))
      ∧ (∃ fault, readRaw (some "1__0") "integer" = .error (.invalid .integer "1__0" fault))
      ∧ encodeRaw (some " dE\taD ") "blob" = .ok "X'DEAD'"
      ∧ ∃ fault, readRaw (some "d e") "blob" = .error (.invalid .blob "d e" fault) := by
  obtain ⟨-, hcanonical, hback, hbeyond, hmalformed, hbytes, hrefused⟩ := readRaw_canonical
  have hread : readRaw (some " +1_0٣\n") "integer" = .ok (.integer ⟨103, by decide⟩) := by
    decide +kernel
  obtain ⟨l, hencoded, hcanon, -, hl, -⟩ := hcanonical _ _ hread
  have hspells : SpellsBytes " dE\taD ".toList [0xDE, 0xAD] :=
    .space (by decide) (.pair (by decide) (.space (by decide) (.pair (by decide)
      (.space (by decide) .nil))))
  have hsplit : ∀ bytes, ¬ SpellsBytes "d e".toList bytes := by
    intro bytes h
    have hblob := readBlob_eq_ok_iff.mpr h
    rw [show readBlob "d e".toList = .error (.notHex 1) by decide +kernel] at hblob
    cases hblob
  have hdouble : ∀ s : WholeSpelling, s.text ≠ "1__0".toList := by
    intro s htext
    have hwhole := readWhole_text s
    rw [htext, show readWhole "1__0".toList = .error .notWhole by decide +kernel] at hwhole
    split at hwhole <;> cases hwhole
  refine ⟨⟨l, hencoded, hcanon, hl⟩, hback int64Min (by decide), ?_, hmalformed _ hdouble,
    (hbytes _ _ hspells).2.1, hrefused _ hsplit⟩
  refine hbeyond _ (.ofInt 9223372036854775808) ?_ ?_
  · rw [WholeSpelling.text_ofInt]
    decide +kernel
  · rw [WholeSpelling.value_ofInt]
    decide

end SqlStatements.Literal
