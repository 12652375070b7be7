/-
  SqlStatements.Proofs.Encoding.Utf8
  ──────────────────────────────────
  **Bytes that are UTF-8, and what becomes of those that are not.**

  The decoder takes a character where the encoding of one stands and nowhere else, so the
  strict reading accepts exactly the encodings of texts.  Where it finds no character it
  takes only bytes beyond ASCII: a byte of ASCII stands for itself in every reading.

  Main results:

    • `utf8_eq_char_iff`     — the decoder takes a character exactly where its encoding stands,
    • `utf8_decode_eq_ok_iff` — a text is read exactly from its encoding,
    • `mem_lenient_utf8_iff` — an ASCII character is read leniently exactly from its byte.
-/
import Mathlib.Data.List.Forall2
import Mathlib.Tactic.SplitIfs
import SqlStatements.Encoding.Codec

namespace SqlStatements.Encoding

/-! ## §1. Followers of a lead byte. -/

/-- The code point of a lead byte's bits and the bytes that follow it. -/
def codePoint (value : Nat) (following : List UInt8) : Nat :=
  following.foldl (fun n b => n * 0x40 + b.toNat % 0x40) value

/-- Bytes in their ranges are taken, and what stands behind them is left. -/
theorem takeFollowers_append {ranges : List ByteRange} {following : List UInt8}
    (h : List.Forall₂ (fun r b => r.holds b = true) ranges following) (value taken : Nat)
    (later : List UInt8) :
    takeFollowers value taken ranges (following ++ later)
      = .char (Char.ofNat (codePoint value following)) (taken + following.length) := by
  induction h generalizing value taken with
  | nil => rfl
  | @cons range b ranges following hb hrest ih =>
      show takeFollowers value taken (range :: ranges) (b :: (following ++ later)) = _
      rw [takeFollowers, if_pos hb, ih]
      simp only [codePoint, List.foldl_cons, List.length_cons, Nat.add_assoc, Nat.add_comm 1]

/-- A character is taken only of bytes in their ranges. -/
theorem of_takeFollowers_char {ranges : List ByteRange} {value taken width : Nat}
    {bytes : List UInt8} {c : Char} (h : takeFollowers value taken ranges bytes = .char c width) :
    ∃ following later, bytes = following ++ later ∧ width = taken + following.length
      ∧ List.Forall₂ (fun r b => r.holds b = true) ranges following
      ∧ c = Char.ofNat (codePoint value following) := by
  induction ranges generalizing value taken bytes with
  | nil =>
      obtain ⟨rfl, rfl⟩ : _ ∧ _ := by simpa [takeFollowers] using h
      exact ⟨[], bytes, rfl, rfl, .nil, rfl⟩
  | cons range ranges ih =>
      cases bytes with
      | nil => simp [takeFollowers] at h
      | cons b rest =>
          rw [takeFollowers] at h
          split at h
          · rename_i hb
            obtain ⟨following, later, rfl, hwidth, hall, rfl⟩ := ih h
            refine ⟨b :: following, later, rfl, ?_, .cons hb hall, rfl⟩
            rw [hwidth, List.length_cons]
            omega
          · simp at h

/-- Where no character is found, only bytes beyond ASCII have been taken. -/
theorem of_takeFollowers_bad {ranges : List ByteRange} (hranges : ∀ r ∈ ranges, 0x80 ≤ r.low)
    {value taken width : Nat} {bytes : List UInt8} {reason : Reason}
    (h : takeFollowers value taken ranges bytes = .bad reason width) :
    ∃ following later, bytes = following ++ later ∧ width = taken + following.length
      ∧ ∀ b ∈ following, 0x80 ≤ b.toNat := by
  induction ranges generalizing value taken bytes with
  | nil => simp [takeFollowers] at h
  | cons range ranges ih =>
      cases bytes with
      | nil =>
          obtain ⟨-, rfl⟩ : _ ∧ _ := by simpa [takeFollowers] using h
          exact ⟨[], [], rfl, rfl, by simp⟩
      | cons b rest =>
          rw [takeFollowers] at h
          split at h
          · rename_i hb
            obtain ⟨following, later, rfl, hwidth, hall⟩ :=
              ih (fun r hr => hranges r (List.mem_cons_of_mem range hr)) h
            have hlow : range.low ≤ b.toNat ∧ b.toNat ≤ range.high := by
              simpa [ByteRange.holds] using hb
            have := hranges range List.mem_cons_self
            refine ⟨b :: following, later, rfl, ?_, ?_⟩
            · rw [hwidth, List.length_cons]
              omega
            · intro d hd
              rcases List.mem_cons.mp hd with rfl | hd
              · omega
              · exact hall d hd
          · obtain ⟨-, rfl⟩ : _ ∧ _ := by simpa using h
            exact ⟨[], b :: rest, rfl, rfl, by simp⟩

/-- The four kinds of lead bytes. -/
theorem followers_cases {lead : Nat} {ranges : List ByteRange}
    (h : followers lead = some ranges) :
    (lead < 0x80 ∧ ranges = [])
    ∨ (0xC2 ≤ lead ∧ lead < 0xE0 ∧ ranges = [continuation])
    ∨ (0xE0 ≤ lead ∧ lead < 0xF0 ∧ ranges =
        [⟨if lead = 0xE0 then 0xA0 else 0x80, if lead = 0xED then 0x9F else 0xBF⟩, continuation])
    ∨ (0xF0 ≤ lead ∧ lead < 0xF5 ∧ ranges =
        [⟨if lead = 0xF0 then 0x90 else 0x80, if lead = 0xF4 then 0x8F else 0xBF⟩,
          continuation, continuation]) := by
  unfold followers at h
  by_cases h1 : lead < 0x80
  · rw [if_pos h1] at h
    exact .inl ⟨h1, (Option.some.inj h).symm⟩
  by_cases h2 : lead < 0xC2
  · simp [h1, h2] at h
  by_cases h3 : lead < 0xE0
  · rw [if_neg h1, if_neg h2, if_pos h3] at h
    exact .inr (.inl ⟨by omega, h3, (Option.some.inj h).symm⟩)
  by_cases h4 : lead < 0xF0
  · rw [if_neg h1, if_neg h2, if_neg h3, if_pos h4] at h
    exact .inr (.inr (.inl ⟨by omega, h4, (Option.some.inj h).symm⟩))
  by_cases h5 : lead < 0xF5
  · rw [if_neg h1, if_neg h2, if_neg h3, if_neg h4, if_pos h5] at h
    exact .inr (.inr (.inr ⟨by omega, h5, (Option.some.inj h).symm⟩))
  · simp [h1, h3, h4, h5] at h

theorem low_of_followers {lead : Nat} {ranges : List ByteRange}
    (h : followers lead = some ranges) : ∀ r ∈ ranges, 0x80 ≤ r.low := by
  rcases followers_cases h with ⟨-, rfl⟩ | ⟨-, -, rfl⟩ | ⟨-, -, rfl⟩ | ⟨-, -, rfl⟩
  · simp
  · simp [continuation]
  · simp only [List.forall_mem_cons, continuation]
    refine ⟨?_, by omega, by simp⟩
    split <;> omega
  · simp only [List.forall_mem_cons, continuation]
    refine ⟨?_, by omega, by omega, by simp⟩
    split <;> omega

/-! ## §2. Characters and their encodings. -/

/-- A byte that carries six bits. -/
theorem toNat_carrier (n : Nat) : (UInt8.ofNat (n % 64 + 128)).toNat = n % 64 + 128 := by
  rw [UInt8.toNat_ofNat']
  omega

/-- A byte that carries six bits is in a range if its number is. -/
theorem holds_carrier {range : ByteRange} {n : Nat} (hlow : range.low ≤ n % 64 + 128)
    (hhigh : n % 64 + 128 ≤ range.high) : range.holds (UInt8.ofNat (n % 64 + 128)) = true := by
  rw [ByteRange.holds, toNat_carrier, Bool.and_eq_true, decide_eq_true_eq, decide_eq_true_eq]
  exact ⟨hlow, hhigh⟩

theorem continuation_carrier (n : Nat) :
    continuation.holds (UInt8.ofNat (n % 64 + 128)) = true :=
  holds_carrier (show 0x80 ≤ n % 64 + 128 by omega) (show n % 64 + 128 ≤ 0xBF by omega)

/-- The encoding of a character is a lead byte and followers in its ranges, which hold the
bits of the code point. -/
theorem exists_utf8EncodeChar (c : Char) :
    ∃ first following ranges, String.utf8EncodeChar c = first :: following
      ∧ followers first.toNat = some ranges
      ∧ List.Forall₂ (fun r b => r.holds b = true) ranges following
      ∧ codePoint (leadBits first.toNat ranges.length) following = c.toNat := by
  have hvalid : c.toNat < 0xD800 ∨ 0xDFFF < c.toNat ∧ c.toNat < 0x110000 := c.valid
  unfold String.utf8EncodeChar
  simp only [show c.val.toNat = c.toNat from rfl]
  generalize c.toNat = v at *
  by_cases h1 : v ≤ 127
  · have hfirst : (UInt8.ofNat v).toNat = v := by
      rw [UInt8.toNat_ofNat']
      omega
    refine ⟨_, _, [], if_pos h1, ?_, .nil, ?_⟩
    · rw [hfirst, followers, if_pos (by omega)]
    · rw [hfirst]
      rfl
  by_cases h2 : v ≤ 2047
  · have hfirst : (UInt8.ofNat (v / 64 % 32 + 192)).toNat = v / 64 + 192 := by
      rw [UInt8.toNat_ofNat']
      omega
    refine ⟨_, _, [continuation], (if_neg h1).trans (if_pos h2), ?_,
      .cons (continuation_carrier v) .nil, ?_⟩
    · rw [hfirst, followers, if_neg (by omega), if_neg (by omega), if_pos (by omega)]
    · rw [hfirst]
      show (v / 64 + 192) % 32 * 64 + (UInt8.ofNat (v % 64 + 128)).toNat % 64 = v
      rw [toNat_carrier]
      omega
  by_cases h3 : v ≤ 65535
  · have hfirst : (UInt8.ofNat (v / 4096 % 16 + 224)).toNat = v / 4096 + 224 := by
      rw [UInt8.toNat_ofNat']
      omega
    refine ⟨_, _, [⟨if v / 4096 + 224 = 0xE0 then 0xA0 else 0x80,
      if v / 4096 + 224 = 0xED then 0x9F else 0xBF⟩, continuation],
      (if_neg h1).trans ((if_neg h2).trans (if_pos h3)), ?_,
      .cons (holds_carrier ?_ ?_) (.cons (continuation_carrier v) .nil), ?_⟩
    · rw [hfirst, followers, if_neg (by omega), if_neg (by omega), if_neg (by omega),
        if_pos (by omega)]
    · show (if v / 4096 + 224 = 0xE0 then 0xA0 else 0x80) ≤ v / 64 % 64 + 128
      split_ifs <;> omega
    · show v / 64 % 64 + 128 ≤ if v / 4096 + 224 = 0xED then 0x9F else 0xBF
      split_ifs <;> omega
    · rw [hfirst]
      show ((v / 4096 + 224) % 16 * 64 + (UInt8.ofNat (v / 64 % 64 + 128)).toNat % 64) * 64
        + (UInt8.ofNat (v % 64 + 128)).toNat % 64 = v
      rw [toNat_carrier, toNat_carrier]
      omega
  · have hfirst : (UInt8.ofNat (v / 262144 % 8 + 240)).toNat = v / 262144 + 240 := by
      rw [UInt8.toNat_ofNat']
      omega
    refine ⟨_, _, [⟨if v / 262144 + 240 = 0xF0 then 0x90 else 0x80,
      if v / 262144 + 240 = 0xF4 then 0x8F else 0xBF⟩, continuation, continuation],
      (if_neg h1).trans ((if_neg h2).trans (if_neg h3)), ?_,
      .cons (holds_carrier ?_ ?_)
        (.cons (continuation_carrier (v / 64)) (.cons (continuation_carrier v) .nil)), ?_⟩
    · rw [hfirst, followers, if_neg (by omega), if_neg (by omega), if_neg (by omega),
        if_neg (by omega), if_pos (by omega)]
    · show (if v / 262144 + 240 = 0xF0 then 0x90 else 0x80) ≤ v / 4096 % 64 + 128
      split_ifs <;> omega
    · show v / 4096 % 64 + 128 ≤ if v / 262144 + 240 = 0xF4 then 0x8F else 0xBF
      split_ifs <;> omega
    · rw [hfirst]
      show (((v / 262144 + 240) % 8 * 64 + (UInt8.ofNat (v / 4096 % 64 + 128)).toNat % 64) * 64
        + (UInt8.ofNat (v / 64 % 64 + 128)).toNat % 64) * 64
        + (UInt8.ofNat (v % 64 + 128)).toNat % 64 = v
      rw [toNat_carrier, toNat_carrier, toNat_carrier]
      omega

theorem utf8EncodeChar_ofNat {n : Nat} (h : n < 0xD800 ∨ 0xDFFF < n ∧ n < 0x110000) :
    String.utf8EncodeChar (Char.ofNat n) =
      if n ≤ 127 then [UInt8.ofNat n]
      else if n ≤ 2047 then [UInt8.ofNat (n / 64 % 32 + 192), UInt8.ofNat (n % 64 + 128)]
      else if n ≤ 65535 then
        [UInt8.ofNat (n / 4096 % 16 + 224), UInt8.ofNat (n / 64 % 64 + 128),
          UInt8.ofNat (n % 64 + 128)]
      else
        [UInt8.ofNat (n / 262144 % 8 + 240), UInt8.ofNat (n / 4096 % 64 + 128),
          UInt8.ofNat (n / 64 % 64 + 128), UInt8.ofNat (n % 64 + 128)] := by
  have hn : (Char.ofNat n).val.toNat = n := by
    rw [Char.ofNat, dif_pos h]
    rfl
  rw [String.utf8EncodeChar, hn]

theorem bounds_of_holds {range : ByteRange} {b : UInt8} (h : range.holds b = true) :
    range.low ≤ b.toNat ∧ b.toNat ≤ range.high := by
  simpa [ByteRange.holds] using h

theorem ofNat_eq {n : Nat} {b : UInt8} (h : n = b.toNat) : UInt8.ofNat n = b := by
  rw [h, UInt8.ofNat_toNat]

/-- A lead byte and followers in its ranges are the encoding of a character. -/
theorem utf8EncodeChar_codePoint {first : UInt8} {ranges : List ByteRange}
    {following : List UInt8} (hranges : followers first.toNat = some ranges)
    (hall : List.Forall₂ (fun r b => r.holds b = true) ranges following) :
    String.utf8EncodeChar (Char.ofNat (codePoint (leadBits first.toNat ranges.length) following))
      = first :: following := by
  rcases followers_cases hranges with ⟨h, rfl⟩ | ⟨hlow, hhigh, rfl⟩ | ⟨hlow, hhigh, rfl⟩ |
    ⟨hlow, hhigh, rfl⟩
  · cases hall
    show String.utf8EncodeChar (Char.ofNat first.toNat) = [first]
    rw [utf8EncodeChar_ofNat (by omega), if_pos (by omega), UInt8.ofNat_toNat]
  · obtain ⟨b, following, hb, hnil, rfl⟩ := List.forall₂_cons_left_iff.mp hall
    cases hnil
    have hb : 0x80 ≤ b.toNat ∧ b.toNat ≤ 0xBF := bounds_of_holds hb
    show String.utf8EncodeChar (Char.ofNat (first.toNat % 32 * 64 + b.toNat % 64)) = _
    rw [utf8EncodeChar_ofNat (by omega), if_neg (by omega), if_pos (by omega),
      ofNat_eq (show _ = first.toNat by omega), ofNat_eq (show _ = b.toNat by omega)]
  · obtain ⟨b, following, hb, hrest, rfl⟩ := List.forall₂_cons_left_iff.mp hall
    obtain ⟨d, following, hd, hnil, rfl⟩ := List.forall₂_cons_left_iff.mp hrest
    cases hnil
    have hd : 0x80 ≤ d.toNat ∧ d.toNat ≤ 0xBF := bounds_of_holds hd
    have hb : (if first.toNat = 0xE0 then 0xA0 else 0x80) ≤ b.toNat
        ∧ b.toNat ≤ if first.toNat = 0xED then 0x9F else 0xBF := bounds_of_holds hb
    have hvalue : (0x80 ≤ b.toNat ∧ b.toNat ≤ 0xBF)
        ∧ 0x800 ≤ first.toNat % 16 * 64 * 64 + b.toNat % 64 * 64
        ∧ (first.toNat % 16 * 64 + b.toNat % 64 < 0xD800 / 64
          ∨ 0xE000 / 64 ≤ first.toNat % 16 * 64 + b.toNat % 64) := by
      split_ifs at hb <;> omega
    show String.utf8EncodeChar
      (Char.ofNat ((first.toNat % 16 * 64 + b.toNat % 64) * 64 + d.toNat % 64)) = _
    rw [utf8EncodeChar_ofNat (by omega), if_neg (by omega), if_neg (by omega), if_pos (by omega),
      ofNat_eq (show _ = first.toNat by omega), ofNat_eq (show _ = b.toNat by omega),
      ofNat_eq (show _ = d.toNat by omega)]
  · obtain ⟨b, following, hb, hrest, rfl⟩ := List.forall₂_cons_left_iff.mp hall
    obtain ⟨d, following, hd, hlast, rfl⟩ := List.forall₂_cons_left_iff.mp hrest
    obtain ⟨e, following, he, hnil, rfl⟩ := List.forall₂_cons_left_iff.mp hlast
    cases hnil
    have he : 0x80 ≤ e.toNat ∧ e.toNat ≤ 0xBF := bounds_of_holds he
    have hd : 0x80 ≤ d.toNat ∧ d.toNat ≤ 0xBF := bounds_of_holds hd
    have hb : (if first.toNat = 0xF0 then 0x90 else 0x80) ≤ b.toNat
        ∧ b.toNat ≤ if first.toNat = 0xF4 then 0x8F else 0xBF := bounds_of_holds hb
    have hvalue : (0x80 ≤ b.toNat ∧ b.toNat ≤ 0xBF)
        ∧ 0x10000 / 4096 ≤ first.toNat % 8 * 64 + b.toNat % 64
        ∧ first.toNat % 8 * 64 + b.toNat % 64 < 0x110000 / 4096 := by
      split_ifs at hb <;> omega
    show String.utf8EncodeChar (Char.ofNat
      (((first.toNat % 8 * 64 + b.toNat % 64) * 64 + d.toNat % 64) * 64 + e.toNat % 64)) = _
    rw [utf8EncodeChar_ofNat (by omega), if_neg (by omega), if_neg (by omega), if_neg (by omega),
      ofNat_eq (show _ = first.toNat by omega), ofNat_eq (show _ = b.toNat by omega),
      ofNat_eq (show _ = d.toNat by omega), ofNat_eq (show _ = e.toNat by omega)]

/-- **The decoder takes a character exactly where its encoding stands.** -/
theorem utf8_eq_char_iff {first : UInt8} {rest : List UInt8} {c : Char} {width : Nat} :
    utf8 first rest = .char c width
      ↔ ∃ later, first :: rest = String.utf8EncodeChar c ++ later
          ∧ width = (String.utf8EncodeChar c).length := by
  constructor
  · intro h
    unfold utf8 at h
    split at h
    · simp at h
    · rename_i ranges hranges
      obtain ⟨following, later, rfl, rfl, hall, rfl⟩ := of_takeFollowers_char h
      rw [utf8EncodeChar_codePoint hranges hall]
      exact ⟨later, rfl, Nat.add_comm 1 following.length⟩
  · rintro ⟨later, hbytes, rfl⟩
    obtain ⟨lead, following, ranges, hencoded, hranges, hall, hcode⟩ := exists_utf8EncodeChar c
    rw [hencoded] at hbytes ⊢
    obtain ⟨rfl, rfl⟩ : first = lead ∧ rest = following ++ later := List.cons.inj hbytes
    simp only [utf8, hranges]
    rw [takeFollowers_append hall, hcode, Char.ofNat_toNat, List.length_cons, Nat.add_comm]

/-- Where there is no character, only bytes beyond ASCII are taken. -/
theorem of_utf8_bad {first : UInt8} {rest : List UInt8} {reason : Reason} {width : Nat}
    (h : utf8 first rest = .bad reason width) :
    ∃ following later, rest = following ++ later ∧ width = following.length + 1
      ∧ ∀ b ∈ first :: following, 0x80 ≤ b.toNat := by
  unfold utf8 at h
  split at h
  · rename_i hnone
    obtain ⟨-, rfl⟩ : _ ∧ _ := by simpa using h
    refine ⟨[], rest, rfl, rfl, ?_⟩
    have hfirst : ¬ first.toNat < 0x80 := fun hlt => by simp [followers, hlt] at hnone
    simpa using hfirst
  · rename_i ranges hranges
    obtain ⟨following, later, rfl, rfl, hall⟩ :=
      of_takeFollowers_bad (low_of_followers hranges) h
    refine ⟨following, later, rfl, Nat.add_comm 1 following.length, ?_⟩
    refine List.forall_mem_cons.mpr ⟨?_, hall⟩
    rcases followers_cases hranges with ⟨-, rfl⟩ | ⟨hlow, -⟩ | ⟨hlow, -⟩ | ⟨hlow, -⟩
    · simp [takeFollowers] at h
    all_goals omega

/-! ## §3. Texts. -/

theorem piecesFrom_drop (next : Decoder) (skip : Nat) (bytes : List UInt8) :
    piecesFrom next skip bytes = pieces next (bytes.drop skip) := by
  induction bytes generalizing skip with
  | nil => cases skip <;> rfl
  | cons b bytes ih =>
      cases skip with
      | zero => rfl
      | succ skip => exact ih skip

theorem pieces_cons (next : Decoder) (first : UInt8) (rest : List UInt8) :
    pieces next (first :: rest)
      = next first rest :: pieces next (rest.drop ((next first rest).width - 1)) := by
  rw [← piecesFrom_drop]
  rfl

/-- The encoding of a character is a piece of its own. -/
theorem pieces_utf8EncodeChar (c : Char) (later : List UInt8) :
    pieces utf8 (String.utf8EncodeChar c ++ later)
      = .char c (String.utf8EncodeChar c).length :: pieces utf8 later := by
  obtain ⟨first, following, -, hencoded, -⟩ := exists_utf8EncodeChar c
  have hpiece : utf8 first (following ++ later) = .char c (String.utf8EncodeChar c).length :=
    utf8_eq_char_iff.mpr ⟨later, by rw [hencoded]; rfl, rfl⟩
  rw [hencoded] at hpiece ⊢
  rw [List.cons_append, pieces_cons, hpiece]
  show _ :: pieces utf8 ((following ++ later).drop following.length) = _
  rw [List.drop_left]

theorem strict_utf8_encoded (position : Nat) (text : List Char) :
    strict position (pieces utf8 (text.flatMap String.utf8EncodeChar)) = .ok text := by
  induction text generalizing position with
  | nil => rfl
  | cons c text ih =>
      rw [List.flatMap_cons, pieces_utf8EncodeChar, strict, ih]
      rfl

/-- The lenient reading gives back a text from its encoding. -/
theorem lenient_utf8_encoded (text : List Char) :
    lenient (pieces utf8 (text.flatMap String.utf8EncodeChar)) = text := by
  induction text with
  | nil => rfl
  | cons c text ih =>
      rw [List.flatMap_cons, pieces_utf8EncodeChar]
      exact congrArg (c :: ·) ih

/-- A text is read of a character and more pieces if it begins with it. -/
theorem of_strict_char {position width : Nat} {c : Char} {rest : List Piece} {text : List Char}
    (h : strict position (.char c width :: rest) = .ok text) :
    ∃ more, text = c :: more ∧ strict (position + width) rest = .ok more := by
  rw [strict] at h
  cases hrest : strict (position + width) rest with
  | error run =>
      rw [hrest] at h
      cases h
  | ok more =>
      rw [hrest] at h
      cases h
      exact ⟨more, rfl, rfl⟩

theorem of_strict_utf8 {position : Nat} {bytes : List UInt8} {text : List Char}
    (h : strict position (pieces utf8 bytes) = .ok text) :
    bytes = text.flatMap String.utf8EncodeChar := by
  induction text generalizing position bytes with
  | nil =>
      cases bytes with
      | nil => rfl
      | cons first rest =>
          rw [pieces_cons] at h
          cases hpiece : utf8 first rest with
          | char d width =>
              rw [hpiece] at h
              obtain ⟨more, hmore, -⟩ := of_strict_char h
              cases hmore
          | bad reason width =>
              rw [hpiece] at h
              cases h
  | cons c text ih =>
      cases bytes with
      | nil => cases h
      | cons first rest =>
          cases hpiece : utf8 first rest with
          | char d width =>
              obtain ⟨later, hbytes, rfl⟩ := utf8_eq_char_iff.mp hpiece
              rw [hbytes, pieces_utf8EncodeChar] at h
              obtain ⟨more, hmore, hlater⟩ := of_strict_char h
              obtain ⟨rfl, rfl⟩ := List.cons.inj hmore
              rw [hbytes, ih hlater, List.flatMap_cons]
          | bad reason width =>
              rw [pieces_cons, hpiece] at h
              cases h

/-- **A text is read exactly from its encoding.** -/
theorem utf8_decode_eq_ok_iff {bytes : List UInt8} {text : List Char} :
    Codec.utf8.decode bytes = .ok text ↔ bytes = text.flatMap String.utf8EncodeChar := by
  have hdecode : Codec.utf8.decode bytes = .ok text ↔ strict 0 (pieces utf8 bytes) = .ok text := by
    show Except.mapError _ (strict 0 (pieces utf8 bytes)) = _ ↔ _
    cases strict 0 (pieces utf8 bytes) <;> simp [Except.mapError]
  rw [hdecode]
  exact ⟨of_strict_utf8, fun h => h ▸ strict_utf8_encoded 0 text⟩

/-! ## §4. Bytes of ASCII. -/

theorem beyond_ascii {ranges : List ByteRange} {following : List UInt8}
    (hranges : ∀ r ∈ ranges, 0x80 ≤ r.low)
    (hall : List.Forall₂ (fun r b => r.holds b = true) ranges following) :
    ∀ b ∈ following, 0x80 ≤ b.toNat := by
  induction hall with
  | nil => simp
  | cons hb hrest ih =>
      obtain ⟨hlow, hlows⟩ := List.forall_mem_cons.mp hranges
      exact List.forall_mem_cons.mpr ⟨Nat.le_trans hlow (bounds_of_holds hb).1, ih hlows⟩

/-- A byte of ASCII in the encoding of a character is the byte of that character. -/
theorem of_mem_utf8EncodeChar {d : Char} {b : UInt8} (hb : b ∈ String.utf8EncodeChar d)
    (hascii : b.toNat < 0x80) : b.toNat = d.toNat := by
  obtain ⟨first, following, ranges, hencoded, hranges, hall, hcode⟩ := exists_utf8EncodeChar d
  rw [hencoded] at hb
  rcases List.mem_cons.mp hb with rfl | hfollowing
  · rcases followers_cases hranges with ⟨-, rfl⟩ | ⟨hlow, -⟩ | ⟨hlow, -⟩ | ⟨hlow, -⟩
    · cases hall
      exact hcode
    all_goals omega
  · have := beyond_ascii (low_of_followers hranges) hall b hfollowing
    omega

/-- The byte of an ASCII character is in the encoding of no other one. -/
theorem mem_utf8EncodeChar_iff {c d : Char} (hc : c.toNat < 0x80) :
    UInt8.ofNat c.toNat ∈ String.utf8EncodeChar d ↔ c = d := by
  constructor
  · intro h
    have hbyte : (UInt8.ofNat c.toNat).toNat = c.toNat := by
      rw [UInt8.toNat_ofNat']
      omega
    have hcode := of_mem_utf8EncodeChar h (by omega)
    exact Char.toNat_inj.mp (hbyte.symm.trans hcode)
  · rintro rfl
    have hencoded : String.utf8EncodeChar c = [UInt8.ofNat c.toNat] :=
      if_pos (Nat.le_of_lt_succ hc)
    rw [hencoded]
    exact List.mem_singleton.mpr rfl

/-- **An ASCII character is read exactly from its byte**, wherever it stands. -/
theorem mem_lenient_utf8_iff {c : Char} (hc : c.toNat < 0x80) (bytes : List UInt8) :
    c ∈ lenient (pieces utf8 bytes) ↔ UInt8.ofNat c.toNat ∈ bytes := by
  -- a piece takes at least a byte, so the induction is on their number
  induction hsize : bytes.length using Nat.strongRecOn generalizing bytes with
  | ind size ih =>
      subst hsize
      cases bytes with
      | nil => simp [pieces, piecesFrom, lenient]
      | cons first rest =>
          cases hpiece : utf8 first rest with
          | char d width =>
              obtain ⟨later, hbytes, -⟩ := utf8_eq_char_iff.mp hpiece
              have hshorter : later.length < (first :: rest).length := by
                rw [hbytes, List.length_append]
                have := String.utf8EncodeChar_ne_nil (c := d)
                have := List.length_pos_iff.mpr this
                omega
              rw [hbytes, pieces_utf8EncodeChar, List.mem_append, mem_utf8EncodeChar_iff hc,
                ← ih later.length hshorter later rfl]
              exact List.mem_cons
          | bad reason width =>
              obtain ⟨following, later, rfl, rfl, hbeyond⟩ := of_utf8_bad hpiece
              have htaken : UInt8.ofNat c.toNat ∉ first :: following := by
                intro hmem
                have := hbeyond _ hmem
                rw [UInt8.toNat_ofNat'] at this
                omega
              have hshown : c ≠ '\uFFFD' := by
                rintro rfl
                exact absurd hc (by decide)
              have hshorter : later.length < (first :: (following ++ later)).length := by
                rw [List.length_cons, List.length_append]
                omega
              rw [pieces_cons, hpiece, ← List.cons_append, List.mem_append, or_iff_right htaken,
                ← ih later.length hshorter later rfl]
              show c ∈ '\uFFFD' :: lenient (pieces utf8 ((following ++ later).drop following.length))
                ↔ _
              rw [List.drop_left, List.mem_cons, or_iff_right hshown]

end SqlStatements.Encoding
