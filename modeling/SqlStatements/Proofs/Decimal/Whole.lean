/-
  SqlStatements.Proofs.Decimal.Whole
  ──────────────────────────────────
  **The spellings of whole numbers, and what is read of them.**

  A whole number is spelled as a sign and digits, with space around them and single
  underscores between the digits; the digits may be those of any script, and the space is
  that of ASCII and every blank character beyond it.  In ASCII a spelling becomes a sign and
  ASCII digits in groups.  Reading accepts exactly the spellings that are not too long, each
  with its number.

  Main results:

    • `joinDigits_eq_some_iff` — which digits with underscores are joined,
    • `readWhole_text`         — what is read of a spelling,
    • `readWhole_eq_ok_iff`    — a number is read exactly from its spellings.
-/
import SqlStatements.Decimal.Whole
import SqlStatements.Proofs.Decimal.Numeral
import SqlStatements.Proofs.Text.Cutting
import SqlStatements.Proofs.Text.Hex

namespace SqlStatements.Decimal

open Text

/-! ## §1. Spellings. -/

/-- The space that may stand around a number: that of ASCII, and every blank character
beyond it. -/
def isNumberSpace (c : Char) : Bool :=
  isAsciiSpace c || (128 ≤ c.toNat && isBlank c)

/-- Whether underscores stand between digits only, and one at a time. -/
def Grouped (body : List Char) : Prop := ∀ group ∈ body.splitOn '_', group ≠ []

instance (body : List Char) : Decidable (Grouped body) :=
  inferInstanceAs (Decidable (∀ group ∈ body.splitOn '_', group ≠ []))

/-- The number of some decimal digits, the most significant first. -/
def decimalValue (digits : List Nat) : Nat :=
  digits.foldl (fun n d => 10 * n + d) 0

/-- A whole number as it may be spelled. -/
structure WholeSpelling where
  before : List Char
  signText : List Char
  /-- The digits with the underscores between them. -/
  body : List Char
  after : List Char
  isNumberSpace_before : ∀ c ∈ before, isNumberSpace c = true
  isNumberSpace_after : ∀ c ∈ after, isNumberSpace c = true
  signText_mem : signText ∈ [[], ['+'], ['-']]
  isDigit_body : ∀ c ∈ body, c ≠ '_' → (decimalDigit? c).isSome = true
  grouped : Grouped body

namespace WholeSpelling

/-- The whole text. -/
def text (s : WholeSpelling) : List Char := s.before ++ (s.signText ++ s.body) ++ s.after

/-- The values of the digits. -/
def digits (s : WholeSpelling) : List Nat := s.body.filterMap decimalDigit?

/-- The number that is spelled. -/
def value (s : WholeSpelling) : Int :=
  if s.signText = ['-'] then -(decimalValue s.digits : Int) else decimalValue s.digits

end WholeSpelling

/-! ## §2. Digits of every script. -/

theorem of_decimalDigit? {c : Char} {d : Nat} (h : decimalDigit? c = some d) :
    ∃ z ∈ digitZeros, c = Char.ofNat (z + d) ∧ d < 10 := by
  obtain ⟨z, hfind, rfl⟩ := Option.map_eq_some_iff.mp h
  have hrange : z ≤ c.toNat ∧ c.toNat < z + 10 := by simpa using List.find?_some hfind
  refine ⟨z, List.mem_of_find?_eq_some hfind, ?_, by omega⟩
  rw [Nat.add_sub_cancel' hrange.1, Char.ofNat_toNat]

theorem lt_of_decimalDigit? {c : Char} {d : Nat} (h : decimalDigit? c = some d) : d < 10 :=
  let ⟨_, _, _, hd⟩ := of_decimalDigit? h
  hd

/-- The decimal digits of ASCII. -/
theorem decimalDigit?_of_isDigit {c : Char} (h : c.isDigit = true) :
    ∃ d, decimalDigit? c = some d := by
  have hrange : 48 ≤ c.toNat ∧ c.toNat ≤ 57 := by
    simpa [Char.isDigit, UInt32.le_iff_toNat_le] using h
  have hall : ∀ c : Char, c.toNat < 128 → c.isDigit = true → (decimalDigit? c).isSome = true :=
    of_ascii (by decide +kernel)
  exact Option.isSome_iff_exists.mp (hall c (by omega) h)

/-- No decimal digit is blank, and none is a sign or an underscore. -/
theorem not_blank_of_decimalDigit? {c : Char} {d : Nat} (h : decimalDigit? c = some d) :
    isBlank c = false ∧ isAsciiSpace c = false ∧ c ∉ ['_', '+', '-'] := by
  obtain ⟨z, hz, rfl, hd⟩ := of_decimalDigit? h
  have hall : ∀ z ∈ digitZeros, ∀ d < 10, isBlank (Char.ofNat (z + d)) = false
      ∧ isAsciiSpace (Char.ofNat (z + d)) = false ∧ Char.ofNat (z + d) ∉ ['_', '+', '-'] := by
    decide +kernel
  exact hall z hz d hd

/-! ## §3. Characters in ASCII. -/

/-- The digit of ASCII with the value of a digit stands for it. -/
theorem asciiNumeral_of_decimalDigit? {c : Char} {d : Nat} (h : decimalDigit? c = some d) :
    asciiNumeral c = Char.ofNat (48 + d) := by
  unfold asciiNumeral
  split
  · rename_i hascii
    obtain ⟨z, hz, rfl, hd⟩ := of_decimalDigit? h
    have hall : ∀ z ∈ digitZeros, ∀ d < 10, (Char.ofNat (z + d)).toNat < 128 → z = 48 := by
      decide +kernel
    rw [hall z hz d hd hascii]
  · rw [if_neg (by simp [(not_blank_of_decimalDigit? h).1]), h]

/-- A character is itself in ASCII, or it is beyond ASCII and becomes a space, a digit or a
question mark. -/
theorem asciiNumeral_cases (c : Char) :
    (c.toNat < 128 ∧ asciiNumeral c = c)
      ∨ (128 ≤ c.toNat ∧ isBlank c = true ∧ asciiNumeral c = ' ')
      ∨ (128 ≤ c.toNat ∧ isBlank c = false ∧
          ∃ d < 10, decimalDigit? c = some d ∧ asciiNumeral c = Char.ofNat (48 + d))
      ∨ (128 ≤ c.toNat ∧ isBlank c = false ∧ asciiNumeral c = '?') := by
  unfold asciiNumeral
  split
  · exact .inl ⟨by assumption, rfl⟩
  · have hbeyond : 128 ≤ c.toNat := by omega
    split
    · exact .inr (.inl ⟨hbeyond, by assumption, rfl⟩)
    · have hblank : isBlank c = false := by simpa using ‹¬ isBlank c = true›
      split
      · rename_i d hd
        exact .inr (.inr (.inl ⟨hbeyond, hblank, d, lt_of_decimalDigit? hd, hd, rfl⟩))
      · exact .inr (.inr (.inr ⟨hbeyond, hblank, rfl⟩))

/-- A character beyond ASCII is none of ASCII. -/
theorem ne_of_beyond {c d : Char} (hc : 128 ≤ c.toNat) (hd : d.toNat < 128) : c ≠ d := by
  rintro rfl
  omega

/-- The space around a number is what becomes ASCII space. -/
theorem isAsciiSpace_asciiNumeral (c : Char) : isAsciiSpace (asciiNumeral c) = isNumberSpace c := by
  have hbeyond : 128 ≤ c.toNat → isAsciiSpace c = false := by
    intro h
    simp only [isAsciiSpace, Bool.or_eq_false_iff, Bool.and_eq_false_iff, decide_eq_false_iff_not,
      beq_eq_false_iff_ne]
    omega
  unfold isNumberSpace
  rcases asciiNumeral_cases c with ⟨h, heq⟩ | ⟨h, hblank, heq⟩ | ⟨h, hblank, d, hd, -, heq⟩
    | ⟨h, hblank, heq⟩
  · have hnot : decide (128 ≤ c.toNat) = false := by simpa using h
    rw [heq, hnot, Bool.false_and, Bool.or_false]
  · rw [heq, hblank, decide_eq_true h]
    simp [isAsciiSpace]
  · have hall : ∀ d < 10, isAsciiSpace (Char.ofNat (48 + d)) = false := by decide
    rw [heq, hblank, hall d hd, hbeyond h]
    simp
  · rw [heq, hblank, hbeyond h]
    simp [isAsciiSpace]

/-- What becomes a digit of ASCII is a digit. -/
theorem exists_decimalDigit? {c : Char} (h : (asciiNumeral c).isDigit = true) :
    ∃ d, decimalDigit? c = some d := by
  rcases asciiNumeral_cases c with ⟨-, heq⟩ | ⟨-, -, heq⟩ | ⟨-, -, d, -, hd, -⟩ | ⟨-, -, heq⟩
  · exact decimalDigit?_of_isDigit (heq ▸ h)
  · rw [heq] at h
    cases h
  · exact ⟨d, hd⟩
  · rw [heq] at h
    cases h

/-- Only the signs and the underscore themselves become signs and underscores. -/
theorem asciiNumeral_eq_iff {c d : Char} (hd : d ∈ ['_', '+', '-']) :
    asciiNumeral c = d ↔ c = d := by
  have hmarks : d.toNat < 128 ∧ ' ' ≠ d ∧ '?' ≠ d ∧ ∀ n < 10, Char.ofNat (48 + n) ≠ d := by
    obtain rfl | rfl | rfl : d = '_' ∨ d = '+' ∨ d = '-' := by simpa using hd
    all_goals decide
  obtain ⟨hascii, hspace, hmark, hdigit⟩ := hmarks
  rcases asciiNumeral_cases c with ⟨-, heq⟩ | ⟨h, -, heq⟩ | ⟨h, -, n, hn, -, heq⟩ | ⟨h, -, heq⟩
  · rw [heq]
  · rw [heq]
    exact iff_of_false hspace (ne_of_beyond h hascii)
  · rw [heq]
    exact iff_of_false (hdigit n hn) (ne_of_beyond h hascii)
  · rw [heq]
    exact iff_of_false hmark (ne_of_beyond h hascii)

/-! ## §4. Digits with underscores. -/

/-- Whether a character may stand in a number in ASCII, its sign aside. -/
def isWholePart (c : Char) : Bool := c.isDigit || c == '_'

theorem not_grouped_nil : ¬ Grouped [] :=
  fun h => h [] (by simp) rfl

/-- An underscore in front stands behind nothing. -/
theorem not_grouped_underscore (body : List Char) : ¬ Grouped ('_' :: body) := by
  intro h
  refine h [] ?_ rfl
  rw [List.splitOn_eq_splitOnP, List.splitOnP_cons_eq_if_modifyHead, if_pos (by decide)]
  exact List.mem_cons_self

section
variable {c : Char} (hc : c ≠ '_')
include hc

theorem splitOn_cons_digit (body : List Char) :
    (c :: body).splitOn '_' = (body.splitOn '_').modifyHead (c :: ·) := by
  rw [List.splitOn_eq_splitOnP, List.splitOn_eq_splitOnP, List.splitOnP_cons_eq_if_modifyHead,
    if_neg (by simpa using hc)]

theorem grouped_singleton : Grouped [c] := by
  unfold Grouped
  rw [splitOn_cons_digit hc]
  simp

theorem grouped_cons_underscore (body : List Char) : Grouped (c :: '_' :: body) ↔ Grouped body := by
  have hcut : ('_' :: body).splitOn '_' = [] :: body.splitOn '_' := by
    rw [List.splitOn_eq_splitOnP, List.splitOn_eq_splitOnP, List.splitOnP_cons_eq_if_modifyHead,
      if_pos (by decide)]
  unfold Grouped
  rw [splitOn_cons_digit hc, hcut]
  simp

/-- A digit belongs to the group that it stands in front of. -/
theorem grouped_cons_digit {d : Char} (hd : d ≠ '_') (body : List Char) :
    Grouped (c :: d :: body) ↔ Grouped (d :: body) := by
  obtain ⟨x, xs, hx⟩ := List.exists_cons_of_ne_nil (List.splitOn_ne_nil '_' body)
  unfold Grouped
  rw [splitOn_cons_digit hc, splitOn_cons_digit hd, hx]
  simp

end

theorem ne_underscore_of_isDigit {c : Char} (h : c.isDigit = true) : c ≠ '_' := by
  rintro rfl
  cases h

theorem isDigit_of_isWholePart {c : Char} (h : isWholePart c = true) (hc : c ≠ '_') :
    c.isDigit = true := by
  simpa [isWholePart, hc] using h

/-- Behind a digit, and behind an underscore, the underscores are taken out of what is
grouped with it. -/
theorem dropUnderscores_eq_some_iff {run : List Char} (hrun : ∀ c ∈ run, isWholePart c = true)
    (digits : List Char) :
    (∀ p : Char, p.isDigit = true → (dropUnderscores (some p) run = some digits
        ↔ Grouped (p :: run) ∧ run.filter (· != '_') = digits))
      ∧ (dropUnderscores (some '_') run = some digits
        ↔ Grouped run ∧ run.filter (· != '_') = digits) := by
  induction run generalizing digits with
  | nil =>
      refine ⟨fun p hp => ?_, iff_of_false (by simp [dropUnderscores]) fun h => not_grouped_nil h.1⟩
      have hne := ne_underscore_of_isDigit hp
      rw [dropUnderscores, if_neg fun h => hne (Option.some.inj h)]
      exact Option.some_inj.trans (and_iff_right (grouped_singleton hne)).symm
  | cons c run ih =>
      have ih := ih fun d hd => hrun d (List.mem_cons_of_mem c hd)
      by_cases hc : c = '_'
      · subst hc
        rw [List.filter_cons_of_neg (by decide)]
        refine ⟨fun p hp => ?_, ?_⟩
        · have hbehind : (some p).any Char.isDigit = true := hp
          rw [dropUnderscores, if_pos rfl, if_pos hbehind,
            grouped_cons_underscore (ne_underscore_of_isDigit hp)]
          exact (ih digits).2
        · rw [dropUnderscores, if_pos rfl, if_neg (by decide)]
          exact iff_of_false nofun fun h => not_grouped_underscore run h.1
      · have hdigit := isDigit_of_isWholePart (hrun c List.mem_cons_self) hc
        rw [List.filter_cons_of_pos (by simpa using hc)]
        -- a digit may stand behind either
        have hstep : ∀ p : Char, dropUnderscores (some p) (c :: run) = some digits
            ↔ Grouped (c :: run) ∧ c :: run.filter (· != '_') = digits := by
          intro p
          rw [dropUnderscores, if_neg hc, if_neg (by simp [hdigit]), Option.map_eq_some_iff]
          constructor
          · rintro ⟨more, hmore, rfl⟩
            obtain ⟨hgrouped, rfl⟩ := ((ih more).1 c hdigit).mp hmore
            exact ⟨hgrouped, rfl⟩
          · rintro ⟨hgrouped, rfl⟩
            exact ⟨_, ((ih _).1 c hdigit).mpr ⟨hgrouped, rfl⟩, rfl⟩
        refine ⟨fun p hp => ?_, hstep '_'⟩
        rw [grouped_cons_digit (ne_underscore_of_isDigit hp) hc]
        exact hstep p

/-- **Digits are joined exactly if they are grouped.** -/
theorem joinDigits_eq_some_iff {run : List Char} (hrun : ∀ c ∈ run, isWholePart c = true)
    {digits : List Char} :
    joinDigits run = some digits ↔ Grouped run ∧ run.filter (· != '_') = digits := by
  cases run with
  | nil => exact iff_of_false nofun fun h => not_grouped_nil h.1
  | cons c run =>
      by_cases hc : c = '_'
      · subst hc
        exact iff_of_false nofun fun h => not_grouped_underscore run h.1
      · -- in front of a number a digit stands as behind an underscore
        have hdigit := isDigit_of_isWholePart (hrun c List.mem_cons_self) hc
        have hfirst : joinDigits (c :: run) = dropUnderscores (some '_') (c :: run) := by
          rw [joinDigits, if_neg hc, dropUnderscores, dropUnderscores, if_neg hc, if_neg hc,
            if_neg (by simp), if_neg (by simp [hdigit])]
        rw [hfirst]
        exact (dropUnderscores_eq_some_iff hrun digits).2

/-! ## §5. The ASCII of a spelling. -/

/-- The ASCII of a number is that of what stands between the space around it. -/
theorem plainNumeral_eq (raw : List Char) :
    plainNumeral raw
      = (dropTrailing isNumberSpace (raw.dropWhile isNumberSpace)).map asciiNumeral := by
  have hspace : isAsciiSpace ∘ asciiNumeral = isNumberSpace := funext isAsciiSpace_asciiNumeral
  rw [plainNumeral, List.dropWhile_map, dropTrailing_map, hspace]

/-- Signs and underscores stay what they are. -/
theorem map_asciiNumeral_eq_iff {text marks : List Char} (h : ∀ c ∈ marks, c ∈ ['_', '+', '-']) :
    text.map asciiNumeral = marks ↔ text = marks := by
  induction text generalizing marks with
  | nil => exact Iff.rfl
  | cons c text ih =>
      cases marks with
      | nil => exact iff_of_false nofun nofun
      | cons d marks =>
          obtain ⟨hd, hmarks⟩ := List.forall_mem_cons.mp h
          rw [List.map_cons, List.cons.injEq, List.cons.injEq, asciiNumeral_eq_iff hd, ih hmarks]

theorem of_mem_signs {signText : List Char} (h : signText ∈ [[], ['+'], ['-']]) :
    ∀ c ∈ signText, c ∈ ['_', '+', '-'] := by
  obtain rfl | rfl | rfl : signText = [] ∨ signText = ['+'] ∨ signText = ['-'] := by
    simpa using h
  all_goals simp

/-- A sign is taken off what does not begin with one. -/
theorem splitSign_append {signText body : List Char} (h : signText ∈ [[], ['+'], ['-']])
    (hbody : ∀ c ∈ body.head?, c ∉ ['+', '-']) :
    splitSign (signText ++ body) = (decide (signText = ['-']), body) := by
  simp only [List.mem_cons, List.not_mem_nil, or_false] at h
  rcases h with rfl | rfl | rfl
  · cases body with
    | nil => rfl
    | cons c body =>
        have hc : c ≠ '+' ∧ c ≠ '-' := by simpa using hbody c rfl
        show splitSign (c :: body) = (false, c :: body)
        unfold splitSign
        split
        · simp_all
        · simp_all
        · rfl
  · rfl
  · rfl

/-- Whatever is behind the sign of a text, the text is that sign and this. -/
theorem exists_splitSign (text : List Char) :
    ∃ signText ∈ [[], ['+'], ['-']], text = signText ++ (splitSign text).2 := by
  unfold splitSign
  split
  · exact ⟨['-'], by decide, rfl⟩
  · exact ⟨['+'], by decide, rfl⟩
  · exact ⟨[], by decide, rfl⟩

theorem grouped_map_asciiNumeral (body : List Char) :
    Grouped (body.map asciiNumeral) ↔ Grouped body := by
  have hmark : (fun c => c == '_') ∘ asciiNumeral = fun c => c == '_' := by
    funext c
    show (asciiNumeral c == '_') = (c == '_')
    rw [Bool.eq_iff_iff, beq_iff_eq, beq_iff_eq, asciiNumeral_eq_iff (by decide)]
  unfold Grouped
  rw [List.splitOn_eq_splitOnP, List.splitOn_eq_splitOnP, splitOnP_map, hmark]
  simp

/-- The number of digits of ASCII with these values. -/
theorem numberOf_map_digits {digits : List Nat} (h : ∀ d ∈ digits, d < 10) :
    numberOf (digits.map fun d => Char.ofNat (48 + d)) = decimalValue digits := by
  have hvalue : ∀ d < 10, (Char.ofNat (48 + d)).toNat - 48 = d := by decide
  unfold numberOf decimalValue
  rw [List.foldl_map]
  generalize 0 = n
  induction digits generalizing n with
  | nil => rfl
  | cons d digits ih =>
      obtain ⟨hd, hdigits⟩ := List.forall_mem_cons.mp h
      rw [List.foldl_cons, List.foldl_cons, hvalue d hd, ih hdigits]

namespace WholeSpelling
variable (s : WholeSpelling)

theorem lt_of_mem_digits : ∀ d ∈ s.digits, d < 10 := by
  intro d hd
  obtain ⟨c, -, hc⟩ := List.mem_filterMap.mp hd
  exact lt_of_decimalDigit? hc

/-- The digits in ASCII, the underscores left out. -/
theorem filter_map_body : (s.body.map asciiNumeral).filter (· != '_')
    = s.digits.map fun d => Char.ofNat (48 + d) := by
  have hbody := s.isDigit_body
  unfold digits
  generalize s.body = body at hbody ⊢
  induction body with
  | nil => rfl
  | cons c body ih =>
      have ih := ih fun d hd => hbody d (List.mem_cons_of_mem c hd)
      by_cases hc : c = '_'
      · subst hc
        exact ih
      · obtain ⟨d, hd⟩ := Option.isSome_iff_exists.mp (hbody c List.mem_cons_self hc)
        have hne : asciiNumeral c ≠ '_' := fun h => hc ((asciiNumeral_eq_iff (by decide)).mp h)
        rw [List.map_cons, List.filter_cons_of_pos (by simpa using hne), ih,
          List.filterMap_cons_some hd, List.map_cons, asciiNumeral_of_decimalDigit? hd]

theorem isWholePart_body : ∀ c ∈ s.body.map asciiNumeral, isWholePart c = true := by
  have hall : ∀ d < 10, isWholePart (Char.ofNat (48 + d)) = true := by decide
  intro c hc
  obtain ⟨c, hmem, rfl⟩ := List.mem_map.mp hc
  by_cases hunderscore : c = '_'
  · subst hunderscore
    rfl
  · obtain ⟨d, hd⟩ := Option.isSome_iff_exists.mp (s.isDigit_body c hmem hunderscore)
    rw [asciiNumeral_of_decimalDigit? hd]
    exact hall d (lt_of_decimalDigit? hd)

theorem joinDigits_body : joinDigits (s.body.map asciiNumeral)
    = some (s.digits.map fun d => Char.ofNat (48 + d)) :=
  (joinDigits_eq_some_iff s.isWholePart_body).mpr
    ⟨(grouped_map_asciiNumeral s.body).mpr s.grouped, s.filter_map_body⟩

/-- The characters of a number are neither space nor signs. -/
theorem of_mem_body {c : Char} (h : c ∈ s.body) : isNumberSpace c = false ∧ c ∉ ['+', '-'] := by
  by_cases hunderscore : c = '_'
  · subst hunderscore
    decide
  · obtain ⟨d, hd⟩ := Option.isSome_iff_exists.mp (s.isDigit_body c h hunderscore)
    obtain ⟨hblank, hspace, hmark⟩ := not_blank_of_decimalDigit? hd
    refine ⟨by simp [isNumberSpace, hblank, hspace], fun h => hmark (List.mem_cons_of_mem '_' h)⟩

/-- **The ASCII of a spelling is its sign and its digits in ASCII.** -/
theorem plainNumeral_text :
    plainNumeral s.text = s.signText ++ s.body.map asciiNumeral := by
  have hsigns := of_mem_signs s.signText_mem
  have hmarks : ∀ c ∈ ['_', '+', '-'], isNumberSpace c = false := by
    simp only [List.forall_mem_cons]
    exact ⟨by decide, by decide, by decide, nofun⟩
  have hinner : ∀ c ∈ s.signText ++ s.body, isNumberSpace c = false :=
    List.forall_mem_append.mpr
      ⟨fun c hc => hmarks c (hsigns c hc), fun c hc => (s.of_mem_body hc).1⟩
  rw [plainNumeral_eq, text, dropTrailing_dropWhile_around s.isNumberSpace_before
    s.isNumberSpace_after (fun c hc => hinner c (List.mem_of_mem_head? hc))
    (fun c hc => hinner c (List.mem_of_mem_getLast? hc)), List.map_append,
    (map_asciiNumeral_eq_iff hsigns).mpr rfl]

theorem splitSign_text :
    splitSign (plainNumeral s.text) = (decide (s.signText = ['-']), s.body.map asciiNumeral) := by
  rw [s.plainNumeral_text]
  refine splitSign_append s.signText_mem fun c hc hsign => ?_
  obtain ⟨c, hmem, rfl⟩ := List.mem_map.mp (List.mem_of_mem_head? hc)
  have hmark : c = asciiNumeral c :=
    (asciiNumeral_eq_iff (List.mem_cons_of_mem '_' hsign)).mp rfl
  exact (s.of_mem_body hmem).2 (hmark.symm ▸ hsign)

end WholeSpelling

/-! ## §6. Reading. -/

/-- Without digits behind the sign there is no number. -/
theorem readWhole_of_none {raw body : List Char} {negative : Bool}
    (hsign : splitSign (plainNumeral raw) = (negative, body))
    (hjoined : joinDigits (body.takeWhile isWholePart) = none) :
    readWhole raw = .error .notWhole := by
  change joinDigits (body.takeWhile fun c => c.isDigit || c == '_') = none at hjoined
  simp only [readWhole, hsign, hjoined]

/-- The digits behind the sign are a number, unless they are too many or something stands
behind them. -/
theorem readWhole_of_some {raw body digits : List Char} {negative : Bool}
    (hsign : splitSign (plainNumeral raw) = (negative, body))
    (hjoined : joinDigits (body.takeWhile isWholePart) = some digits) :
    readWhole raw =
      if digitLimit < digits.length then .error (.tooManyDigits digits.length)
      else if (body.dropWhile isWholePart).isEmpty then
        .ok (if negative then -(numberOf digits : Int) else numberOf digits)
      else .error .notWhole := by
  change joinDigits (body.takeWhile fun c => c.isDigit || c == '_') = some digits at hjoined
  simp only [readWhole, hsign, hjoined]
  rfl

/-- **What is read of a spelling**: its number, unless it has too many digits. -/
theorem readWhole_text (s : WholeSpelling) :
    readWhole s.text = if digitLimit < s.digits.length then .error (.tooManyDigits s.digits.length)
      else .ok s.value := by
  have htaken : (s.body.map asciiNumeral).takeWhile isWholePart = s.body.map asciiNumeral :=
    List.takeWhile_eq_self_iff.mpr s.isWholePart_body
  have hleft : (s.body.map asciiNumeral).dropWhile isWholePart = [] :=
    List.dropWhile_eq_nil_iff.mpr s.isWholePart_body
  rw [readWhole_of_some s.splitSign_text (by rw [htaken, s.joinDigits_body]), hleft,
    List.length_map, numberOf_map_digits s.lt_of_mem_digits, WholeSpelling.value]
  simp

/-- What is read has digits with underscores to its end behind its sign. -/
theorem of_readWhole_eq_ok {raw : List Char} {n : Int} (h : readWhole raw = .ok n) :
    (∀ c ∈ (splitSign (plainNumeral raw)).2, isWholePart c = true)
      ∧ Grouped (splitSign (plainNumeral raw)).2 := by
  rcases hsign : splitSign (plainNumeral raw) with ⟨negative, body⟩
  cases hjoined : joinDigits (body.takeWhile isWholePart) with
  | none =>
      rw [readWhole_of_none hsign hjoined] at h
      cases h
  | some digits =>
      rw [readWhole_of_some hsign hjoined] at h
      have hend : (body.dropWhile isWholePart).isEmpty = true := by
        by_contra hend
        rw [if_neg hend] at h
        split at h <;> cases h
      have hparts : ∀ c ∈ body, isWholePart c = true :=
        List.dropWhile_eq_nil_iff.mp (List.isEmpty_iff.mp hend)
      rw [List.takeWhile_eq_self_iff.mpr hparts] at hjoined
      exact ⟨hparts, ((joinDigits_eq_some_iff hparts).mp hjoined).1⟩

/-- What is read is a spelling. -/
theorem exists_spelling {raw : List Char} {n : Int} (h : readWhole raw = .ok n) :
    ∃ s : WholeSpelling, s.text = raw := by
  obtain ⟨hparts, hgrouped⟩ := of_readWhole_eq_ok h
  -- the space around the number, then its sign
  obtain ⟨after, hraw, hafter⟩ :=
    exists_dropTrailing_append isNumberSpace (raw.dropWhile isNumberSpace)
  have hplain := plainNumeral_eq raw
  generalize dropTrailing isNumberSpace (raw.dropWhile isNumberSpace) = inner at hraw hplain
  obtain ⟨signText, hsign, hsplit⟩ := exists_splitSign (plainNumeral raw)
  rw [hplain] at hsplit hparts hgrouped
  obtain ⟨signText', body, rfl, hsame, hbody⟩ := List.map_eq_append_iff.mp hsplit
  obtain rfl := (map_asciiNumeral_eq_iff (of_mem_signs hsign)).mp hsame
  rw [← hbody] at hparts hgrouped
  have hdigits : ∀ c ∈ body, c ≠ '_' → (decimalDigit? c).isSome = true := by
    intro c hc hunderscore
    have hne : asciiNumeral c ≠ '_' := fun h => hunderscore ((asciiNumeral_eq_iff (by decide)).mp h)
    have hdigit := isDigit_of_isWholePart (hparts _ (List.mem_map_of_mem hc)) hne
    exact Option.isSome_iff_exists.mpr (exists_decimalDigit? hdigit)
  refine ⟨⟨raw.takeWhile isNumberSpace, signText', body, after,
    fun c hc => List.mem_takeWhile_imp hc, hafter, hsign, hdigits,
    (grouped_map_asciiNumeral body).mp hgrouped⟩, ?_⟩
  show raw.takeWhile isNumberSpace ++ (signText' ++ body) ++ after = raw
  rw [List.append_assoc, ← hraw, List.takeWhile_append_dropWhile]

/-- **A number is read exactly from its spellings that are not too long.** -/
theorem readWhole_eq_ok_iff {raw : List Char} {n : Int} :
    readWhole raw = .ok n
      ↔ ∃ s : WholeSpelling, s.text = raw ∧ s.value = n ∧ s.digits.length ≤ digitLimit := by
  constructor
  · intro h
    obtain ⟨s, rfl⟩ := exists_spelling h
    rw [readWhole_text] at h
    split at h
    · cases h
    · exact ⟨s, rfl, Except.ok.inj h, by omega⟩
  · rintro ⟨s, rfl, rfl, hlength⟩
    rw [readWhole_text, if_neg (by omega)]

/-- A text spells one number only, unless it is too long. -/
theorem spelling_value_eq {s s' : WholeSpelling} (h : s.text = s'.text)
    (hlimit : s.digits.length ≤ digitLimit) : s.value = s'.value := by
  have hread := readWhole_text s'
  rw [← h, readWhole_text, if_neg (by omega)] at hread
  split at hread
  · cases hread
  · exact Except.ok.inj hread

/-! ## §7. Canonical spellings. -/

/-- The one canonical spelling of a number: zero, or a minus sign at most and digits of ASCII
that begin with another one. -/
def Canonical (text : List Char) : Prop :=
  text = ['0'] ∨ ∃ negative digits, text = sign negative ++ digits ∧ digits ≠ []
    ∧ (∀ c ∈ digits, c.isDigit = true) ∧ digits.head? ≠ some '0'

theorem head?_digitsOf_ne_zero {n : Nat} (h : n ≠ 0) : (digitsOf n).head? ≠ some '0' := by
  induction n using Nat.strongRecOn with
  | ind n ih =>
      unfold digitsOf at ih ⊢
      by_cases hn : n < 10
      · have hall : ∀ n < 10, n ≠ 0 → [n.digitChar].head? ≠ some '0' := by decide
        rw [Nat.toDigits_of_lt_base hn]
        exact hall n hn h
      · -- the digits begin with those of a tenth
        rw [Nat.toDigits_of_base_le (by decide) (by omega),
          List.head?_append_of_ne_nil _ Nat.toDigits_ne_nil]
        exact ih (n / 10) (by omega) (by omega)

/-- **A number is written in its canonical spelling.** -/
theorem canonical_toString (n : Int) : Canonical (toString n).toList := by
  rw [toList_toString]
  by_cases hn : n = 0
  · subst hn
    exact .inl (by decide)
  · exact .inr ⟨_, _, rfl, digitsOf_ne_nil _, fun c hc => isDigit_of_mem_digitsOf hc,
      head?_digitsOf_ne_zero (Int.natAbs_ne_zero.mpr hn)⟩

/-- What is written of a number, as a spelling of it. -/
def WholeSpelling.ofInt (n : Int) : WholeSpelling where
  before := []
  signText := sign (decide (n < 0))
  body := digitsOf n.natAbs
  after := []
  isNumberSpace_before := by simp
  isNumberSpace_after := by simp
  signText_mem := by cases decide (n < 0) <;> decide
  isDigit_body := fun c hc _ =>
    Option.isSome_iff_exists.mpr (decimalDigit?_of_isDigit (isDigit_of_mem_digitsOf hc))
  grouped := by
    have hbody : ∀ c ∈ digitsOf n.natAbs, (c == '_') = false := fun c hc => by
      simpa using ne_underscore_of_isDigit (isDigit_of_mem_digitsOf hc)
    unfold Grouped
    rw [List.splitOn_eq_splitOnP, List.splitOnP_eq_singleton hbody]
    simpa using digitsOf_ne_nil n.natAbs

theorem WholeSpelling.text_ofInt (n : Int) : (ofInt n).text = (toString n).toList := by
  rw [toList_toString]
  exact List.append_nil _

theorem WholeSpelling.map_digits_ofInt (n : Int) :
    ((ofInt n).digits.map fun d => Char.ofNat (48 + d)) = digitsOf n.natAbs := by
  have hascii : ∀ c ∈ digitsOf n.natAbs, asciiNumeral c = c := by
    intro c hc
    have hrange : 48 ≤ c.toNat ∧ c.toNat ≤ 57 := by
      simpa [Char.isDigit, UInt32.le_iff_toNat_le] using isDigit_of_mem_digitsOf hc
    exact if_pos (by omega)
  have hkept : ∀ c ∈ digitsOf n.natAbs, (c != '_') = true := fun c hc => by
    simpa using ne_underscore_of_isDigit (isDigit_of_mem_digitsOf hc)
  rw [← filter_map_body]
  show ((digitsOf n.natAbs).map asciiNumeral).filter (· != '_') = digitsOf n.natAbs
  rw [List.map_congr_left hascii, List.map_id'', List.filter_eq_self.mpr hkept]
  exact fun c => rfl

theorem WholeSpelling.value_ofInt (n : Int) : (ofInt n).value = n := by
  have hvalue : decimalValue (ofInt n).digits = n.natAbs := by
    rw [← numberOf_map_digits (ofInt n).lt_of_mem_digits, map_digits_ofInt, numberOf_digitsOf]
  unfold value
  rw [hvalue]
  show (if sign (decide (n < 0)) = ['-'] then _ else _) = n
  by_cases h : n < 0
  · rw [decide_eq_true h, if_pos (by decide)]
    omega
  · rw [decide_eq_false h, if_neg (by decide)]
    omega

/-- **A number that is written reads back**, if it has not too many digits. -/
theorem readWhole_toString {n : Int} (h : (digitsOf n.natAbs).length ≤ digitLimit) :
    readWhole (toString n).toList = .ok n := by
  have hlength : (WholeSpelling.ofInt n).digits.length ≤ digitLimit := by
    rwa [← WholeSpelling.map_digits_ofInt, List.length_map] at h
  exact readWhole_eq_ok_iff.mpr
    ⟨.ofInt n, WholeSpelling.text_ofInt n, WholeSpelling.value_ofInt n, hlength⟩

end SqlStatements.Decimal
