/-
  SqlStatements.Proofs.Files.Url
  ──────────────────────────────
  **Which texts are URLs, and which of them hold the character that ends a name.**

  A text is taken apart as a URL unless its host is malformed.  Percent escapes are read
  run by run of ASCII characters, and an escape never reaches beyond its run; so the
  character that ends a name comes out of a path only if it, or its own escape, is in it.

  Main results:

    • `ofText_eq_ok_iff`         — a text is a URL exactly if its host can be one,
    • `nul_mem_percentDecode_iff` — where the character that ends a name comes from.
-/
import Mathlib.Tactic.SplitIfs
import SqlStatements.Files.Url
import SqlStatements.Proofs.Encoding.Utf8
import SqlStatements.Proofs.Text.Cutting
import SqlStatements.Proofs.Text.Hex

namespace SqlStatements.Files

open Text

/-! ## §1. The host. -/

variable {rules : UrlRules}

/-- Whether a host can be one: it has both square brackets or none, what stands between them
is taken for an address, and no character in it stands for a delimiter. -/
structure ProperHost (rules : UrlRules) (host : List Char) : Prop where
  brackets : '[' ∈ host ↔ ']' ∈ host
  address : '[' ∈ host → rules.addressFault host = none
  no_disguise : ∀ c ∈ host, c.toNat ∉ disguisedDelimiters

/-- **A host is refused exactly if it cannot be one.** -/
theorem hostFault?_eq_none_iff {host : List Char} :
    hostFault? rules host = none ↔ ProperHost rules host := by
  have hbrackets : (host.contains '[' != host.contains ']') = true
      ↔ ¬ ('[' ∈ host ↔ ']' ∈ host) := by
    rw [bne_iff_ne, ne_eq, Bool.eq_iff_iff, List.contains_iff_mem, List.contains_iff_mem]
  have hdisguised : (host.any fun c => disguisedDelimiters.contains c.toNat) = true
      ↔ ¬ ∀ c ∈ host, c.toNat ∉ disguisedDelimiters := by
    simp
  have haddress : (if host.contains '[' then rules.addressFault host else none) = none
      ↔ ('[' ∈ host → rules.addressFault host = none) := by
    by_cases h : '[' ∈ host <;> simp [h]
  -- the checks one after the other, each with what it leaves for the next
  unfold hostFault?
  dsimp only
  by_cases hone : '[' ∈ host ↔ ']' ∈ host
  · rw [if_neg fun h => hbrackets.mp h hone]
    cases hfault : (if host.contains '[' then rules.addressFault host else none) with
    | some reason =>
        refine iff_of_false nofun fun h => ?_
        rw [haddress.mpr h.address] at hfault
        cases hfault
    | none =>
        by_cases hplain : ∀ c ∈ host, c.toNat ∉ disguisedDelimiters
        · exact iff_of_true (if_neg fun h => hdisguised.mp h hplain)
            ⟨hone, haddress.mp hfault, hplain⟩
        · refine iff_of_false ?_ fun h => hplain h.no_disguise
          rw [if_pos (hdisguised.mpr hplain)]
          nofun
  · rw [if_pos (hbrackets.mpr hone)]
    exact iff_of_false nofun fun h => hone h.brackets

instance (host : List Char) : Decidable (ProperHost rules host) :=
  decidable_of_iff ((hostFault? rules host).isNone = true)
    (Option.isNone_iff_eq_none.trans hostFault?_eq_none_iff)

/-- **A text is a URL exactly if its host can be one.** -/
theorem ofText_eq_ok_iff {url : List Char} {parts : UrlParts} :
    UrlParts.ofText rules url = .ok parts
      ↔ ProperHost rules (urlParts rules url).host ∧ parts = urlParts rules url := by
  rw [UrlParts.ofText, ← hostFault?_eq_none_iff]
  cases hostFault? rules (urlParts rules url).host with
  | some fault => exact iff_of_false nofun nofun
  | none => exact ⟨fun h => ⟨rfl, (Except.ok.inj h).symm⟩, fun h => congrArg Except.ok h.2.symm⟩

theorem exists_ofText_eq_error {url : List Char}
    (h : ¬ ProperHost rules (urlParts rules url).host) :
    ∃ fault, UrlParts.ofText rules url = .error fault := by
  cases hparts : UrlParts.ofText rules url with
  | error fault => exact ⟨fault, rfl⟩
  | ok parts => exact absurd (ofText_eq_ok_iff.mp hparts).1 h

/-- Behind a character that is no blank, every reader finds the same parts. -/
theorem urlParts_cons {c : Char} (h : 32 < c.toNat) (rest : List Char) :
    urlParts rules (c :: rest) = urlParts .lenient (c :: rest) := by
  have hstays : ¬ rules.isLeading c = true := fun hc => absurd (rules.isLeading_le c hc) (by omega)
  have hplain : (c :: rest).dropWhile rules.isLeading
      = (c :: rest).dropWhile UrlRules.lenient.isLeading := by
    rw [List.dropWhile_cons_of_neg hstays, List.dropWhile_cons_of_neg (by simp [UrlRules.lenient])]
  rw [urlParts, hplain, urlParts]

/-! ## §2. Runs. -/

/-- A text is cut behind the characters that are of the kind of its first one. -/
theorem asciiRuns_cons (c : Char) (rest : List Char) :
    asciiRuns (c :: rest) = (c :: rest.takeWhile fun d => isAscii d == isAscii c)
      :: asciiRuns (rest.dropWhile fun d => isAscii d == isAscii c) := by
  induction rest generalizing c with
  | nil => rfl
  | cons d rest ih =>
      rw [asciiRuns, ih d]
      by_cases h : isAscii c = isAscii d
      · simp [h]
      · simp [h, Ne.symm h, ih d]

/-- Escapes are read run by run. -/
theorem percentDecode_cons (c : Char) (rest : List Char) :
    percentDecode (c :: rest) =
      (if isAscii c then decodeRun (c :: rest.takeWhile fun d => isAscii d == isAscii c)
        else c :: rest.takeWhile fun d => isAscii d == isAscii c)
        ++ percentDecode (rest.dropWhile fun d => isAscii d == isAscii c) := by
  have hkind : ∀ d ∈ rest.takeWhile fun d => isAscii d == isAscii c, isAscii d = isAscii c :=
    fun d hd => by simpa using List.mem_takeWhile_imp hd
  rw [percentDecode, asciiRuns_cons, List.flatMap_cons]
  congr 1
  by_cases hc : isAscii c = true
  · have hall : (c :: rest.takeWhile fun d => isAscii d == isAscii c).all isAscii = true := by
      rw [List.all_eq_true]
      exact List.forall_mem_cons.mpr ⟨hc, fun d hd => (hkind d hd).trans hc⟩
    rw [if_pos hall, if_pos hc]
  · have hall : ¬ (c :: rest.takeWhile fun d => isAscii d == isAscii c).all isAscii = true := by
      rw [List.all_cons, Bool.eq_false_iff.mpr hc]
      simp
    rw [if_neg hall, if_neg hc]

/-! ## §3. The character that ends a name. -/

/-- The escape of the character that ends a name. -/
def nulEscape : List Char := ['%', '0', '0']

/-- Whether a text with escapes holds the character that ends a name. -/
def HoldsNul (text : List Char) : Prop :=
  '\x00' ∈ text ∨ nulEscape <:+: text

theorem value?_eq_zero_iff {c : Char} : Hex.value? c = some 0 ↔ c = '0' := by
  constructor
  · intro h
    unfold Hex.value? at h
    have hcode : c.toNat = 48 := by
      simp only [Bool.and_eq_true, decide_eq_true_eq] at h
      split_ifs at h <;> simp only [Option.some.injEq] at h <;> omega
    exact Char.toNat_inj.mp hcode
  · rintro rfl
    rfl

theorem holdsNul_cons {c : Char} {rest : List Char} :
    HoldsNul (c :: rest) ↔ c = '\x00' ∨ nulEscape <+: c :: rest ∨ HoldsNul rest := by
  rw [HoldsNul, HoldsNul, List.mem_cons, List.infix_cons_iff, eq_comm]
  exact or_or_or_comm.trans or_assoc

/-- A hexadecimal digit neither is that character nor begins its escape. -/
theorem holdsNul_cons_digit {c : Char} {rest : List Char} {n : Nat} (h : Hex.value? c = some n) :
    HoldsNul (c :: rest) ↔ HoldsNul rest := by
  have hnul : c ≠ '\x00' := by
    rintro rfl
    cases h
  have hbegins : ¬ nulEscape <+: c :: rest := by
    intro hbegins
    obtain rfl := (List.cons_prefix_cons.mp hbegins).1
    cases h
  rw [holdsNul_cons, or_iff_right hnul, or_iff_right hbegins]

theorem nulEscape_isPrefix_iff {text : List Char} :
    nulEscape <+: text ↔ ∃ rest, text = '%' :: '0' :: '0' :: rest :=
  ⟨fun ⟨rest, h⟩ => ⟨rest, h.symm⟩, fun ⟨rest, h⟩ => ⟨rest, h.symm⟩⟩

/-- Bytes with a zero come of that character or its escape. -/
theorem zero_mem_unescape_iff {text : List Char} (hascii : ∀ c ∈ text, isAscii c = true) :
    0 ∈ unescape text ↔ HoldsNul text := by
  induction text using unescape.induct with
  | case1 a b rest high low hb ha ih =>
      have hzero : 0 = UInt8.ofNat (16 * high + low) ↔ nulEscape <+: '%' :: a :: b :: rest := by
        have hhigh := (Hex.value?_eq_some_iff.mp ha).1
        have hlow := (Hex.value?_eq_some_iff.mp hb).1
        rw [← UInt8.toNat_inj, UInt8.toNat_ofNat', nulEscape_isPrefix_iff]
        constructor
        · intro h
          have hcode : high = 0 ∧ low = 0 := by
            simp only [UInt8.toNat_zero] at h
            omega
          obtain ⟨rfl, rfl⟩ := hcode
          exact ⟨rest, by rw [value?_eq_zero_iff.mp ha, value?_eq_zero_iff.mp hb]⟩
        · rintro ⟨rest', h⟩
          obtain ⟨rfl, rfl, rfl⟩ : a = '0' ∧ b = '0' ∧ rest = rest' := by simpa using h
          cases ha
          cases hb
          rfl
      have hrest := ih fun c hc => hascii c (by simp [hc])
      rw [unescape]
      simp only [ha, hb]
      rw [List.mem_cons, hzero, hrest, holdsNul_cons (c := '%'), holdsNul_cons_digit ha,
        holdsNul_cons_digit hb, or_iff_right (show '%' ≠ '\x00' by decide)]
  | case2 a b rest hnone ih =>
      have hbegins : ¬ nulEscape <+: '%' :: a :: b :: rest := by
        rw [nulEscape_isPrefix_iff]
        rintro ⟨rest', h⟩
        obtain ⟨rfl, rfl, -⟩ : a = '0' ∧ b = '0' ∧ rest = rest' := by simpa using h
        exact hnone 0 0 rfl rfl
      have hrest := ih fun c hc => hascii c (List.mem_cons_of_mem _ hc)
      have hunescape : unescape ('%' :: a :: b :: rest) = 37 :: unescape (a :: b :: rest) := by
        rw [unescape]
        split
        · rename_i high low ha hb
          exact (hnone high low ha hb).elim
        · rfl
      rw [hunescape, List.mem_cons, or_iff_right (by decide), hrest, holdsNul_cons (c := '%'),
        or_iff_right (show '%' ≠ '\x00' by decide), or_iff_right hbegins]
  | case3 c rest hc ih =>
      have hbegins : ¬ nulEscape <+: c :: rest := by
        rw [nulEscape_isPrefix_iff]
        rintro ⟨rest', h⟩
        obtain ⟨rfl, rfl⟩ := List.cons.inj h
        exact hc _ _ _ rfl rfl
      have hzero : 0 = UInt8.ofNat c.toNat ↔ c = '\x00' := by
        have hcode : c.toNat < 128 := by simpa [isAscii] using hascii c List.mem_cons_self
        rw [← UInt8.toNat_inj, UInt8.toNat_ofNat', ← Char.toNat_inj]
        show 0 = _ ↔ c.toNat = 0
        omega
      have hrest := ih fun d hd => hascii d (List.mem_cons_of_mem c hd)
      rw [unescape]
      · rw [List.mem_cons, hzero, hrest, holdsNul_cons, or_iff_right hbegins]
      · exact hc
  | case4 => simp [unescape, HoldsNul, nulEscape]

theorem nul_mem_decodeRun_iff {run : List Char} (hascii : ∀ c ∈ run, isAscii c = true) :
    '\x00' ∈ decodeRun run ↔ HoldsNul run :=
  (Encoding.mem_lenient_utf8_iff (by decide) (unescape run)).trans (zero_mem_unescape_iff hascii)

/-- A text holds the character in the run that it begins with or behind it. -/
theorem holdsNul_append {run later : List Char} {kind : Bool}
    (hrun : ∀ c ∈ run, isAscii c = kind) (hlater : ∀ c ∈ later.head?, isAscii c ≠ kind) :
    HoldsNul (run ++ later) ↔ HoldsNul run ∨ HoldsNul later := by
  have hescape : nulEscape <:+: run ++ later ↔ nulEscape <:+: run ∨ nulEscape <:+: later := by
    refine ⟨fun h => ?_, fun h => h.elim
      (fun h => h.trans (List.prefix_append run later).isInfix)
      (fun h => h.trans (List.suffix_append run later).isInfix)⟩
    cases kind with
    | false =>
        -- the escape is ASCII, so none of it stands in the run
        have hpercent : '%' ∉ run := fun hmem => absurd (hrun '%' hmem) (by decide)
        exact .inr (infix_of_infix_append_left hpercent h)
    | true =>
        cases later with
        | nil => exact .inl (by simpa using h)
        | cons d later =>
            -- what stands behind the run is not ASCII, so the escape does not reach it
            have hd : d ∉ nulEscape := by
              intro hmem
              refine hlater d rfl ?_
              have hall : nulEscape.all isAscii = true := by decide
              exact List.all_eq_true.mp hall d hmem
            rcases infix_of_infix_append_cons hd h with hstands | hstands
            · exact .inl hstands
            · exact .inr (hstands.trans (List.suffix_cons d later).isInfix)
  rw [HoldsNul, HoldsNul, HoldsNul, List.mem_append, hescape]
  exact or_or_or_comm

/-- **The character that ends a name comes only from itself and from its escape.** -/
theorem nul_mem_percentDecode_iff (text : List Char) :
    '\x00' ∈ percentDecode text ↔ HoldsNul text := by
  -- the induction is run by run, and every run is at least one character
  induction hsize : text.length using Nat.strongRecOn generalizing text with
  | ind size ih =>
      subst hsize
      cases text with
      | nil => simp [percentDecode, asciiRuns, HoldsNul, nulEscape]
      | cons c rest =>
          have htext : (c :: rest.takeWhile fun d => isAscii d == isAscii c)
              ++ (rest.dropWhile fun d => isAscii d == isAscii c) = c :: rest :=
            congrArg (c :: ·) List.takeWhile_append_dropWhile
          have hrun : ∀ d ∈ c :: rest.takeWhile fun d => isAscii d == isAscii c,
              isAscii d = isAscii c :=
            List.forall_mem_cons.mpr
              ⟨rfl, fun d hd => by simpa using List.mem_takeWhile_imp hd⟩
          have hlater : ∀ d ∈ (rest.dropWhile fun d => isAscii d == isAscii c).head?,
              isAscii d ≠ isAscii c := by
            intro d hd
            have := List.head?_dropWhile_not (fun d => isAscii d == isAscii c) rest
            rw [Option.mem_def.mp hd] at this
            simpa using this
          have hshorter : (rest.dropWhile fun d => isAscii d == isAscii c).length
              < (c :: rest).length :=
            Nat.lt_succ_of_le (List.length_dropWhile_le _ rest)
          have hsplit := holdsNul_append hrun hlater
          rw [htext] at hsplit
          rw [percentDecode_cons, List.mem_append, ih _ hshorter _ rfl, hsplit]
          refine or_congr_left ?_
          split_ifs with hc
          · exact nul_mem_decodeRun_iff fun d hd => (hrun d hd).trans hc
          · have hbeyond : ∀ d ∈ c :: rest.takeWhile fun d => isAscii d == isAscii c,
                isAscii d = false := fun d hd => (hrun d hd).trans (Bool.eq_false_iff.mpr hc)
            refine ⟨.inl, fun h => h.elim id fun hstands => ?_⟩
            exact absurd (hbeyond '%' (hstands.subset (by decide))) (by decide)

/-! ## §4. Paths. -/

theorem hasNul_iff (path : Path) :
    path.hasNul = true ↔ ∃ part ∈ path.parts, '\x00' ∈ part.toList := by
  simp [Path.hasNul]

/-- A path holds the character that ends a name exactly if its text does. -/
theorem hasNul_ofText (text : String) :
    (Path.ofText text).hasNul = true ↔ '\x00' ∈ text.toList := by
  rw [hasNul_iff]
  constructor
  · rintro ⟨part, hpart, hnul⟩
    obtain ⟨piece, hpiece, rfl⟩ := List.mem_map.mp hpart
    have hmem := List.mem_of_mem_filter hpiece
    rw [List.splitOn_eq_splitOnP] at hmem
    rw [String.toList_ofList] at hnul
    exact mem_of_mem_splitOnP hmem hnul
  · intro hnul
    have hflat : '\x00' ∈ (text.toList.splitOnP (· == '/')).flatten := by
      rw [flatten_splitOnP]
      exact List.mem_filter.mpr ⟨hnul, by decide⟩
    obtain ⟨piece, hpiece, hmem⟩ := List.mem_flatten.mp hflat
    have hsays : Path.isPart piece = true := by
      cases piece with
      | nil => cases hmem
      | cons c piece =>
          have hpoint : c :: piece ≠ ['.'] := by
            rintro h
            rw [h] at hmem
            exact absurd hmem (by decide)
          simp [Path.isPart, hpoint]
    refine ⟨String.ofList piece, List.mem_map.mpr ⟨piece, ?_, rfl⟩, by rwa [String.toList_ofList]⟩
    rw [List.splitOn_eq_splitOnP]
    exact List.mem_filter.mpr ⟨hpiece, hsays⟩

/-- Whether what a source says of a path holds the character that ends a name. -/
def NamesNul (rules : UrlRules) (source : String) : Prop :=
  if (urlParts rules source.toList).scheme = "file" then
    HoldsNul (urlParts rules source.toList).path
  else '\x00' ∈ source.toList

/-- **The path of a source holds the character that ends a name exactly if the source names
it.** -/
theorem hasNul_pathOfUrl {url : String} {path : Path} (h : pathOfUrl url rules = .ok path) :
    path.hasNul = true ↔ NamesNul rules url := by
  unfold pathOfUrl at h
  cases hparts : UrlParts.ofText rules url.toList with
  | error fault =>
      rw [hparts] at h
      cases h
  | ok parts =>
      obtain ⟨-, hurl⟩ := ofText_eq_ok_iff.mp hparts
      rw [NamesNul, ← hurl]
      simp only [hparts] at h
      by_cases hfile : parts.scheme = "file"
      · have hscheme : parts.scheme ≠ "" := by
          rw [hfile]
          decide
        rw [if_neg hscheme, if_pos hfile] at h
        rw [if_pos hfile]
        split at h
        · cases h
          rw [hasNul_ofText, String.toList_ofList]
          exact nul_mem_percentDecode_iff parts.path
        · cases h
      · rw [if_neg hfile] at h ⊢
        have hpath : path = Path.ofText url := by
          split_ifs at h <;> cases h <;> rfl
        rw [hpath]
        exact hasNul_ofText url

end SqlStatements.Files
