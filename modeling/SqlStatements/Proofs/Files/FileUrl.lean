/-
  SqlStatements.Proofs.Files.FileUrl
  ──────────────────────────────────
  **The URL of a path names the path.**

  A path in normal form is read back from its text.  An encoding holds unreserved
  characters and escapes only, so nothing in it ends the host or the path of a URL, and it
  is one run of ASCII characters; its escapes give back the bytes of the text, and these the
  text.

  Main results:

    • `ofText_text`, `normal_ofText` — paths in normal form and their texts,
    • `percentDecode_percentEncode`  — a text and its percent encoding,
    • `pathOfUrl_urlOfPath`          — a path and its URL, with the host left out or not.
-/
import SqlStatements.Files.Source
import SqlStatements.Proofs.Files.Url
import SqlStatements.Proofs.Text.Hex

namespace SqlStatements.Files

open Text

/-! ## §1. Paths in normal form. -/

namespace Path

/-- Whether a path is in normal form: every part of it says something, and none holds a
slash. -/
def Normal (path : Path) : Prop :=
  ∀ part ∈ path.parts, part ≠ "" ∧ part ≠ "." ∧ '/' ∉ part.toList

instance (path : Path) : Decidable path.Normal :=
  inferInstanceAs (Decidable (∀ part ∈ path.parts, part ≠ "" ∧ part ≠ "." ∧ '/' ∉ part.toList))

/-- The slashes in front of a text that does not begin with one are its anchor. -/
theorem anchorOf_append (anchor : Anchor) {rest : List Char} (h : rest.head? ≠ some '/') :
    anchorOf (anchor.text.toList ++ rest) = anchor := by
  cases rest with
  | nil => cases anchor <;> rfl
  | cons c rest =>
      have hc : c ≠ '/' := fun hc => h (congrArg some hc)
      cases anchor <;> simp [anchorOf, Anchor.text, hc]

theorem isPart_toList {part : String} (hempty : part ≠ "") (hpoint : part ≠ ".") :
    isPart part.toList = true := by
  have hne : part.toList ≠ [] := fun h => hempty (String.toList_injective h)
  have hne' : part.toList ≠ ['.'] := fun h => hpoint (String.toList_injective h)
  simp [isPart, hne, hne']

/-- The parts of a path in normal form are what its text is cut into. -/
theorem Normal.filter_splitOn {path : Path} (h : path.Normal) :
    ((List.intercalate ['/'] (path.parts.map String.toList)).splitOn '/').filter isPart
      = path.parts.map String.toList := by
  have hslash : ∀ part ∈ path.parts.map String.toList, '/' ∉ part := by
    intro piece hpiece
    obtain ⟨part, hpart, rfl⟩ := List.mem_map.mp hpiece
    exact (h part hpart).2.2
  have hsays : ∀ part ∈ path.parts.map String.toList, isPart part = true := by
    intro piece hpiece
    obtain ⟨part, hpart, rfl⟩ := List.mem_map.mp hpiece
    exact isPart_toList (h part hpart).1 (h part hpart).2.1
  by_cases hparts : path.parts.map String.toList = []
  · rw [hparts]
    rfl
  · rw [List.splitOn_intercalate '/' hslash hparts]
    exact List.filter_eq_self.mpr hsays

/-- The slashes in front of a text cut off nothing that says anything. -/
theorem filter_splitOn_anchor (anchor : Anchor) (rest : List Char) :
    ((anchor.text.toList ++ rest).splitOn '/').filter isPart
      = (rest.splitOn '/').filter isPart := by
  have hslash : ∀ l : List Char, (('/' :: l).splitOn '/').filter isPart
      = (l.splitOn '/').filter isPart := by
    intro l
    rw [List.splitOn_eq_splitOnP, List.splitOn_eq_splitOnP, List.splitOnP_cons_eq_if_modifyHead]
    rfl
  cases anchor with
  | relative => rfl
  | root => exact hslash rest
  | doubleRoot => exact (hslash ('/' :: rest)).trans (hslash rest)

theorem Normal.head?_ne {path : Path} (h : path.Normal) :
    (List.intercalate ['/'] (path.parts.map String.toList)).head? ≠ some '/' := by
  intro hhead
  obtain ⟨anchor, parts⟩ := path
  cases parts with
  | nil => simp at hhead
  | cons part parts =>
      obtain ⟨hempty, -, hslash⟩ := h part List.mem_cons_self
      obtain ⟨c, rest, hpart⟩ := List.exists_cons_of_ne_nil
        (show part.toList ≠ [] from fun h => hempty (String.toList_injective h))
      have hc : c = '/' := by
        cases parts <;> simpa [hpart, List.intercalate_cons_cons] using hhead
      exact hslash (by simp [hpart, hc])

/-- The text of a path is its slashes and its parts, unless it says nothing. -/
theorem toList_text {path : Path} (h : path ≠ ⟨.relative, []⟩) :
    path.text.toList
      = path.anchor.text.toList ++ List.intercalate ['/'] (path.parts.map String.toList) := by
  have htext : path.text = path.anchor.text ++ String.intercalate "/" path.parts := by
    obtain ⟨anchor, parts⟩ := path
    unfold text
    split
    · simp_all
    · rfl
  rw [htext, String.toList_append, String.toList_intercalate]
  rfl

/-- **A path in normal form is read back from its text.** -/
theorem ofText_text {path : Path} (h : path.Normal) : ofText path.text = path := by
  by_cases hempty : path = ⟨.relative, []⟩
  · subst hempty
    decide
  · have htext := toList_text hempty
    have hanchor : anchorOf path.text.toList = path.anchor := by
      rw [htext]
      exact anchorOf_append path.anchor h.head?_ne
    have hparts : (path.text.toList.splitOn '/').filter isPart = path.parts.map String.toList := by
      rw [htext, filter_splitOn_anchor, h.filter_splitOn]
    show Path.mk (anchorOf path.text.toList)
      (((path.text.toList.splitOn '/').filter isPart).map String.ofList) = path
    rw [hanchor, hparts, List.map_map]
    congr 1
    exact List.map_id'' (fun part => String.ofList_toList) path.parts

/-- The path that a text denotes is in normal form. -/
theorem normal_ofText (text : String) : (ofText text).Normal := by
  intro part hpart
  obtain ⟨piece, hpiece, rfl⟩ := List.mem_map.mp hpart
  obtain ⟨hmem, hsays⟩ := List.mem_filter.mp hpiece
  rw [List.splitOn_eq_splitOnP] at hmem
  have hslash : '/' ∉ piece := fun h => absurd (not_of_mem_splitOnP hmem '/' h) (by decide)
  refine ⟨?_, ?_, by rwa [String.toList_ofList]⟩
  · intro h
    obtain rfl : piece = [] := String.ofList_injective h
    cases hsays
  · intro h
    obtain rfl : piece = ['.'] := String.ofList_injective h
    cases hsays

end Path

/-! ## §2. Percent encodings. -/

/-- Whether a character is ASCII and stands for itself in the path of a URL: it is neither
left out nor the end of the path. -/
def standsInPath (c : Char) : Bool :=
  isAscii c && c != '\t' && c != '\r' && c != '\n' && c != '?' && c != '#'

/-- A byte is written in characters that stand for themselves. -/
theorem standsInPath_percentByte (b : UInt8) : ∀ c ∈ percentByte b, standsInPath c = true := by
  have hall : ∀ n : Fin 256, (percentByte (UInt8.ofNat n.val)).all standsInPath = true := by
    decide +kernel
  have hb := hall ⟨b.toNat, b.toNat_lt⟩
  rw [UInt8.ofNat_toNat] at hb
  exact List.all_eq_true.mp hb

theorem standsInPath_percentEncode (text : List Char) :
    ∀ c ∈ percentEncode text, standsInPath c = true := by
  intro c hc
  obtain ⟨b, -, hb⟩ := List.mem_flatMap.mp hc
  exact standsInPath_percentByte b c hb

theorem unescape_cons {c : Char} (h : c ≠ '%') (rest : List Char) :
    unescape (c :: rest) = UInt8.ofNat c.toNat :: unescape rest := by
  rw [unescape]
  rintro a b more rfl
  exact absurd rfl h

/-- A byte is read back from what is written of it, whatever stands behind. -/
theorem unescape_percentByte (b : UInt8) (rest : List Char) :
    unescape (percentByte b ++ rest) = b :: unescape rest := by
  have hb : b.toNat < 256 := b.toNat_lt
  unfold percentByte
  split
  · rename_i hunreserved
    have hcode : (Char.ofNat b.toNat).toNat = b.toNat := by
      rw [Char.ofNat, dif_pos (show b.toNat.isValidChar from .inl (by omega))]
      rfl
    have hpercent : Char.ofNat b.toNat ≠ '%' := by
      intro h
      have hbyte : b = 37 := UInt8.toNat_inj.mp (hcode.symm.trans (congrArg Char.toNat h))
      rw [hbyte] at hunreserved
      exact absurd hunreserved (by decide)
    rw [List.singleton_append, unescape_cons hpercent, hcode, UInt8.ofNat_toNat]
  · have hhigh : Hex.value? (Hex.upperDigit (b.toNat / 16)) = some (b.toNat / 16) :=
      Hex.value?_upperDigit (by omega)
    have hlow : Hex.value? (Hex.upperDigit (b.toNat % 16)) = some (b.toNat % 16) :=
      Hex.value?_upperDigit (by omega)
    show unescape
      ('%' :: Hex.upperDigit (b.toNat / 16) :: Hex.upperDigit (b.toNat % 16) :: rest) = _
    rw [unescape]
    simp only [hhigh, hlow]
    rw [Nat.div_add_mod, UInt8.ofNat_toNat]

theorem unescape_percentBytes (bytes : List UInt8) :
    unescape (bytes.flatMap percentByte) = bytes := by
  induction bytes with
  | nil => rw [List.flatMap_nil, unescape]
  | cons b bytes ih => rw [List.flatMap_cons, unescape_percentByte, ih]

/-- A text of ASCII characters is one run. -/
theorem percentDecode_of_isAscii {text : List Char} (h : ∀ c ∈ text, isAscii c = true) :
    percentDecode text = decodeRun text := by
  cases text with
  | nil => rw [decodeRun, unescape]; rfl
  | cons c rest =>
      have hrest : ∀ d ∈ rest, (isAscii d == isAscii c) = true := fun d hd => by
        rw [h c List.mem_cons_self, h d (List.mem_cons_of_mem c hd)]
        rfl
      rw [percentDecode_cons, if_pos (h c List.mem_cons_self),
        List.takeWhile_eq_self_iff.mpr hrest, List.dropWhile_eq_nil_iff.mpr hrest]
      exact List.append_nil _

/-- **A text is read back from its percent encoding.** -/
theorem percentDecode_percentEncode (text : List Char) :
    percentDecode (percentEncode text) = text := by
  have hascii : ∀ c ∈ percentEncode text, isAscii c = true := fun c hc => by
    have := standsInPath_percentEncode text c hc
    simp only [standsInPath, Bool.and_eq_true] at this
    exact this.1.1.1.1.1
  rw [percentDecode_of_isAscii hascii, decodeRun]
  show Encoding.lenient (Encoding.pieces Encoding.utf8
    (unescape ((text.flatMap String.utf8EncodeChar).flatMap percentByte))) = text
  rw [unescape_percentBytes, Encoding.lenient_utf8_encoded]

/-- The encoding of a text that begins with a slash begins with it. -/
theorem percentEncode_slash (rest : List Char) :
    percentEncode ('/' :: rest) = '/' :: percentEncode rest := rfl

/-! ## §3. URLs of files. -/

variable {rules : UrlRules}

/-- The hosts that say that a file is here. -/
def localHosts : List String := ["", "localhost"]

/-- The parts of a URL of a file: its path begins behind the host. -/
theorem urlParts_file {host : String} (hhost : host ∈ localHosts) {rest : List Char}
    (h : ∀ c ∈ rest, standsInPath c = true) :
    urlParts rules ("file://" ++ host ++ String.ofList ('/' :: rest)).toList
      = ⟨"file", host.toList, '/' :: rest⟩ := by
  have hmarks : ∀ c ∈ rest, (c != '\t' && c != '\r' && c != '\n') = true
      ∧ (c != '?' && c != '#') = true := fun c hc => by
    have := h c hc
    simp only [standsInPath, Bool.and_eq_true] at this ⊢
    exact ⟨⟨⟨this.1.1.1.1.2, this.1.1.1.2⟩, this.1.1.2⟩, this.1.2, this.2⟩
  have hplain : rest.filter (fun c => c != '\t' && c != '\r' && c != '\n') = rest :=
    List.filter_eq_self.mpr fun c hc => (hmarks c hc).1
  have hpath : rest.takeWhile (fun c => c != '?' && c != '#') = rest :=
    List.takeWhile_eq_self_iff.mpr fun c hc => (hmarks c hc).2
  have hurl : ("file://" ++ host ++ String.ofList ('/' :: rest)).toList
      = 'f' :: ("ile://".toList ++ host.toList ++ '/' :: rest) := by
    simp only [String.toList_append, String.toList_ofList]
    rfl
  rw [hurl, urlParts_cons (by decide)]
  obtain rfl | rfl : host = "" ∨ host = "localhost" := by simpa [localHosts] using hhost
  · show UrlParts.mk "file" []
      ('/' :: (rest.filter fun c => c != '\t' && c != '\r' && c != '\n').takeWhile
        fun c => c != '?' && c != '#') = _
    rw [hplain, hpath]
    rfl
  · show UrlParts.mk "file" "localhost".toList
      ('/' :: (rest.filter fun c => c != '\t' && c != '\r' && c != '\n').takeWhile
        fun c => c != '?' && c != '#') = _
    rw [hplain, hpath]

/-- A URL of a file names the path whose encoding stands behind its host. -/
theorem pathOfUrl_file {host : String} (hhost : host ∈ localHosts) (rest : List Char) :
    pathOfUrl ("file://" ++ host ++ String.ofList (percentEncode ('/' :: rest))) rules
      = .ok (Path.ofText (String.ofList ('/' :: rest))) := by
  have hparts := @urlParts_file rules host hhost _ (standsInPath_percentEncode rest)
  rw [← percentEncode_slash] at hparts
  have hproper : ∀ host ∈ localHosts, ProperHost rules host.toList := by
    intro host hhost
    obtain rfl | rfl : host = "" ∨ host = "localhost" := by simpa [localHosts] using hhost
    · exact hostFault?_eq_none_iff.mp rfl
    · exact hostFault?_eq_none_iff.mp rfl
  have hlocal : ∀ host ∈ localHosts,
      (host.toList = [] || host.toList = "localhost".toList) = true := by decide
  have hok := ofText_eq_ok_iff.mpr ⟨by rw [hparts]; exact hproper host hhost, hparts.symm⟩
  unfold pathOfUrl
  rw [hok]
  show (if (host.toList = [] || host.toList = "localhost".toList) = true then
      Except.ok (Path.ofText (String.ofList (percentDecode (percentEncode ('/' :: rest)))))
    else _) = _
  rw [if_pos (hlocal host hhost), percentDecode_percentEncode]

/-- **The URL of a path that begins at the root names the path**, with the host left out or
not, whichever rules it is read by; so a script loaded by the URL is the script in the file,
or fails like it. -/
theorem pathOfUrl_urlOfPath {path : Path} (hnormal : path.Normal)
    (hroot : path.anchor ≠ .relative) (rules : UrlRules) :
    Path.ofText path.text = path
      ∧ pathOfUrl (urlOfPath path) rules = .ok path
      ∧ pathOfUrl ("file://localhost" ++ String.ofList (percentEncode path.text.toList)) rules
        = .ok path
      ∧ ∀ disk asked settings codecs,
          scriptOfUrl disk (urlOfPath path) asked settings rules codecs
            = scriptOfFile disk (Path.ofText path.text) asked settings codecs := by
  have hread := Path.ofText_text hnormal
  obtain ⟨rest, hrest⟩ : ∃ rest, path.text.toList = '/' :: rest := by
    rw [Path.toList_text fun h => hroot (congrArg Path.anchor h)]
    cases hanchor : path.anchor with
    | relative => exact absurd hanchor hroot
    | root => exact ⟨_, rfl⟩
    | doubleRoot => exact ⟨_, rfl⟩
  have hnames : ∀ host ∈ localHosts,
      pathOfUrl ("file://" ++ host ++ String.ofList (percentEncode path.text.toList)) rules
        = .ok path := by
    intro host hhost
    rw [hrest, pathOfUrl_file hhost, ← hrest, String.ofList_toList, hread]
  have hurl : pathOfUrl (urlOfPath path) rules = .ok path := hnames "" (by decide)
  refine ⟨hread, hurl, hnames "localhost" (by decide), fun disk asked settings codecs => ?_⟩
  have hsource : sourcePath (urlOfPath path) rules = .ok path := by
    rw [sourcePath, hurl]
  rw [scriptOfUrl, hsource, hread]

/-- A path with two slashes in front, and in its parts a percent sign, marks of URLs, a line
break and a character of two bytes. -/
theorem pathOfUrl_urlOfPath_marks :
    let path : Path := ⟨.doubleRoot, ["a%2F?#;[:]", "..", "é \n"]⟩
    path.Normal ∧ path.anchor ≠ .relative
      ∧ urlOfPath path = "file:////a%252F%3F%23%3B%5B%3A%5D/../%C3%A9%20%0A"
      ∧ pathOfUrl (urlOfPath path) = .ok path := by
  intro path
  have hnormal : path.Normal := by decide
  have hroot : path.anchor ≠ .relative := by decide
  exact ⟨hnormal, hroot, by decide, (pathOfUrl_urlOfPath hnormal hroot .lenient).2.1⟩

end SqlStatements.Files
