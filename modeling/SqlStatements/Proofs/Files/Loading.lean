/-
  SqlStatements.Proofs.Files.Loading
  ──────────────────────────────────
  **When loading a script fails with one of the codes, and when it does not.**

  A source that cannot be read is told of by a code.  Four things are refused by other
  means, without a code: a text whose host is malformed, a path that holds the character
  that ends a name, and, once there is a file to be read, an encoding that holds it and one
  that breaks down over the content.  Nothing else is.

  Which hosts are refused is a matter of the rules of the reader of URLs, and which encodings
  there are besides the ones described here is left open.

  Main results:

    • `coded_sourcePath_iff`, `coded_readText_iff` — the path of a source and the text of a
      file,
    • `coded_iff`                                  — every way to load a source.
-/
import SqlStatements.Command
import SqlStatements.Proofs.Files.Url

namespace SqlStatements.Files

open Encoding

/-! ## §1. Codes. -/

/-- The codes of the failures that callers are told of. -/
def sourceCodes : List String :=
  ["file_not_found", "read_failed", "decode_failed", "unsupported_scheme"]

theorem code_mem_sourceCodes (error : SourceError) : error.code ∈ sourceCodes := by
  cases error <;> simp [SourceError.code, sourceCodes]

/-- Whether there is a result, or a failure with one of the codes. -/
def Coded {α : Type} (result : Except LoadError α) : Prop :=
  (∃ value, result = .ok value)
    ∨ ∃ error, result = .error (.source error) ∧ error.code ∈ sourceCodes

theorem coded_ok {α : Type} (value : α) : Coded (.ok value) := .inl ⟨value, rfl⟩

theorem coded_error_iff {α : Type} {error : LoadError} :
    Coded (.error error : Except LoadError α) ↔ ∃ e, error = .source e := by
  constructor
  · rintro (⟨value, hvalue⟩ | ⟨e, he, -⟩)
    · cases hvalue
    · exact ⟨e, Except.error.inj he⟩
  · rintro ⟨e, rfl⟩
    exact .inr ⟨e, rfl, code_mem_sourceCodes e⟩

theorem coded_source {α : Type} (error : SourceError) :
    Coded (.error (.source error) : Except LoadError α) :=
  coded_error_iff.mpr ⟨error, rfl⟩

/-- Whether a failure has a code does not depend on what there would have been without it. -/
theorem coded_error_congr {α β : Type} (error : LoadError) :
    Coded (.error error : Except LoadError α) ↔ Coded (.error error : Except LoadError β) :=
  coded_error_iff.trans coded_error_iff.symm

/-- Every other failure is without a code. -/
theorem not_coded {α : Type} {error : LoadError} (h : ∀ e, error ≠ .source e) :
    ¬ Coded (.error error : Except LoadError α) :=
  fun hcoded => let ⟨e, he⟩ := coded_error_iff.mp hcoded
    h e he

theorem coded_map {α β : Type} (f : α → β) (result : Except LoadError α) :
    Coded (result.map f) ↔ Coded result := by
  cases result with
  | ok value => exact iff_of_true (coded_ok (f value)) (coded_ok value)
  | error error => exact coded_error_congr error

/-! ## §2. The path of a source. -/

/-- **The path of a source is had, or refused with a code, exactly if the host is proper.** -/
theorem coded_sourcePath_iff (rules : UrlRules) (source : String) :
    Coded (sourcePath source rules)
      ↔ ProperHost rules (urlParts rules source.toList).host := by
  by_cases hhost : ProperHost rules (urlParts rules source.toList).host
  · refine iff_of_true ?_ hhost
    have hparts := ofText_eq_ok_iff.mpr ⟨hhost, rfl⟩
    unfold sourcePath pathOfUrl
    rw [hparts]
    dsimp only
    split_ifs
    · exact coded_ok _
    · exact coded_ok _
    · exact coded_source _
    · exact coded_ok _
    · exact coded_source _
  · refine iff_of_false ?_ hhost
    obtain ⟨fault, hfault⟩ := exists_ofText_eq_error hhost
    unfold sourcePath pathOfUrl
    rw [hfault]
    exact not_coded nofun

/-! ## §3. The text of a file. -/

/-- Whether an encoding breaks down over some bytes: it is none of those that are described
here, and fails in a way of its own. -/
structure BreaksDown (codecs : ForeignCodecs) (encoding : String) (content : List UInt8) :
    Prop where
  content_ne_nil : content ≠ []
  codec?_eq_none : Encoding.codec? encoding = none
  no_conversion : byteConversions.any (·.answer encoding) = false
  breaks : ∃ codec message, codecs encoding = some codec ∧ codec content = .broken message

/-- Whether an encoding can be asked for the text of some bytes: it does not hold the
character that ends a name, and does not break down over them. -/
def Usable (codecs : ForeignCodecs) (encoding : String) (content : List UInt8) : Prop :=
  '\x00' ∉ encoding.toList ∧ ¬ BreaksDown codecs encoding content

theorem noForeignCodecs_usable {encoding : String} (h : '\x00' ∉ encoding.toList)
    (content : List UInt8) : Usable noForeignCodecs encoding content :=
  ⟨h, fun ⟨_, _, _, _, _, hfound, _⟩ => nomatch hfound⟩

/-- Decoding breaks down exactly with an encoding that does. -/
theorem decode_breakdown_iff {codecs : ForeignCodecs} {encoding : String}
    {content : List UInt8} :
    (∃ message, decode encoding content codecs = .error (.breakdown message))
      ↔ BreaksDown codecs encoding content := by
  by_cases hcontent : content = []
  · subst hcontent
    exact iff_of_false nofun fun h => h.content_ne_nil rfl
  have hempty : ¬ content.isEmpty = true := by simpa using hcontent
  rw [decode, if_neg hempty]
  cases hcodec : codec? encoding with
  | some codec =>
      refine iff_of_false ?_ fun h => nomatch hcodec.symm.trans h.codec?_eq_none
      rintro ⟨message, hfails⟩
      cases hread : codec.decode content <;> simp [hread, Except.mapError] at hfails
  | none =>
      dsimp only
      split_ifs with hconversion
      · exact iff_of_false nofun fun h => nomatch hconversion.symm.trans h.no_conversion
      · have hforeign : BreaksDown codecs encoding content ↔ ∃ codec message,
            codecs encoding = some codec ∧ codec content = .broken message :=
          ⟨BreaksDown.breaks, fun h => ⟨hcontent, hcodec, by simpa using hconversion, h⟩⟩
        rw [hforeign]
        cases codecs encoding with
        | none => exact iff_of_false nofun nofun
        | some codec =>
            dsimp only
            cases hread : codec content <;> simp [hread, ForeignReading.result]

/-- Following a path part by part never meets a part that no name can be. -/
theorem follow_ne_embeddedNul (above : List Entry) (here : Entry) (parts : List String) :
    follow above here parts ≠ .error .embeddedNul := by
  induction parts generalizing above here with
  | nil => nofun
  | cons part rest ih =>
      unfold follow
      split_ifs
      · nofun
      · split
        · exact ih [] here
        · exact ih _ _
      · nofun
      · split
        · nofun
        · exact ih _ _

theorem readFile_eq_embeddedNul_iff (disk : Disk) (path : Path) :
    disk.readFile path = .error .embeddedNul ↔ path.hasNul = true := by
  by_cases hnul : path.hasNul = true
  · refine iff_of_true ?_ hnul
    simp only [Disk.readFile, Disk.entry, if_pos hnul]
  · refine iff_of_false (fun h => ?_) hnul
    have hentry : disk.entry path ≠ .error .embeddedNul := by
      rw [Disk.entry, if_neg hnul]
      split_ifs
      · nofun
      · exact follow_ne_embeddedNul _ _ _
    unfold Disk.readFile at h
    split at h
    · rename_i fault hfault
      cases h
      exact hentry hfault
    · cases h
    · cases h

theorem readBytes_eq_ok_iff {disk : Disk} {path : Path} {content : List UInt8} :
    readBytes disk path = .ok content ↔ disk.readFile path = .ok content := by
  unfold readBytes
  cases disk.readFile path with
  | ok found => exact ⟨fun h => congrArg _ (Except.ok.inj h), fun h => congrArg _ (Except.ok.inj h)⟩
  | error fault => cases fault <;> exact iff_of_false nofun nofun

theorem coded_readBytes_iff (disk : Disk) (path : Path) :
    Coded (readBytes disk path) ↔ path.hasNul = false := by
  rw [← Bool.not_eq_true, ← readFile_eq_embeddedNul_iff disk, readBytes]
  cases disk.readFile path with
  | ok content => exact iff_of_true (coded_ok content) nofun
  | error fault =>
      cases fault with
      | embeddedNul => exact iff_of_false (not_coded nofun) fun h => h rfl
      | _ => exact iff_of_true (coded_source _) nofun

/-- **The text of a file is had, or refused with a code, unless the path holds the character
that ends a name, or there is a file for which the encoding cannot be used.** -/
theorem coded_readText_iff (disk : Disk) (path : Path) (encoding : String)
    (codecs : ForeignCodecs) :
    Coded (readText disk path encoding codecs)
      ↔ path.hasNul = false
        ∧ ∀ content, disk.readFile path = .ok content → Usable codecs encoding content := by
  rw [← coded_readBytes_iff disk path, readText]
  cases hbytes : readBytes disk path with
  | error error =>
      have hunread : ∀ content, disk.readFile path ≠ .ok content := by
        intro content hcontent
        rw [readBytes_eq_ok_iff.mpr hcontent] at hbytes
        cases hbytes
      exact (coded_error_congr error).trans
        (and_iff_left fun content h => absurd h (hunread content)).symm
  | ok content =>
      have hread := readBytes_eq_ok_iff.mp hbytes
      have husable : (Coded (.ok content : Except LoadError (List UInt8))
            ∧ ∀ found, disk.readFile path = .ok found → Usable codecs encoding found)
          ↔ Usable codecs encoding content := by
        rw [hread]
        exact ⟨fun h => h.2 content rfl, fun h => ⟨coded_ok content, fun found hfound =>
          Except.ok.inj hfound ▸ h⟩⟩
      rw [husable, Usable, ← decode_breakdown_iff]
      show Coded (if encoding.toList.contains '\x00' then _ else _) ↔ _
      by_cases hnul : '\x00' ∈ encoding.toList
      · rw [if_pos (List.contains_iff_mem.mpr hnul)]
        exact iff_of_false (not_coded nofun) fun h => h.1 hnul
      · rw [if_neg fun h => hnul (List.contains_iff_mem.mp h)]
        cases hdecoded : decode encoding content codecs with
        | ok chars => exact iff_of_true (coded_ok _) ⟨hnul, nofun⟩
        | error failure =>
            cases failure with
            | error reason => exact iff_of_true (coded_source _) ⟨hnul, nofun⟩
            | breakdown message =>
                exact iff_of_false (not_coded nofun) fun h => h.2 ⟨message, rfl⟩

/-! ## §4. Scripts. -/

theorem sourcePath_eq_ok_iff {rules : UrlRules} {source : String} {path : Path} :
    sourcePath source rules = .ok path ↔ pathOfUrl source rules = .ok path := by
  unfold sourcePath
  cases pathOfUrl source rules with
  | ok found => exact ⟨fun h => congrArg _ (Except.ok.inj h), fun h => congrArg _ (Except.ok.inj h)⟩
  | error error => cases error <;> exact iff_of_false nofun nofun

/-- Whether a source can be asked for: its host is proper, and if it says where a file is,
then it does not name the character that ends a name, and if there is a file, the encoding
can be used for it. -/
structure Askable (rules : UrlRules) (codecs : ForeignCodecs) (disk : Disk)
    (source encoding : String) : Prop where
  host : ProperHost rules (urlParts rules source.toList).host
  file : ∀ path, sourcePath source rules = .ok path →
    ¬ NamesNul rules source
      ∧ ∀ content, disk.readFile path = .ok content → Usable codecs encoding content

theorem coded_scriptOfUrl_iff (rules : UrlRules) (codecs : ForeignCodecs) (disk : Disk)
    (source : String) (asked : Option String) (settings : Settings) :
    Coded (scriptOfUrl disk source asked settings rules codecs)
      ↔ Askable rules codecs disk source (chosenEncoding asked settings) := by
  have hhost := coded_sourcePath_iff rules source
  rw [scriptOfUrl]
  cases hpath : sourcePath source rules with
  | error error =>
      rw [hpath] at hhost
      show Coded (.error error : Except LoadError Script) ↔ _
      refine ((coded_error_congr error).trans hhost).trans
        ⟨fun h => ⟨h, fun path hfound => ?_⟩, Askable.host⟩
      rw [hpath] at hfound
      cases hfound
  | ok path =>
      rw [hpath] at hhost
      have hnul : path.hasNul = false ↔ ¬ NamesNul rules source := by
        rw [← hasNul_pathOfUrl (sourcePath_eq_ok_iff.mp hpath), Bool.not_eq_true]
      show Coded (scriptOfFile disk path asked settings codecs) ↔ _
      rw [scriptOfFile, coded_map, coded_readText_iff, hnul]
      constructor
      · intro h
        refine ⟨hhost.mp (coded_ok path), fun found hfound => ?_⟩
        rw [hpath] at hfound
        exact Except.ok.inj hfound ▸ h
      · intro h
        exact h.file path hpath

/-- **A source other than standard input is loaded, or refused with a code, exactly if it can
be asked for**; and so at every stage of the loading, whatever the platform. -/
theorem coded_iff {env : Environment} {source : String} (hsource : source ≠ standardInput)
    (platform : Platform) (settings : Settings) :
    (Coded (sourcePath source platform.rules)
        ↔ ProperHost platform.rules (urlParts platform.rules source.toList).host)
      ∧ (∀ path encoding, Coded (readText env.disk path encoding platform.codecs)
          ↔ path.hasNul = false ∧ ∀ content, env.disk.readFile path = .ok content →
              Usable platform.codecs encoding content)
      ∧ (∀ asked, Coded (scriptOfUrl env.disk source asked settings platform.rules
            platform.codecs)
          ↔ Askable platform.rules platform.codecs env.disk source
              (chosenEncoding asked settings))
      ∧ (Coded (loadScript env source settings platform)
          ↔ Askable platform.rules platform.codecs env.disk source settings.encoding) := by
  refine ⟨coded_sourcePath_iff platform.rules source,
    fun path encoding => coded_readText_iff env.disk path encoding platform.codecs,
    fun asked => coded_scriptOfUrl_iff platform.rules platform.codecs env.disk source asked
      settings, ?_⟩
  rw [loadScript, if_neg hsource]
  exact coded_scriptOfUrl_iff platform.rules platform.codecs env.disk source none settings

/-- A file that is missing is told of by a code. -/
theorem coded_missing_file :
    Coded (loadScript ⟨⟨.directory [], []⟩, "", fun _ _ => .nothing⟩ "a.sql" {}) := by
  refine (coded_iff (by decide) .standard {}).2.2.2.mpr ⟨by decide, fun path _ => ⟨?_, ?_⟩⟩
  · rw [NamesNul, if_neg (by decide)]
    decide
  · exact fun content _ => noForeignCodecs_usable (by decide) content

/-- A bracket in what looks like a host is refused without a code. -/
theorem not_coded_bracket :
    "//[x.sql" ≠ standardInput
      ∧ ¬ Coded (loadScript ⟨⟨.directory [], []⟩, "", fun _ _ => .nothing⟩ "//[x.sql" {}) :=
  ⟨by decide, not_coded (show ∀ e, LoadError.malformedUrl .brackets ≠ .source e from nofun)⟩

end SqlStatements.Files
