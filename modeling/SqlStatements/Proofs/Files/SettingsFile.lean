/-
  SqlStatements.Proofs.Files.SettingsFile
  ───────────────────────────────────────
  **When reading settings fails with a settings error, and when it does not.**

  A path that leads nowhere, and a text that is no JSON or whose values are refused, are
  settings errors, each with its code.  What the system refuses, bytes that are no UTF-8
  and JSON that is too large come through as they are: a name that is too long, a
  directory, a wrong byte and a long number are no settings errors.  This is all of it on a
  disk where everything may be looked at and no input fails; which values are accepted, and
  how deep they may be nested, is up to the reader of settings.

  Main results:

    • `settingsOfFile_encoded` — the bytes of a text are read as the text,
    • `documented_iff`         — which files give settings or a settings error, and which code
      it has.
-/
import SqlStatements.Files.SettingsFile
import SqlStatements.Proofs.Encoding.Utf8

namespace SqlStatements.Files

open Encoding (utf8_decode_eq_ok_iff)

variable {reader : SettingsReader}

/-! ## §1. What is at a path. -/

/-- Whether a path leads nowhere; a name that is too long is a fault of its own. -/
def LeadsNowhere (disk : Disk) (path : Path) : Prop :=
  ∃ fault, disk.entry path = .error fault ∧ fault ≠ .nameTooLong

/-- Whether the file at a path is the encoding of a text. -/
def HoldsText (disk : Disk) (path : Path) (text : List Char) : Prop :=
  disk.entry path = .ok (.file (text.flatMap String.utf8EncodeChar))

/-- A path leads nowhere exactly if the system says that there is nothing. -/
theorem exists?_eq_ok_false_iff (disk : Disk) (path : Path) :
    disk.exists? path = .ok false ↔ LeadsNowhere disk path := by
  unfold LeadsNowhere Disk.exists? Disk.ask
  cases disk.entry path with
  | ok entry => exact iff_of_false nofun nofun
  | error fault =>
      by_cases hlong : fault = .nameTooLong
      · subst hlong
        refine iff_of_false nofun ?_
        rintro ⟨fault, hfault, hlong⟩
        exact hlong (Except.error.inj hfault).symm
      · refine iff_of_true ?_ ⟨fault, rfl, hlong⟩
        cases fault with
        | nameTooLong => exact absurd rfl hlong
        | _ => rfl

theorem settingsOfFile_nowhere {disk : Disk} {path : Path} (h : LeadsNowhere disk path) :
    settingsOfFile disk path reader = .error (.settings (.missing path)) := by
  rw [settingsOfFile, (exists?_eq_ok_false_iff disk path).mpr h]

/-- **The bytes of a text are read as the text.** -/
theorem settingsOfFile_encoded {disk : Disk} {path : Path} {text : List Char}
    (h : HoldsText disk path text) :
    settingsOfFile disk path reader = settingsOfText reader path (unifyLines text) := by
  have hexists : disk.exists? path = .ok true := by
    rw [Disk.exists?, Disk.ask, h]
  have hread : disk.readFile path = .ok (text.flatMap String.utf8EncodeChar) := by
    rw [Disk.readFile, h]
  rw [settingsOfFile, hexists]
  simp only [hread, utf8_decode_eq_ok_iff.mpr rfl]

/-! ## §2. Documented outcomes. -/

/-- Whether there are settings, or a settings error. -/
def Documented (result : Except SettingsLoadError Settings) : Prop :=
  (∃ settings, result = .ok settings) ∨ ∃ error, result = .error (.settings error)

/-- Whether there is a settings error with a code. -/
def FailsWithCode (result : Except SettingsLoadError Settings) (code : String) : Prop :=
  ∃ error : SettingsError, result = .error (.settings error) ∧ error.code = code

/-- Only a path that leads nowhere and the bytes of a text have such an outcome. -/
theorem of_documented {disk : Disk} {path : Path}
    (h : Documented (settingsOfFile disk path reader)) :
    LeadsNowhere disk path ∨ ∃ text, HoldsText disk path text := by
  have hother : ∀ error : SettingsLoadError, (∀ e, error ≠ .settings e) →
      settingsOfFile disk path reader ≠ .error error := by
    intro error hne hresult
    rw [hresult] at h
    rcases h with ⟨settings, hok⟩ | ⟨e, he⟩
    · cases hok
    · exact hne e (Except.error.inj he)
  cases hentry : disk.entry path with
  | error fault =>
      by_cases hlong : fault = .nameTooLong
      · subst hlong
        have hexists : disk.exists? path = .error .nameTooLong := by
          rw [Disk.exists?, Disk.ask, hentry]
        refine (hother (.fault path .nameTooLong) nofun ?_).elim
        rw [settingsOfFile, hexists]
      · exact .inl ⟨fault, hentry, hlong⟩
  | ok entry =>
      have hexists : disk.exists? path = .ok true := by
        rw [Disk.exists?, Disk.ask, hentry]
      cases entry with
      | directory entries =>
          have hread : disk.readFile path = .error .isDirectory := by
            rw [Disk.readFile, hentry]
          refine (hother (.fault path .isDirectory) nofun ?_).elim
          simp only [settingsOfFile, hexists, hread]
      | file content =>
          have hread : disk.readFile path = .ok content := by
            rw [Disk.readFile, hentry]
          cases hdecode : Encoding.Codec.utf8.decode content with
          | error error =>
              refine (hother (.undecodable error) nofun ?_).elim
              simp only [settingsOfFile, hexists, hread, hdecode]
          | ok text =>
              refine .inr ⟨text, ?_⟩
              rw [HoldsText, hentry, utf8_decode_eq_ok_iff.mp hdecode]

/-! ## §3. Texts. -/

/-- Whether a text is refused: it is no JSON, or its values are not accepted. -/
def Refused (reader : SettingsReader) (text : List Char) : Prop :=
  (∃ kind line column position,
      Json.read text reader.room = .error (.fault kind line column position))
    ∨ ∃ value violations, Json.read text reader.room = .ok value
      ∧ reader.accept value = .error violations

/-- Whether nothing in a text is too large to be read as JSON. -/
def Moderate (reader : SettingsReader) (text : List Char) : Prop :=
  ∀ found, Json.read text reader.room ≠ .error (.excess found)

/-- What becomes of a text. -/
theorem settingsOfText_cases (path : Path) (text : List Char) :
    (∃ found, Json.read text reader.room = .error (.excess found)
        ∧ settingsOfText reader path text = .error (.excess found))
      ∨ (Moderate reader text ∧ Refused reader text
        ∧ FailsWithCode (settingsOfText reader path text) "settings_invalid")
      ∨ ∃ settings, Moderate reader text ∧ ¬ Refused reader text
        ∧ settingsOfText reader path text = .ok settings := by
  unfold settingsOfText Moderate Refused
  cases hread : Json.read text reader.room with
  | error error =>
      cases error with
      | fault kind line column position =>
          exact .inr (.inl ⟨nofun, .inl ⟨kind, line, column, position, rfl⟩, _, rfl, rfl⟩)
      | excess found => exact .inl ⟨found, rfl, rfl⟩
  | ok value =>
      cases hsettings : reader.accept value with
      | ok settings =>
          refine .inr (.inr ⟨settings, nofun, ?_, by simp only [hsettings]⟩)
          rintro (⟨kind, line, column, position, h⟩ | ⟨value', violations, h, hviolations⟩)
          · cases h
          · obtain rfl := Except.ok.inj h
            rw [hsettings] at hviolations
            cases hviolations
      | error violations =>
          refine .inr (.inl ⟨nofun, .inr ⟨value, violations, rfl, hsettings⟩, ?_⟩)
          exact ⟨.invalid path violations, by simp only [hsettings], rfl⟩

theorem documented_settingsOfText_iff (path : Path) (text : List Char) :
    Documented (settingsOfText reader path text) ↔ Moderate reader text := by
  rcases settingsOfText_cases path text with
    ⟨found, hread, hresult⟩ | ⟨hmoderate, -, error, hresult, -⟩ | ⟨settings, hmoderate, -, hresult⟩
  · rw [hresult]
    refine iff_of_false ?_ fun h => h found hread
    rintro (⟨settings, h⟩ | ⟨error, h⟩) <;> cases h
  · exact iff_of_true (.inr ⟨error, hresult⟩) hmoderate
  · exact iff_of_true (.inl ⟨settings, hresult⟩) hmoderate

/-- The only code that a text fails with is that of invalid settings. -/
theorem failsWithCode_settingsOfText_iff (path : Path) (text : List Char) (code : String) :
    FailsWithCode (settingsOfText reader path text) code
      ↔ Refused reader text ∧ code = "settings_invalid" := by
  rcases settingsOfText_cases path text with
    ⟨found, hread, hresult⟩ | ⟨-, hrefused, error, hresult, hcode⟩
    | ⟨settings, -, hrefused, hresult⟩
  · rw [FailsWithCode, hresult]
    refine iff_of_false nofun ?_
    rintro ⟨⟨kind, line, column, position, h⟩ | ⟨value, violations, h, -⟩, -⟩
    · rw [hread] at h
      cases h
    · rw [hread] at h
      cases h
  · rw [FailsWithCode, hresult, ← hcode]
    constructor
    · rintro ⟨error', h, rfl⟩
      cases h
      exact ⟨hrefused, rfl⟩
    · rintro ⟨-, rfl⟩
      exact ⟨error, rfl, rfl⟩
  · rw [FailsWithCode, hresult]
    exact iff_of_false nofun fun h => hrefused h.1

/-! ## §4. Files. -/

theorem FailsWithCode.documented {result : Except SettingsLoadError Settings} {code : String}
    (h : FailsWithCode result code) : Documented result :=
  let ⟨error, herror, _⟩ := h
  .inr ⟨error, herror⟩

/-- The only code that a path leading nowhere fails with is that of missing settings. -/
theorem failsWithCode_nowhere_iff {disk : Disk} {path : Path} (h : LeadsNowhere disk path)
    (code : String) :
    FailsWithCode (settingsOfFile disk path reader) code ↔ code = "settings_not_found" := by
  rw [FailsWithCode, settingsOfFile_nowhere h]
  constructor
  · rintro ⟨error, herror, rfl⟩
    cases herror
    rfl
  · rintro rfl
    exact ⟨.missing path, rfl, rfl⟩

/-- **Settings, or a settings error, come of a path that leads nowhere and of UTF-8 text in
which nothing is too large, and of nothing else that may be on a disk.**  A disk has neither
entries to which access is denied nor inputs that fail.  The code of the error tells the two
apart: it is that of invalid settings exactly for a text that is refused. -/
theorem documented_iff (reader : SettingsReader) (disk : Disk) (path : Path) :
    (Documented (settingsOfFile disk path reader)
        ↔ LeadsNowhere disk path
          ∨ ∃ text, HoldsText disk path text ∧ Moderate reader (unifyLines text))
      ∧ (FailsWithCode (settingsOfFile disk path reader) "settings_not_found"
        ↔ LeadsNowhere disk path)
      ∧ (FailsWithCode (settingsOfFile disk path reader) "settings_invalid"
        ↔ ∃ text, HoldsText disk path text ∧ Refused reader (unifyLines text)) := by
  refine ⟨⟨fun h => ?_, fun h => ?_⟩, ⟨fun h => ?_, fun h => ?_⟩, ⟨fun h => ?_, fun h => ?_⟩⟩
  · rcases of_documented h with hnowhere | ⟨text, htext⟩
    · exact .inl hnowhere
    · rw [settingsOfFile_encoded htext, documented_settingsOfText_iff] at h
      exact .inr ⟨text, htext, h⟩
  · rcases h with hnowhere | ⟨text, htext, hmoderate⟩
    · exact .inr ⟨.missing path, settingsOfFile_nowhere hnowhere⟩
    · rw [settingsOfFile_encoded htext, documented_settingsOfText_iff]
      exact hmoderate
  · rcases of_documented h.documented with hnowhere | ⟨text, htext⟩
    · exact hnowhere
    · rw [settingsOfFile_encoded htext, failsWithCode_settingsOfText_iff] at h
      exact absurd h.2 (by decide)
  · exact (failsWithCode_nowhere_iff h _).mpr rfl
  · rcases of_documented h.documented with hnowhere | ⟨text, htext⟩
    · exact absurd ((failsWithCode_nowhere_iff hnowhere _).mp h) (by decide)
    · rw [settingsOfFile_encoded htext, failsWithCode_settingsOfText_iff] at h
      exact ⟨text, htext, h.1⟩
  · obtain ⟨text, htext, hrefused⟩ := h
    rw [settingsOfFile_encoded htext, failsWithCode_settingsOfText_iff]
    exact ⟨hrefused, rfl⟩

/-- A file with a single byte that begins no character. -/
def wrongByte : Disk := ⟨.directory [("s.json", .file [0xFF])], []⟩

/-- A wrong byte comes through as a failure of the decoding. -/
theorem not_documented_wrong_byte :
    ¬ Documented (settingsOfFile wrongByte (Path.ofText "s.json")) := by
  rintro (⟨settings, h⟩ | ⟨error, h⟩) <;> cases h

end SqlStatements.Files
