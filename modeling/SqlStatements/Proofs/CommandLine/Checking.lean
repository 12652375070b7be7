/-
  SqlStatements.Proofs.CommandLine.Checking
  ─────────────────────────────────────────
  **What a check says, it says alike in all of its forms.**

  The issues of a script are found once.  The report, the text that is printed and the status
  at the end are made of them in different ways, and a check for people prints a line with
  the name of the dialect in it, which is read as marked-up text: without an opening bracket
  in that name a printer that shows words in a style shows the line.  So the status tells
  whether a statement fails, with the report and without it.

  Main results:

    • `loadScript_eq_ok_iff`   — which script a source holds,
    • `exists_findings`        — what is found is always printed,
    • `check_reports_failures` — the issues, the report and the status of a check.
-/
import SqlStatements.Proofs.Check
import SqlStatements.Proofs.CommandLine.Failures

namespace SqlStatements.CommandLine

open Console Files Text

/-! ## §1. The script of a source. -/

/-- The text that a source holds: what is on standard input, or in the file that it names. -/
inductive HoldsText (platform : Platform) (env : Environment) (encoding : String) :
    (source text : String) → Prop
  | input : HoldsText platform env encoding standardInput env.input
  | file {source text : String} {path : Path} (hsource : source ≠ standardInput)
      (hpath : sourcePath source platform.rules = .ok path)
      (htext : readText env.disk path encoding platform.codecs = .ok text) :
      HoldsText platform env encoding source text

/-- **The script of a source is that of its text.** -/
theorem loadScript_eq_ok_iff {platform : Platform} {env : Environment} {source : String}
    {settings : Settings} {script : Script} :
    loadScript env source settings platform = .ok script
      ↔ ∃ text, HoldsText platform env settings.encoding source text
          ∧ Script.ofText text settings = script := by
  unfold loadScript
  by_cases hsource : source = standardInput
  · rw [if_pos hsource, Except.ok.injEq]
    constructor
    · intro hscript
      subst hsource
      exact ⟨env.input, .input, hscript⟩
    · rintro ⟨text, hholds, hscript⟩
      cases hholds with
      | input => exact hscript
      | file hother => exact absurd hsource hother
  · rw [if_neg hsource]
    unfold scriptOfUrl scriptOfFile
    constructor
    · intro h
      cases hpath : sourcePath source platform.rules with
      | error error =>
          rw [hpath] at h
          cases h
      | ok path =>
          simp only [hpath] at h
          change (readText env.disk path settings.encoding platform.codecs).map _ = _ at h
          cases htext : readText env.disk path settings.encoding platform.codecs with
          | error error =>
              rw [htext] at h
              cases h
          | ok text =>
              rw [htext] at h
              exact ⟨text, .file hsource hpath htext, Except.ok.inj h⟩
    · rintro ⟨text, hholds, rfl⟩
      cases hholds with
      | input => exact absurd rfl hsource
      | file _ hpath htext =>
          simp only [hpath]
          exact congrArg (Except.map (Script.ofText · settings)) htext

/-! ## §2. What is printed. -/

/-- The digits of a number hold no bracket. -/
theorem bracket_not_mem_digits (n : Nat) : '[' ∉ (toString n).toList := by
  intro hmem
  rw [Nat.toString_eq_repr, Nat.repr_eq_ofList_toDigits, String.toList_ofList] at hmem
  exact absurd (Nat.isDigit_of_mem_toDigits (by decide) (by decide) hmem) (by decide)

section Printing

variable {printer : Printer} {dialect : String}

/-- **The line on a script without issues is always printed**, if the name of the dialect has
no opening bracket. -/
theorem exists_printed_passed (hconsole : printer.ShowsStyled) (h : '[' ∉ dialect.toList)
    (total : Nat) :
    ∃ output, printer.markedLine s!"[green]✓[/green] {total} statement(s) parsed ({dialect})"
      = .ok output := by
  let line : String := s!" {total} statement(s) parsed ({dialect})"
  have hmarked : s!"[green]✓[/green] {total} statement(s) parsed ({dialect})"
      = inStyle "green" "✓" ++ line := by
    refine String.toList_inj.mp ?_
    simp [line, inStyle, toString]
  have hline : '[' ∉ line.toList := by
    simpa [line, toString, h] using bracket_not_mem_digits total
  obtain ⟨shown, hshown⟩ := hconsole "green" "✓" line (by decide) (by decide) hline
  rw [hmarked, Printer.markedLine, hshown]
  exact ⟨_, rfl⟩

/-- **What is found is always printed**, and with JSON asked for it is the report. -/
theorem exists_findings (hconsole : printer.ShowsStyled) (h : '[' ∉ dialect.toList)
    (source : String) (total : Nat) (issues : List Issue) (json : Bool) :
    ∃ output, findings printer source dialect total issues json = .ok output
      ∧ (json = true → output = (Report.ofCheck source dialect total issues).text ++ "\n") := by
  unfold findings
  cases json with
  | true => exact ⟨_, rfl, fun _ => rfl⟩
  | false =>
      cases issues with
      | nil =>
          obtain ⟨output, hprinted⟩ := exists_printed_passed hconsole h total
          exact ⟨output, hprinted, nofun⟩
      | cons issue issues => exact ⟨_, rfl, nofun⟩

end Printing

/-! ## §3. The status. -/

/-- A check whose issues are found ends with them: its status says whether there are any. -/
theorem runCheck_eq {platform : Platform} {env : Environment} {source : String}
    {choice : SettingsChoice} {settings : Settings} {script : Script} {issues : List Issue}
    (hconsole : platform.printer.ShowsStyled)
    (hsettings : choice.settings env.disk platform.reader = .ok settings)
    (hscript : loadScript env source settings platform = .ok script)
    (hdialect : '[' ∉ settings.dialect.toList)
    (hissues : findIssues env.parser settings.dialect script.statements = .ok issues)
    (json : Bool) :
    (runCheck platform env source choice json).status = (if issues = [] then 0 else 1)
      ∧ (json = true → (runCheck platform env source choice json).output
          = (Report.ofCheck source settings.dialect script.size issues).text ++ "\n") := by
  obtain ⟨output, houtput, hjson⟩ :=
    exists_findings hconsole hdialect source script.size issues json
  have hfound : checkLoaded env.parser platform.printer source settings.dialect script json
      = .ok ⟨issues, output⟩ := by
    simp only [checkLoaded, hissues, houtput]
  simp only [runCheck, hsettings, hscript, hfound, List.isEmpty_iff]
  exact ⟨trivial, hjson⟩

/-- **A check reports exactly the failing statements**, and all that it says agrees: the list of
issues, the report, and the status at the end in either form. -/
theorem check_reports_failures {platform : Platform} {read : WordsReader} {env : Environment}
    {text : String} {settings : Settings} {script : Script}
    (hscript : Script.ofText text settings = script)
    (hdialect : '[' ∉ settings.dialect.toList)
    (hanswers : Answers env.parser settings.dialect script.statements)
    (hconsole : platform.printer.ShowsStyled) :
    ∃ issues, findIssues env.parser settings.dialect script.statements = .ok issues
      ∧ ReportsFailures env.parser settings.dialect script.statements issues
      ∧ ∀ source, (Report.ofCheck source settings.dialect script.size issues).Summarises issues
            script.size
        ∧ ∀ words choice json, read words = .ok (.check source choice json) →
            choice.settings env.disk platform.reader = .ok settings →
            HoldsText platform env settings.encoding source text →
            ((run env words platform read).status = 0 ↔ ∀ statement ∈ script.statements,
                ¬ Fails env.parser settings.dialect statement)
              ∧ ((run env words platform read).status = 1 ↔ ∃ statement ∈ script.statements,
                Fails env.parser settings.dialect statement)
              ∧ (json = true → (run env words platform read).output
                = (Report.ofCheck source settings.dialect script.size issues).text ++ "\n") := by
  obtain ⟨issues, hissues, hreports⟩ := exists_reportsFailures hanswers
  refine ⟨issues, hissues, hreports, fun source =>
    ⟨Report.summarises_ofCheck source settings.dialect script.size issues, ?_⟩⟩
  intro words choice json hwords hsettings htext
  have hload := loadScript_eq_ok_iff.mpr ⟨text, htext, hscript⟩
  have hrun : run env words platform read = runCheck platform env source choice json := by
    rw [run, hwords]
    rfl
  obtain ⟨hstatus, houtput⟩ := runCheck_eq hconsole hsettings hload hdialect hissues json
  have hnone := hreports.eq_nil_iff
  have hsome : (∃ statement ∈ script.statements, Fails env.parser settings.dialect statement)
      ↔ ¬ issues = [] := by
    rw [hnone]
    simp
  rw [hrun, hstatus, hsome, ← hnone]
  refine ⟨?_, ?_, houtput⟩
  · by_cases hnil : issues = [] <;> simp [hnil]
  · by_cases hnil : issues = [] <;> simp [hnil]

/-- What a command finds where the parser rejects one statement, which occurs twice. -/
def rejectingEnvironment : Environment :=
  { disk := ⟨.directory [], []⟩, input := "a;b;;b;a"
    parser := fun statement _ => if statement = "b" then .rejected "near b" else .parsed }

/-- Both occurrences of a statement that fails are reported, and the status is 1 in either
form. -/
theorem check_reports_failures_twice :
    findIssues rejectingEnvironment.parser "sqlite" ["a", "b", "b", "a"]
        = .ok [⟨1, "b", "SQL parsing error: near b"⟩, ⟨2, "b", "SQL parsing error: near b"⟩]
      ∧ (run rejectingEnvironment ["check", "-"]).status = 1
      ∧ (run rejectingEnvironment ["check", "-", "--json"]).status = 1 := by
  have hscript : Script.ofText "a;b;;b;a" {} = ⟨["a", "b", "b", "a"]⟩ := by decide
  have hanswers : Answers rejectingEnvironment.parser "sqlite" ["a", "b", "b", "a"] := by
    intro statement _ message
    show (if statement = "b" then ParseOutcome.rejected "near b" else .parsed) ≠ _
    split <;> simp
  have hfails : Fails rejectingEnvironment.parser "sqlite" "b" := .inr ⟨"near b", rfl⟩
  obtain ⟨issues, hissues, -, hall⟩ :=
    @check_reports_failures .standard Request.ofWords _ _ _ _ hscript (by decide) hanswers
      Printer.standard_showsStyled
  have hchecks := (hall standardInput).2
  refine ⟨by decide, ?_, ?_⟩
  · exact (hchecks ["check", "-"] {} false (by decide) rfl .input).2.1.mpr ⟨"b", by simp, hfails⟩
  · exact (hchecks ["check", "-", "--json"] {} true (by decide) rfl .input).2.1.mpr
      ⟨"b", by simp, hfails⟩

end SqlStatements.CommandLine
