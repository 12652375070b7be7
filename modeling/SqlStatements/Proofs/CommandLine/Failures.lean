/-
  SqlStatements.Proofs.CommandLine.Failures
  ─────────────────────────────────────────
  **How failures are reported.**

  A command whose settings or source are not accepted, and a value that is no literal, end
  with status 1, and the message goes to the console behind a few words of its own.  It is
  printed as marked-up text: what looks like a tag in it is read as one, although the
  message quotes paths, URLs and values as they were given.

  How the console reads tags is given by the laws of its printer, and how URLs, encodings,
  settings and command lines are read is left open.

  Main results:

    • `failed_eq_reported_iff` — a message is printed as it is exactly if nothing in it is
      markup,
    • `run_eq_reported_iff`    — and so for every command line that fails with it.
-/
import SqlStatements.CommandLine.Run
import SqlStatements.Proofs.Console.Printing

namespace SqlStatements.CommandLine

open Console Files Text

/-! ## §1. The line of a failure. -/

/-- The line of a failure with its message. -/
def failureLine (message : String) : String := "✗ Error: " ++ message

/-- The outcome of a failure whose message is printed as it is. -/
def reported (message : String) : Outcome :=
  { status := 1, output := failureLine message ++ "\n" }

/-- The words of a failure are in a style of their own. -/
theorem failure_eq_inStyle (label message : String) :
    s!"[red]✗ {label}:[/red] {message}"
      = inStyle "red" ("✗ " ++ label ++ ":") ++ (" " ++ message) := by
  refine String.toList_inj.mp ?_
  simp [inStyle, toString]

theorem failed_eq (printer : Printer) (message : String) :
    Outcome.failed printer "Error" message =
      match printer.marked (inStyle "red" "✗ Error:" ++ (" " ++ message)) with
      | .ok shown => { status := 1, output := shown ++ "\n" }
      | .error error => { status := 1, abort := some (.markup error) } := by
  have hwords : "✗ " ++ "Error" ++ ":" = "✗ Error:" := by decide
  rw [Outcome.failed, Printer.markedLine, failure_eq_inStyle, hwords]
  cases printer.marked (inStyle "red" "✗ Error:" ++ (" " ++ message)) <;> rfl

theorem failed_status (printer : Printer) (message : String) :
    (Outcome.failed printer "Error" message).status = 1 := by
  rw [failed_eq]
  split <;> rfl

theorem failureLine_injective {a b : String} (h : failureLine a = failureLine b) : a = b := by
  have hchars := congrArg String.toList h
  simp only [failureLine, String.toList_append, List.append_cancel_left_eq] at hchars
  exact String.toList_inj.mp hchars

theorem reported_injective {a b : String} (h : reported a = reported b) : a = b := by
  have hchars := congrArg String.toList (congrArg Outcome.output h)
  simp only [reported, String.toList_append, List.append_cancel_right_eq] at hchars
  exact failureLine_injective (String.toList_inj.mp hchars)

section Printing

variable {printer : Printer} {screen : Screen} {message : String}

/-- What becomes of a line that is shown depends on its words alone. -/
theorem toOption_marked_failure (hconsole : printer.ReadsMarkup screen)
    (hshow : screen.Shows (failureLine message)) :
    (printer.marked (inStyle "red" "✗ Error:" ++ (" " ++ message))).toOption
      = (printer.marked (failureLine message)).toOption := by
  have hline : "✗ Error:" ++ (" " ++ message) = failureLine message := by
    rw [← String.append_assoc]
    rfl
  rw [← hline] at hshow ⊢
  exact hconsole.style (by decide) (by decide) hshow

/-- A failure ends with nothing printed where the console shows nothing, and else with a
line that holds what it shows of the message, which is a part of it. -/
theorem failed_cases (hconsole : printer.ReadsMarkup screen)
    (hshow : screen.Shows (failureLine message)) :
    ((∃ error, Outcome.failed printer "Error" message
          = { status := 1, abort := some (.markup error) })
        ∧ ∀ shown, printer.marked (failureLine message) ≠ .ok shown)
    ∨ ∃ part : String, part.toList.Sublist message.toList
        ∧ Outcome.failed printer "Error" message = reported part
        ∧ printer.marked (failureLine message) = .ok (failureLine part) := by
  have hsame := toOption_marked_failure hconsole hshow
  rw [failed_eq]
  cases hstyled : printer.marked (inStyle "red" "✗ Error:" ++ (" " ++ message)) with
  | error error =>
      refine .inl ⟨⟨error, rfl⟩, fun shown hmarked => ?_⟩
      rw [eq_ok_of_toOption_eq hsame hmarked] at hstyled
      cases hstyled
  | ok shown =>
      have hmarked := eq_ok_of_toOption_eq hsame.symm hstyled
      obtain ⟨part, hpart, rfl⟩ := hconsole.words (by decide) hshow hmarked
      exact .inr ⟨part, hpart, rfl, hmarked⟩

/-- **A message is printed as it is exactly if nothing in it is markup.** -/
theorem failed_eq_reported_iff (hconsole : printer.ReadsMarkup screen)
    (hshow : screen.Shows (failureLine message)) :
    Outcome.failed printer "Error" message = reported message ↔ Inert message.toList := by
  have hinert : Inert (failureLine message).toList ↔ Inert message.toList := by
    rw [failureLine, String.toList_append]
    exact inert_append_iff (by decide) (by decide)
  rw [← hinert, ← hconsole.marked_eq_self_iff hshow]
  rcases failed_cases hconsole hshow with ⟨⟨error, hfailed⟩, hnone⟩ | ⟨part, -, hfailed, hmarked⟩
  · refine iff_of_false (fun hall => ?_) (hnone _)
    exact absurd (congrArg Outcome.abort (hfailed.symm.trans hall)) (by simp [reported])
  · rw [hfailed, hmarked, Except.ok.injEq]
    exact ⟨fun h => congrArg failureLine (reported_injective h),
      fun h => congrArg reported (failureLine_injective h)⟩

end Printing

/-! ## §2. Command lines that fail. -/

/-- The source that a request loads and its choice of settings. -/
def Request.loading? : Request → Option (String × SettingsChoice)
  | .split source choice _ => some (source, choice)
  | .check source choice _ => some (source, choice)
  | _ => none

/-- What a request fails with: the message of settings or of a source that are not
accepted, or of a value that has no literal. -/
inductive FailsWith (platform : Platform) (env : Environment) (request : Request) : String → Prop
  | settings {source : String} {choice : SettingsChoice} {error : SettingsError}
      (hloads : request.loading? = some (source, choice))
      (hfails : choice.settings env.disk platform.reader = .error (.settings (.settings error))) :
      FailsWith platform env request error.message
  | source {source : String} {choice : SettingsChoice} {settings : Settings}
      {error : SourceError} (hloads : request.loading? = some (source, choice))
      (hsettings : choice.settings env.disk platform.reader = .ok settings)
      (hfails : loadScript env source settings platform = .error (.source error)) :
      FailsWith platform env request error.message
  | literal {value : Option String} {type : Literal.RawType} {error : Literal.RawError}
      (hasks : request = .literal value type)
      (hfails : Literal.encodeRaw value type.name = .error error) :
      FailsWith platform env request error.message

theorem Request.of_loading? {request : Request} {source : String} {choice : SettingsChoice}
    (h : request.loading? = some (source, choice)) :
    (∃ form, request = .split source choice form)
      ∨ ∃ json, request = .check source choice json := by
  cases request with
  | split source' choice' form =>
      cases h
      exact .inl ⟨form, rfl⟩
  | check source' choice' json =>
      cases h
      exact .inr ⟨json, rfl⟩
  | version => cases h
  | help about => cases h
  | literal value type => cases h

/-- Every such failure takes the same way out. -/
theorem FailsWith.run_eq {platform : Platform} {env : Environment} {request : Request}
    {message : String} (h : FailsWith platform env request message) :
    request.run env platform = Outcome.failed platform.printer "Error" message := by
  cases h with
  | settings hloads hfails =>
      rcases Request.of_loading? hloads with ⟨form, rfl⟩ | ⟨json, rfl⟩
      · simp only [Request.run, runSplit, hfails]
        rfl
      · simp only [Request.run, runCheck, hfails]
        rfl
  | source hloads hsettings hfails =>
      rcases Request.of_loading? hloads with ⟨form, rfl⟩ | ⟨json, rfl⟩
      · simp only [Request.run, runSplit, hsettings, split, hfails]
        rfl
      · simp only [Request.run, runCheck, hsettings, hfails]
        rfl
  | literal hasks hfails =>
      subst hasks
      simp only [Request.run, runLiteral, hfails]

/-- **A command line that fails with a message ends with status 1**, and on a console that
shows its line and obeys the laws of markup the message is printed as it is exactly if
nothing in it is markup.  Otherwise the line lacks some of the message, or there is no line. -/
theorem run_eq_reported_iff {platform : Platform} {screen : Screen} {read : WordsReader}
    {env : Environment} {words : List String} {request : Request} {message : String}
    (hwords : read words = .ok request) (hfails : FailsWith platform env request message)
    (hconsole : platform.printer.ReadsMarkup screen)
    (hshow : screen.Shows (failureLine message)) :
    (run env words platform read).status = 1
      ∧ (run env words platform read = reported message ↔ Inert message.toList)
      ∧ ((∃ error, run env words platform read
            = { status := 1, abort := some (.markup error) })
        ∨ ∃ part : String, part.toList.Sublist message.toList
            ∧ run env words platform read = reported part) := by
  have hrun : run env words platform read = Outcome.failed platform.printer "Error" message := by
    rw [run, hwords]
    exact hfails.run_eq
  rw [hrun]
  refine ⟨failed_status _ message, failed_eq_reported_iff hconsole hshow, ?_⟩
  rcases failed_cases hconsole hshow with ⟨haborted, -⟩ | ⟨part, hpart, hfailed, -⟩
  · exact .inl haborted
  · exact .inr ⟨part, hpart, hfailed⟩

/-- What a command finds where there are no files at all. -/
def bareEnvironment : Environment :=
  { disk := ⟨.directory [], []⟩, input := "", parser := fun _ _ => .nothing }

/-- A missing file with a plain name is reported as it is. -/
theorem run_missing_file :
    run bareEnvironment ["split", "a.sql"] = reported "Script file not found: a.sql" := by
  have hfails : FailsWith .standard bareEnvironment (.split "a.sql" {} {})
      (SourceError.missing ⟨.relative, ["a.sql"]⟩).message := .source rfl rfl rfl
  have hshow : Screen.wide.Shows (failureLine "Script file not found: a.sql") :=
    Screen.wide_shows (by decide) (by decide +kernel)
  exact (run_eq_reported_iff (by decide) hfails (Printer.standard_readsMarkup _) hshow).2.1.mpr
    (inert_of_not_mem (by decide))

/-- The name of a missing file is read as markup: brackets and what they hold are not
printed. -/
theorem run_missing_file_brackets :
    Request.ofWords ["split", "a[b].sql"] = .ok (.split "a[b].sql" {} {})
      ∧ FailsWith .standard bareEnvironment (.split "a[b].sql" {} {})
          "Script file not found: a[b].sql"
      ∧ Screen.wide.Shows (failureLine "Script file not found: a[b].sql")
      ∧ run bareEnvironment ["split", "a[b].sql"] = reported "Script file not found: a.sql" := by
  have hfails : FailsWith .standard bareEnvironment (.split "a[b].sql" {} {})
      (SourceError.missing ⟨.relative, ["a[b].sql"]⟩).message := .source rfl rfl rfl
  exact ⟨by decide, hfails, Screen.wide_shows (by decide) (by decide +kernel), by decide⟩

/-- What reads as a closing tag leaves no line at all. -/
example : (run bareEnvironment ["split", "a[/b].sql"]).abort.isSome = true := by decide

end SqlStatements.CommandLine
