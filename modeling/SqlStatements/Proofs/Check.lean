/-
  SqlStatements.Proofs.Check
  ──────────────────────────
  **A check finds exactly the statements that do not parse.**

  A statement fails when the parser rejects it or finds nothing in it.  The issues of a
  script stand for the failing statements one by one: each by its position, in the order of
  the script, so a statement that occurs twice has two issues.  The report on the check says
  nothing but what the list of issues says.

  Main results:

    • `mem_issuesFrom_iff`        — the issues of a list of statements, wherever it begins,
    • `exists_reportsFailures`    — a check ends with exactly the failing statements,
    • `summarises_ofCheck`        — its report agrees with them.
-/
import Mathlib.Data.List.Basic
import SqlStatements.Report

namespace SqlStatements

variable {parser : SqlParser} {dialect : String}

/-! ## §1. Single statements. -/

/-- The parser rejects a statement, or finds nothing in it. -/
def Fails (parser : SqlParser) (dialect statement : String) : Prop :=
  parser statement dialect = .nothing ∨ ∃ message, parser statement dialect = .rejected message

/-- The parser breaks down on none of some statements: it parses each of them, rejects it or
finds nothing in it. -/
def Answers (parser : SqlParser) (dialect : String) (statements : List String) : Prop :=
  ∀ statement ∈ statements, ∀ message, parser statement dialect ≠ .crashed message

/-- Where the parser answers, it is known whether there is an error. -/
theorem exists_statementError {statement : String}
    (h : ∀ message, parser statement dialect ≠ .crashed message) :
    ∃ error, statementError parser statement dialect = .ok error := by
  unfold statementError
  cases houtcome : parser statement dialect with
  | parsed | nothing | rejected message => exact ⟨_, rfl⟩
  | crashed message => exact absurd houtcome (h message)

/-- A statement has an error exactly if it fails. -/
theorem exists_error_iff {statement : String} :
    (∃ error, statementError parser statement dialect = .ok (some error))
      ↔ Fails parser dialect statement := by
  unfold statementError Fails
  cases parser statement dialect <;> simp

/-- No error is without a word. -/
theorem error_ne_empty {statement error : String}
    (h : statementError parser statement dialect = .ok (some error)) : error ≠ "" := by
  unfold statementError at h
  cases houtcome : parser statement dialect with
  | parsed | crashed message =>
      rw [houtcome] at h
      cases h
  | nothing =>
      rw [houtcome] at h
      cases h
      decide
  | rejected message =>
      rw [houtcome] at h
      cases h
      intro hempty
      exact absurd (String.append_eq_empty_iff.mp hempty).1 (by decide)

/-! ## §2. The issues of a script. -/

/-- The issues after a first statement are its own, if it fails, and those of the others. -/
theorem of_issuesFrom_cons {first : Nat} {statement : String} {rest : List String}
    {issues : List Issue} (h : issuesFrom parser dialect first (statement :: rest) = .ok issues) :
    ∃ error later, statementError parser statement dialect = .ok error
      ∧ issuesFrom parser dialect (first + 1) rest = .ok later
      ∧ issues = (issue? first statement error).toList ++ later := by
  unfold issuesFrom at h
  cases herror : statementError parser statement dialect with
  | error crash =>
      rw [herror] at h
      cases h
  | ok error =>
      rw [herror] at h
      cases hlater : issuesFrom parser dialect (first + 1) rest with
      | error crash =>
          rw [hlater] at h
          cases h
      | ok later =>
          rw [hlater] at h
          exact ⟨error, later, rfl, rfl, (Except.ok.inj h).symm⟩

/-- A parser that answers on every statement leads a check to its end. -/
theorem exists_issuesFrom (first : Nat) {statements : List String}
    (h : Answers parser dialect statements) :
    ∃ issues, issuesFrom parser dialect first statements = .ok issues := by
  induction statements generalizing first with
  | nil => exact ⟨[], rfl⟩
  | cons statement rest ih =>
      obtain ⟨hstatement, hrest⟩ := List.forall_mem_cons.mp h
      obtain ⟨later, hlater⟩ := ih (first + 1) hrest
      unfold issuesFrom
      rw [hlater]
      obtain ⟨error, herror⟩ := exists_statementError hstatement
      rw [herror]
      exact ⟨_, rfl⟩

theorem mem_issue?_iff {issue : Issue} {index : Nat} {statement : String} {error : Option String} :
    issue ∈ (issue? index statement error).toList
      ↔ (issue.statement, issue.index) = (statement, index) ∧ error = some issue.error := by
  cases error with
  | none => simp [issue?]
  | some error =>
      obtain ⟨index', statement', error'⟩ := issue
      simp [issue?, and_comm, and_assoc, eq_comm]

/-- **The issues are those of the statements at their positions**, the first of which is
`first`. -/
theorem mem_issuesFrom_iff {first : Nat} {statements : List String} {issues : List Issue}
    (h : issuesFrom parser dialect first statements = .ok issues) (issue : Issue) :
    issue ∈ issues ↔ (issue.statement, issue.index) ∈ statements.zipIdx first
      ∧ statementError parser issue.statement dialect = .ok (some issue.error) := by
  -- the first statement has the first position, and the others begin at the next one
  induction statements generalizing first issues with
  | nil =>
      obtain rfl : [] = issues := Except.ok.inj h
      simp
  | cons statement rest ih =>
      obtain ⟨error, later, herror, hlater, rfl⟩ := of_issuesFrom_cons h
      have hown : (issue.statement, issue.index) = (statement, first) ∧ error = some issue.error
          ↔ (issue.statement, issue.index) = (statement, first)
            ∧ statementError parser issue.statement dialect = .ok (some issue.error) := by
        refine and_congr_right fun hsame => ?_
        rw [(Prod.mk.inj hsame).1, herror, Except.ok.injEq]
      rw [List.mem_append, mem_issue?_iff, hown, ih hlater, List.zipIdx_cons, List.mem_cons,
        or_and_right]

/-- The issues stand in the order of their positions. -/
theorem pairwise_issuesFrom {first : Nat} {statements : List String} {issues : List Issue}
    (h : issuesFrom parser dialect first statements = .ok issues) :
    issues.Pairwise (·.index < ·.index) := by
  induction statements generalizing first issues with
  | nil =>
      obtain rfl : [] = issues := Except.ok.inj h
      exact .nil
  | cons statement rest ih =>
      obtain ⟨error, later, -, hlater, rfl⟩ := of_issuesFrom_cons h
      -- what stands behind the first statement has a later position than it
      have hbehind : ∀ issue ∈ later, first < issue.index := by
        intro issue hissue
        exact List.le_snd_of_mem_zipIdx ((mem_issuesFrom_iff hlater issue).mp hissue).1
      cases error with
      | none => exact ih hlater
      | some error => exact .cons hbehind (ih hlater)

/-- `issues` lists the failing ones of some statements: one issue for each, by its position,
with its text and an error that is not empty, in the order of the positions. -/
structure ReportsFailures (parser : SqlParser) (dialect : String) (statements : List String)
    (issues : List Issue) : Prop where
  increasing : issues.Pairwise (·.index < ·.index)
  exact : ∀ i, (∃ issue ∈ issues, issue.index = i)
    ↔ ∃ statement, statements[i]? = some statement ∧ Fails parser dialect statement
  described : ∀ issue ∈ issues, statements[issue.index]? = some issue.statement ∧ issue.error ≠ ""

/-- **A check ends with exactly the failing statements**, if the parser answers on every one. -/
theorem exists_reportsFailures {statements : List String} (h : Answers parser dialect statements) :
    ∃ issues, findIssues parser dialect statements = .ok issues
      ∧ ReportsFailures parser dialect statements issues := by
  obtain ⟨issues, hissues⟩ := exists_issuesFrom 0 h
  have hmem : ∀ issue, issue ∈ issues ↔ statements[issue.index]? = some issue.statement
      ∧ statementError parser issue.statement dialect = .ok (some issue.error) := by
    intro issue
    rw [mem_issuesFrom_iff hissues, List.mem_zipIdx_iff_getElem?]
  refine ⟨issues, hissues, pairwise_issuesFrom hissues, fun i => ⟨?_, ?_⟩, fun issue hissue => ?_⟩
  · rintro ⟨issue, hissue, rfl⟩
    obtain ⟨hstands, herror⟩ := (hmem issue).mp hissue
    exact ⟨issue.statement, hstands, exists_error_iff.mp ⟨issue.error, herror⟩⟩
  · rintro ⟨statement, hstands, hfails⟩
    obtain ⟨error, herror⟩ := exists_error_iff.mpr hfails
    exact ⟨⟨i, statement, error⟩, (hmem _).mpr ⟨hstands, herror⟩, rfl⟩
  · obtain ⟨hstands, herror⟩ := (hmem issue).mp hissue
    exact ⟨hstands, error_ne_empty herror⟩

/-- Nothing is reported exactly if no statement fails. -/
theorem ReportsFailures.eq_nil_iff {statements : List String} {issues : List Issue}
    (h : ReportsFailures parser dialect statements issues) :
    issues = [] ↔ ∀ statement ∈ statements, ¬ Fails parser dialect statement := by
  constructor
  · rintro rfl statement hmem hfails
    obtain ⟨i, hi⟩ := List.mem_iff_getElem?.mp hmem
    obtain ⟨issue, hissue, -⟩ := (h.exact i).mpr ⟨statement, hi, hfails⟩
    exact List.not_mem_nil hissue
  · intro hnone
    refine List.eq_nil_iff_forall_not_mem.mpr fun issue hissue => ?_
    obtain ⟨statement, hi, hfails⟩ := (h.exact issue.index).mp ⟨issue, hissue, rfl⟩
    exact hnone statement (List.mem_of_getElem? hi) hfails

/-! ## §3. Reports. -/

/-- A report says of a check of `total` statements what its issues say: it succeeds exactly if
there are none, and counts both. -/
structure Report.Summarises (report : Report) (issues : List Issue) (total : Nat) : Prop where
  success : report.success = true ↔ issues = []
  code : report.code = "ok" ↔ report.success = true
  count : report.data.lookup "count" = some (.int total)
  message : report.message = s!"{issues.length} of {total} statement(s) failed to parse"

theorem Report.summarises_ofCheck (source dialect : String) (total : Nat) (issues : List Issue) :
    (Report.ofCheck source dialect total issues).Summarises issues total where
  success := List.isEmpty_iff
  code := by
    unfold ofCheck
    cases issues.isEmpty <;> simp
  count := rfl
  message := rfl

end SqlStatements
