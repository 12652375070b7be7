/-
  SqlStatements.Proofs.Lexical.Grammar
  ────────────────────────────────────
  **The lexical grammar of a script, and that the scan accepts exactly it.**

  The grammar says what a span may hold, given the text and the span that follow it:

    • a terminator is one `;`,
    • other code holds no `;`, no quote and no position at which a comment begins, and no
      further code follows it but a terminator,
    • a line comment goes from `--` up to a line break or the end of the text,
    • a block comment goes from `/*` to the first `*/` behind it, or to the end,
    • a literal goes from its quote to a quote that is not doubled, or to the end.

  With comments off there are no comments, and comment markers are code.

  Main result: `lexed_iff_eq_scan` — a list of spans is a reading of a text by this
  grammar if and only if it is the scan.  For each rule the marks of its span are computed
  (`Span.WellFormed.marksFrom_append`), which makes a reading unique; every text begins
  with a well-formed span (`exists_lexed`).
-/
import SqlStatements.Proofs.Lexical.Literal

namespace SqlStatements.Lexical

/-! ## §1. The grammar. -/

/-- A run of text before `rest` in which every character is plain code where it stands. -/
def PlainRun (comments : Bool) (rest : List Char) : List Char → Prop
  | [] => True
  | c :: run => PlainCode comments c (run ++ rest).head? ∧ PlainRun comments rest run

/-- The spans that the grammar allows before a text `rest` that begins with the span
`next`, if any. -/
inductive Span.WellFormed (comments : Bool) : Span → List Char → Option Span → Prop where
  | terminator {start rest next} :
      WellFormed comments ⟨.code, start, [';'], true⟩ rest next
  | code {start run rest next} (plain : PlainRun comments rest run)
      (maximal : ∀ s ∈ next, s.state = .code → s.terminator = true) :
      WellFormed comments ⟨.code, start, run, false⟩ rest next
  | lineComment {start body rest next} (on : comments = true)
      (noBreak : ∀ c ∈ body, isLineBreak (some c) = false)
      (stop : rest = [] ∨ isLineBreak rest.head? = true) :
      WellFormed comments ⟨.lineComment, start, '-' :: '-' :: body, false⟩ rest next
  | blockComment {start body rest next} (on : comments = true)
      (inside : ¬ ['*', '/'] <:+: body) :
      WellFormed comments
        ⟨.blockComment, start, '/' :: '*' :: (body ++ ['*', '/']), false⟩ rest next
  | openBlockComment {start body next} (on : comments = true)
      (inside : ¬ ['*', '/'] <:+: body) :
      WellFormed comments ⟨.blockComment, start, '/' :: '*' :: body, false⟩ [] next
  | literal {state start q content rest next} (quote : State.quote? state = some q)
      (single : rest.head? ≠ some q) :
      WellFormed comments ⟨state, start, literal q content, false⟩ rest next
  | openLiteral {state start q content next} (quote : State.quote? state = some q) :
      WellFormed comments ⟨state, start, q :: doubled q content, false⟩ [] next

/-- Spans that cut a text from a position on into well-formed spans, none of them empty,
each beginning where the one before it ends. -/
inductive Lexed (comments : Bool) : Nat → List Char → List Span → Prop where
  | nil {position} : Lexed comments position [] []
  | cons {s rest spans} (nonempty : s.text ≠ [])
      (wellFormed : s.WellFormed comments rest spans.head?)
      (more : Lexed comments s.stop rest spans) :
      Lexed comments s.start (s.text ++ rest) (s :: spans)

/-! ## §2. The scan of a well-formed span. -/

/-- A step that reads no plain code is the same in a span of code and before it. -/
theorem Reads.fresh_irrelevant {comments fresh : Bool} {c : Char} {lookahead : Option Char}
    {m : Mark} {after : Mode} (h : Reads comments (.ready .code fresh) c lookahead m after)
    (hc : ¬ PlainCode comments c lookahead) (fresh' : Bool) :
    Reads comments (.ready .code fresh') c lookahead m after := by
  cases h with
  | terminator => exact .terminator
  | lineMarker on => exact .lineMarker on
  | blockMarker on => exact .blockMarker on
  | opening quote => exact .opening quote
  | plain code => exact absurd code hc
  | doubled quote | closing quote | content quote =>
      exact absurd rfl (State.quote?_ne_code quote)

/-- Whether a span of code ends before a text. -/
def EndsCode (comments : Bool) : List Char → Prop
  | [] => True
  | c :: rest => ¬ PlainCode comments c rest.head?

theorem EndsCode.marksFrom_eq {comments : Bool} {text : List Char} (h : EndsCode comments text)
    (fresh fresh' : Bool) :
    marksFrom comments (.ready .code fresh) text
      = marksFrom comments (.ready .code fresh') text := by
  cases text with
  | nil => rfl
  | cons c rest =>
      obtain ⟨m, after, step⟩ := exists_reads comments (.ready .code fresh) c rest.head?
      rw [step.marksFrom_cons, (step.fresh_irrelevant h fresh').marksFrom_cons]

/-- A run of plain code stays in code. -/
theorem marksFrom_plainRun (comments : Bool) (rest : List Char) :
    ∀ run, PlainRun comments rest run →
      marksFrom comments (.ready .code false) (run ++ rest)
        = run.map (⟨·, .code, false, false⟩) ++ marksFrom comments (.ready .code false) rest
  | [], _ => rfl
  | c :: run, ⟨hc, hrun⟩ => by
      have step : Reads comments (.ready .code false) c _ _ _ := .plain hc
      rw [List.cons_append, step.marksFrom_cons, marksFrom_plainRun comments rest run hrun]
      rfl

/-- The text of a line comment stays in the comment. -/
theorem marksFrom_lineText (comments : Bool) (rest : List Char) :
    ∀ body : List Char, (∀ c ∈ body, isLineBreak (some c) = false) →
      marksFrom comments (.ready .lineComment false) (body ++ rest)
        = body.map (⟨·, .lineComment, false, false⟩)
          ++ marksFrom comments (.ready .lineComment false) rest
  | [], _ => rfl
  | c :: body, h => by
      have step := @Reads.lineText comments false (body ++ rest).head? c (h c List.mem_cons_self)
      rw [List.cons_append, step.marksFrom_cons, marksFrom_lineText comments rest body
        fun d hd => h d (List.mem_cons_of_mem c hd)]
      rfl

/-- Behind a line comment the scan goes on as in code. -/
theorem marksFrom_lineEnd (comments : Bool) {fresh : Bool} {rest : List Char}
    (h : rest = [] ∨ isLineBreak rest.head? = true) :
    marksFrom comments (.ready .lineComment fresh) rest
      = marksFrom comments (.ready .code true) rest := by
  rcases h with rfl | h
  · rfl
  · cases rest with
    | nil => simp [isLineBreak] at h
    | cons c rest =>
        have hbreak := @Reads.lineEnd comments fresh rest.head? c h
        -- a line break is plain code, whatever follows it
        have hplain : PlainCode comments c rest.head? := by
          have hc : c = '\n' ∨ c = '\r' := by simpa [isLineBreak] using h
          rcases hc with rfl | rfl <;> simp [PlainCode, startsComment]
        have hcode : Reads comments (.ready .code true) c _ _ _ := .plain hplain
        rw [hbreak.marksFrom_cons, hcode.marksFrom_cons]

/-- The text of a block comment stays in the comment. -/
theorem marksFrom_blockText (comments : Bool) (rest : List Char) (hrest : rest.head? ≠ some '/') :
    ∀ body : List Char, ¬ ['*', '/'] <:+: body →
      marksFrom comments (.ready .blockComment false) (body ++ rest)
        = body.map (⟨·, .blockComment, false, false⟩)
          ++ marksFrom comments (.ready .blockComment false) rest
  | [], _ => rfl
  | c :: body, h => by
      -- the two characters of an end would stand in the text, or across its end
      have hc : ¬ (c = '*' ∧ (body ++ rest).head? = some '/') := by
        rintro ⟨rfl, hhead⟩
        cases body with
        | nil => exact hrest hhead
        | cons d body =>
            obtain rfl : d = '/' := by simpa using hhead
            exact h ⟨[], body, rfl⟩
      have step := @Reads.blockText comments false (body ++ rest).head? c hc
      have hbody : ¬ ['*', '/'] <:+: body := fun hclose =>
        h (hclose.trans (List.infix_cons (List.infix_refl body)))
      rw [List.cons_append, step.marksFrom_cons,
        marksFrom_blockText comments rest hrest body hbody]
      rfl

theorem marksFrom_codeSpan (comments : Bool) {c : Char} {run rest : List Char}
    (plain : PlainRun comments rest (c :: run)) (hends : EndsCode comments rest) (start : Nat) :
    marksFrom comments (.ready .code true) (c :: run ++ rest)
      = (⟨.code, start, c :: run, false⟩ : Span).marks
        ++ marksFrom comments (.ready .code true) rest := by
  have step : Reads comments (.ready .code true) c _ _ _ := .plain plain.1
  show marksFrom comments _ (c :: (run ++ rest)) = _
  rw [step.marksFrom_cons, marksFrom_plainRun comments rest run plain.2,
    hends.marksFrom_eq false true]
  rfl

theorem marksFrom_lineComment {body rest : List Char}
    (noBreak : ∀ c ∈ body, isLineBreak (some c) = false)
    (stop : rest = [] ∨ isLineBreak rest.head? = true) (start : Nat) :
    marksFrom true (.ready .code true) ('-' :: '-' :: body ++ rest)
      = (⟨.lineComment, start, '-' :: '-' :: body, false⟩ : Span).marks
        ++ marksFrom true (.ready .code true) rest := by
  show marksFrom true _ ('-' :: '-' :: (body ++ rest)) = _
  rw [Reads.marksFrom_cons (.lineMarker rfl), Reads.marksFrom_cons .second]
  show _ :: _ :: marksFrom true (.ready .lineComment false) (body ++ rest) = _
  rw [marksFrom_lineText true rest body noBreak, marksFrom_lineEnd true stop]
  rfl

theorem marksFrom_blockComment {body : List Char} (inside : ¬ ['*', '/'] <:+: body)
    (rest : List Char) (start : Nat) :
    marksFrom true (.ready .code true) ('/' :: '*' :: (body ++ ['*', '/']) ++ rest)
      = (⟨.blockComment, start, '/' :: '*' :: (body ++ ['*', '/']), false⟩ : Span).marks
        ++ marksFrom true (.ready .code true) rest := by
  -- the end of the comment is a step of two characters, like its beginning
  have last : marksFrom true (.ready .blockComment false) ('*' :: '/' :: rest)
      = ⟨'*', .blockComment, false, false⟩ :: ⟨'/', .blockComment, false, false⟩
        :: marksFrom true (.ready .code true) rest := by
    rw [Reads.marksFrom_cons .blockEnd, Reads.marksFrom_cons .second]
    rfl
  show marksFrom true _ ('/' :: '*' :: ((body ++ ['*', '/']) ++ rest)) = _
  rw [Reads.marksFrom_cons (.blockMarker rfl), Reads.marksFrom_cons .second, List.append_assoc]
  show _ :: _ :: marksFrom true (.ready .blockComment false) (body ++ '*' :: '/' :: rest) = _
  rw [marksFrom_blockText true _ (by simp) body inside, last]
  simp [Span.marks]

theorem marksFrom_openBlockComment {body : List Char} (inside : ¬ ['*', '/'] <:+: body)
    (start : Nat) :
    marksFrom true (.ready .code true) ('/' :: '*' :: body ++ [])
      = (⟨.blockComment, start, '/' :: '*' :: body, false⟩ : Span).marks
        ++ marksFrom true (.ready .code true) [] := by
  show marksFrom true _ ('/' :: '*' :: (body ++ [])) = _
  rw [Reads.marksFrom_cons (.blockMarker rfl), Reads.marksFrom_cons .second]
  show _ :: _ :: marksFrom true (.ready .blockComment false) (body ++ []) = _
  rw [marksFrom_blockText true [] (by simp) body inside]
  rfl

/-- **The scan of a well-formed span** is the span, and goes on afresh behind it. -/
theorem Span.WellFormed.marksFrom_append {comments : Bool} {s : Span} {rest : List Char}
    {next : Option Span} (h : s.WellFormed comments rest next) (hs : s.text ≠ [])
    (hnext : (∀ s' ∈ next, s'.state = .code → s'.terminator = true) → EndsCode comments rest) :
    marksFrom comments (.ready .code true) (s.text ++ rest)
      = s.marks ++ marksFrom comments (.ready .code true) rest := by
  cases h with
  | terminator => exact Reads.marksFrom_cons .terminator
  | @code start run _ _ plain maximal =>
      cases run with
      | nil => exact absurd rfl hs
      | cons c run => exact marksFrom_codeSpan comments plain (hnext maximal) start
  | lineComment on noBreak stop =>
      subst on
      exact marksFrom_lineComment noBreak stop _
  | blockComment on inside =>
      subst on
      exact marksFrom_blockComment inside rest _
  | openBlockComment on inside =>
      subst on
      exact marksFrom_openBlockComment inside _
  | literal quote single => exact marksFrom_literal comments quote true _ _ single
  | openLiteral quote =>
      rw [List.append_nil]
      exact (marksFrom_openLiteral comments quote true _ _).trans (List.append_nil _).symm

/-! ## §3. A reading is the scan. -/

/-- Behind code that no further code follows there is no plain code. -/
theorem Lexed.endsCode {comments : Bool} {position : Nat} {text : List Char} {spans : List Span}
    (h : Lexed comments position text spans)
    (hnext : ∀ s ∈ spans.head?, s.state = .code → s.terminator = true) :
    EndsCode comments text := by
  cases h with
  | nil => trivial
  | @cons s rest spans nonempty wellFormed more =>
      cases wellFormed with
      | terminator => exact fun plain => plain.1 rfl
      | code => exact absurd (hnext _ rfl rfl) (by simp)
      | lineComment on => exact fun plain => plain.2.2.2 on (.inl ⟨rfl, rfl⟩)
      | blockComment on => exact fun plain => plain.2.2.2 on (.inr ⟨rfl, rfl⟩)
      | openBlockComment on => exact fun plain => plain.2.2.2 on (.inr ⟨rfl, rfl⟩)
      | literal quote | openLiteral quote =>
          rcases State.quote?_cases quote with ⟨-, rfl⟩ | ⟨-, rfl⟩
          · exact fun plain => plain.2.1 rfl
          · exact fun plain => plain.2.2.1 rfl

/-- A reading of a text groups its marks. -/
theorem Lexed.groupMarks_eq {comments : Bool} {position : Nat} {text : List Char}
    {spans : List Span} (h : Lexed comments position text spans) :
    groupMarks position (marksFrom comments (.ready .code true) text) = spans := by
  induction h with
  | nil => rfl
  | @cons s rest spans nonempty wellFormed more ih =>
      rw [wellFormed.marksFrom_append nonempty more.endsCode,
        groupMarks_span s nonempty (opens_marksFrom_fresh comments .code rest), ih]

/-- A terminator is a single `;` of code. -/
theorem Span.WellFormed.of_terminator {comments : Bool} {s : Span} {rest : List Char}
    {next : Option Span} (h : s.WellFormed comments rest next) (hs : s.terminator = true) :
    s.text = [';'] ∧ s.state = .code := by
  cases h with
  | terminator => exact ⟨rfl, rfl⟩
  | _ => simp at hs

/-- A literal begins with its quote. -/
theorem Span.WellFormed.head?_literal {comments : Bool} {s : Span} {rest : List Char}
    {next : Option Span} (h : s.WellFormed comments rest next) {q : Char}
    (quote : s.state.quote? = some q) : s.text.head? = some q := by
  cases h with
  | literal quote' | openLiteral quote' =>
      obtain rfl := Option.some.inj (quote'.symm.trans quote)
      rfl
  | _ => simp [State.quote?] at quote

/-- No quote of its kind follows a literal. -/
theorem Span.WellFormed.head?_rest {comments : Bool} {s : Span} {rest : List Char}
    {next : Option Span} (h : s.WellFormed comments rest next) {q : Char}
    (quote : s.state.quote? = some q) : rest.head? ≠ some q := by
  cases h with
  | literal quote' single =>
      obtain rfl := Option.some.inj (quote'.symm.trans quote)
      exact single
  | openLiteral => simp
  | _ => simp [State.quote?] at quote

/-- Two literals of one kind do not stand next to each other. -/
theorem Lexed.not_adjacent {comments : Bool} {position : Nat} {rest : List Char}
    {spans : List Span} (more : Lexed comments position rest spans) {s : Span}
    (wellFormed : s.WellFormed comments rest spans.head?) (quoted : s.state.isQuoted = true) :
    ∀ next ∈ spans.head?, next.state ≠ s.state := by
  intro next hnext hstate
  obtain ⟨q, quote⟩ := State.exists_quote quoted
  cases more with
  | nil => simp at hnext
  | @cons s' rest' spans nonempty wellFormed' more =>
      obtain rfl : s' = next := by simpa using hnext
      rw [← hstate] at quote
      have hhead := wellFormed'.head?_literal quote
      rw [hstate] at quote
      apply wellFormed.head?_rest quote
      rw [List.head?_append, hhead]
      rfl

theorem Lexed.text_ne_nil {comments : Bool} {position : Nat} {text : List Char}
    {spans : List Span} (h : Lexed comments position text spans) : ∀ s ∈ spans, s.text ≠ [] := by
  induction h with
  | nil => simp
  | @cons s rest spans nonempty wellFormed more ih =>
      intro s' hs'
      rcases List.mem_cons.mp hs' with rfl | hs'
      · exact nonempty
      · exact ih s' hs'

theorem Lexed.text_of_terminator {comments : Bool} {position : Nat} {text : List Char}
    {spans : List Span} (h : Lexed comments position text spans) :
    ∀ s ∈ spans, s.terminator = true → s.text = [';'] := by
  induction h with
  | nil => simp
  | @cons s rest spans nonempty wellFormed more ih =>
      intro s' hs' hterminator
      rcases List.mem_cons.mp hs' with rfl | hs'
      · exact (wellFormed.of_terminator hterminator).1
      · exact ih s' hs' hterminator

/-- No span of a reading begins before its text. -/
theorem Lexed.le_start {comments : Bool} {position : Nat} {text : List Char} {spans : List Span}
    (h : Lexed comments position text spans) : ∀ s ∈ spans, position ≤ s.start := by
  induction h with
  | nil => simp
  | @cons s rest spans nonempty wellFormed more ih =>
      intro s' hs'
      rcases List.mem_cons.mp hs' with rfl | hs'
      · exact Nat.le_refl _
      · have hstop : s.stop ≤ s'.start := ih s' hs'
        unfold Span.stop at hstop
        omega

/-- No span comes twice. -/
theorem Lexed.not_mem {comments : Bool} {s : Span} {text : List Char} {spans : List Span}
    (h : Lexed comments s.stop text spans) (nonempty : s.text ≠ []) : s ∉ spans := by
  intro hmem
  have hstart : s.stop ≤ s.start := h.le_start s hmem
  have hlength : 0 < s.text.length := List.length_pos_iff.mpr nonempty
  unfold Span.stop at hstart
  omega

/-! ## §4. Every text has a reading. -/

/-- A text up to its first line break, and the rest. -/
theorem exists_lineText :
    ∀ text : List Char, ∃ body rest, text = body ++ rest
      ∧ (∀ c ∈ body, isLineBreak (some c) = false)
      ∧ (rest = [] ∨ isLineBreak rest.head? = true)
  | [] => ⟨[], [], rfl, by simp, .inl rfl⟩
  | c :: text => by
      cases hc : isLineBreak (some c) with
      | true => exact ⟨[], c :: text, rfl, by simp, .inr hc⟩
      | false =>
          obtain ⟨body, rest, htext, hbody, hrest⟩ := exists_lineText text
          refine ⟨c :: body, rest, by rw [htext]; rfl, ?_, hrest⟩
          rintro d hd
          rcases List.mem_cons.mp hd with rfl | hd
          · exact hc
          · exact hbody d hd

/-- A text up to its first `*/`, if there is one. -/
theorem exists_blockText :
    ∀ text : List Char, ∃ body, ¬ ['*', '/'] <:+: body
      ∧ ((∃ rest, text = body ++ '*' :: '/' :: rest) ∨ text = body)
  | [] => ⟨[], by simp, .inr rfl⟩
  | c :: text => by
      by_cases hc : c = '*' ∧ text.head? = some '/'
      · obtain ⟨rfl, hhead⟩ := hc
        cases text with
        | nil => simp at hhead
        | cons d text =>
            obtain rfl : d = '/' := by simpa using hhead
            exact ⟨[], by simp, .inl ⟨text, rfl⟩⟩
      · obtain ⟨body, hbody, htext⟩ := exists_blockText text
        refine ⟨c :: body, ?_, ?_⟩
        · -- a `*/` in `c :: body` that is not in `body` begins with `c`, which was excluded
          rw [List.infix_cons_iff]
          rintro (⟨rest, hprefix⟩ | hclose)
          · obtain ⟨hstar, hslash⟩ : '*' = c ∧ '/' :: rest = body := by simpa using hprefix
            refine hc ⟨hstar.symm, ?_⟩
            rcases htext with ⟨after, htext⟩ | htext <;> rw [htext, ← hslash] <;> rfl
          · exact hbody hclose
        · rcases htext with ⟨rest, htext⟩ | htext
          · exact .inl ⟨rest, by rw [htext]; rfl⟩
          · exact .inr (by rw [htext])

/-- The plain code that a text begins with, and the rest. -/
theorem exists_plainRun (comments : Bool) :
    ∀ text : List Char, ∃ run rest, text = run ++ rest
      ∧ PlainRun comments rest run ∧ EndsCode comments rest
  | [] => ⟨[], [], rfl, trivial, trivial⟩
  | c :: text => by
      by_cases hc : PlainCode comments c text.head?
      · obtain ⟨run, rest, htext, hrun, hrest⟩ := exists_plainRun comments text
        subst htext
        exact ⟨c :: run, rest, rfl, ⟨hc, hrun⟩, hrest⟩
      · exact ⟨[], c :: text, rfl, trivial, hc⟩

/-- A span that begins a text: it is well-formed before what is left of the text, whatever
the next span is, unless that one has to end a run of code. -/
def Begins (comments : Bool) (s : Span) (rest text : List Char) : Prop :=
  text = s.text ++ rest ∧ s.text ≠ []
    ∧ ∀ next : Option Span,
        (EndsCode comments rest → ∀ s' ∈ next, s'.state = .code → s'.terminator = true) →
        s.WellFormed comments rest next

theorem exists_begins_literal (comments : Bool) (position : Nat) {s : State} {q : Char}
    (quote : s.quote? = some q) (text : List Char) :
    ∃ span rest, span.start = position ∧ Begins comments span rest (q :: text) := by
  obtain ⟨content, ⟨rest, rfl, hrest⟩ | rfl⟩ := exists_doubled q text
  · exact ⟨⟨s, position, literal q content, false⟩, rest, rfl, by simp [literal],
      by simp [literal], fun _ _ => .literal quote hrest⟩
  · exact ⟨⟨s, position, q :: doubled q content, false⟩, [], rfl, by simp, by simp,
      fun _ _ => .openLiteral quote⟩

theorem exists_begins_lineComment (position : Nat) (text : List Char) :
    ∃ s rest, s.start = position ∧ Begins true s rest ('-' :: '-' :: text) := by
  obtain ⟨body, rest, rfl, hbody, hrest⟩ := exists_lineText text
  exact ⟨⟨.lineComment, position, '-' :: '-' :: body, false⟩, rest, rfl, rfl, by simp,
    fun _ _ => .lineComment rfl hbody hrest⟩

theorem exists_begins_blockComment (position : Nat) (text : List Char) :
    ∃ s rest, s.start = position ∧ Begins true s rest ('/' :: '*' :: text) := by
  obtain ⟨body, hbody, ⟨rest, rfl⟩ | rfl⟩ := exists_blockText text
  · exact ⟨⟨.blockComment, position, '/' :: '*' :: (body ++ ['*', '/']), false⟩, rest, rfl,
      by simp, by simp, fun _ _ => .blockComment rfl hbody⟩
  · exact ⟨⟨.blockComment, position, '/' :: '*' :: text, false⟩, [], rfl, by simp, by simp,
      fun _ _ => .openBlockComment rfl hbody⟩

theorem exists_begins_code (comments : Bool) (position : Nat) {c : Char} {text : List Char}
    (hc : PlainCode comments c text.head?) :
    ∃ s rest, s.start = position ∧ Begins comments s rest (c :: text) := by
  obtain ⟨run, rest, rfl, hrun, hrest⟩ := exists_plainRun comments text
  exact ⟨⟨.code, position, c :: run, false⟩, rest, rfl, rfl, by simp,
    fun _ hnext => .code ⟨hc, hrun⟩ (hnext hrest)⟩

/-- Every text that is not empty begins with some span. -/
theorem exists_begins (comments : Bool) (position : Nat) (c : Char) (text : List Char) :
    ∃ s rest, s.start = position ∧ Begins comments s rest (c :: text) := by
  -- the rule is told by the first two characters
  by_cases hsemi : c = ';'
  · subst hsemi
    exact ⟨⟨.code, position, [';'], true⟩, text, rfl, rfl, by simp, fun _ _ => .terminator⟩
  by_cases hsingle : c = '\''
  · subst hsingle
    exact exists_begins_literal comments position (s := .singleQuoted) rfl text
  by_cases hdouble : c = '"'
  · subst hdouble
    exact exists_begins_literal comments position (s := .doubleQuoted) rfl text
  by_cases hmarker : comments = true ∧ startsComment c text.head?
  · obtain ⟨rfl, hmarker⟩ := hmarker
    cases text with
    | nil => simp [startsComment] at hmarker
    | cons d text =>
        simp only [startsComment, List.head?_cons, Option.some.injEq] at hmarker
        rcases hmarker with ⟨rfl, rfl⟩ | ⟨rfl, rfl⟩
        · exact exists_begins_lineComment position text
        · exact exists_begins_blockComment position text
  · exact exists_begins_code comments position
      ⟨hsemi, hsingle, hdouble, fun on marker => hmarker ⟨on, marker⟩⟩

/-- Where a text does not go on with plain code, a reading of it does not either. -/
theorem Lexed.maximal {comments : Bool} {position : Nat} {text : List Char} {spans : List Span}
    (h : Lexed comments position text spans) (hends : EndsCode comments text) :
    ∀ s ∈ spans.head?, s.state = .code → s.terminator = true := by
  intro s hs hcode
  cases h with
  | nil => simp at hs
  | @cons s' rest spans nonempty wellFormed more =>
      obtain rfl : s' = s := by simpa using hs
      cases wellFormed with
      | terminator => rfl
      | @code start run _ _ plain =>
          cases run with
          | nil => exact absurd rfl nonempty
          | cons c run => exact absurd plain.1 hends
      | lineComment | blockComment | openBlockComment => simp at hcode
      | literal quote | openLiteral quote => exact absurd hcode (State.quote?_ne_code quote)

/-- **Every text has a reading**: its first span, and a reading of what is left. -/
theorem exists_lexed (comments : Bool) :
    ∀ (text : List Char) (position : Nat), ∃ spans, Lexed comments position text spans
  | [], _ => ⟨[], .nil⟩
  | c :: text, position => by
      obtain ⟨s, rest, rfl, htext, nonempty, wellFormed⟩ := exists_begins comments position c text
      have hlength : 0 < s.text.length := List.length_pos_iff.mpr nonempty
      have hsum : text.length + 1 = s.text.length + rest.length := by
        simpa using congrArg List.length htext
      have hshorter : rest.length < (c :: text).length := by
        simp only [List.length_cons]
        omega
      -- the reading of the rest says which span comes next, as the first span has to know
      obtain ⟨spans, more⟩ := exists_lexed comments rest s.stop
      rw [htext]
      exact ⟨s :: spans, .cons nonempty (wellFormed _ more.maximal) more⟩
termination_by text => text.length

/-- The scan of a text is a reading of it. -/
theorem lexed_scan (comments : Bool) (text : List Char) :
    Lexed comments 0 text (scan comments text .code) := by
  obtain ⟨spans, h⟩ := exists_lexed comments text 0
  have hscan : scan comments text .code = spans := h.groupMarks_eq
  rwa [hscan]

/-- **The scan accepts exactly the lexical grammar**: some spans are a reading of a text
from its beginning if and only if they are its scan. -/
theorem lexed_iff_eq_scan (comments : Bool) (text : List Char) (spans : List Span) :
    Lexed comments 0 text spans ↔ spans = scan comments text .code := by
  constructor
  · intro h
    exact h.groupMarks_eq.symm
  · rintro rfl
    obtain ⟨spans, h⟩ := exists_lexed comments text 0
    have hscan : spans = scan comments text .code := h.groupMarks_eq.symm
    rwa [← hscan]

/-- The `*` that opens a block comment is not the one that ends it: the comment of this
text is still open at its end. -/
example : scan true ['/', '*', '/', ';'] .code
    = [⟨.blockComment, 0, ['/', '*', '/', ';'], false⟩] := by decide

end SqlStatements.Lexical
