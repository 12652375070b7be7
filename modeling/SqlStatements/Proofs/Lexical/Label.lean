/-
  SqlStatements.Proofs.Lexical.Label
  ──────────────────────────────────
  **The label of a character: its state, and whether it is a terminator.**

  A label is what a mark says of its character alone; where spans begin is left out.
  The labels of a text without comments can be read without looking ahead: a quote in
  code opens a literal, the same quote inside ends it, and a doubled quote is an end and
  a beginning at once.  The scan takes a doubled quote in one step and stays inside, but
  gives both quotes to the same kind of literal, so the labels agree (`Mode.bare` relates
  the two readings).

  Main results:

    • `label_marksFrom_kept` — of any scan, what is left without the comments is labelled
      as the text that is left reads by itself,
    • `label_marksFrom_off`  — the scan with comments off is the reading without lookahead,
    • `marksFrom_comments_irrelevant` — where no comment is found, it does not matter
      whether comments are recognised.
-/
import SqlStatements.Proofs.Lexical.Step

namespace SqlStatements.Lexical

/-! ## §1. Labels. -/

/-- A mark without its account of where spans begin. -/
def Mark.label (m : Mark) : Mark := { m with opens := false }

@[simp] theorem Mark.label_char (m : Mark) : m.label.char = m.char := rfl
@[simp] theorem Mark.label_state (m : Mark) : m.label.state = m.state := rfl
@[simp] theorem Mark.label_terminator (m : Mark) : m.label.terminator = m.terminator := rfl

/-- The labels of the characters of a span. -/
def Span.labels (s : Span) : List Mark :=
  s.text.map fun c => ⟨c, s.state, s.terminator, false⟩

/-- The labels of the characters that some spans cover. -/
def labels (spans : List Span) : List Mark := spans.flatMap Span.labels

theorem labels_append (spans spans' : List Span) :
    labels (spans ++ spans') = labels spans ++ labels spans' :=
  List.flatMap_append

@[simp] theorem unmark_map_label (ms : List Mark) : unmark (ms.map Mark.label) = unmark ms := by
  simp [unmark, Function.comp_def]

@[simp] theorem unmark_nil : unmark [] = [] := rfl

@[simp] theorem unmark_cons (m : Mark) (ms : List Mark) :
    unmark (m :: ms) = m.char :: unmark ms := rfl

@[simp] theorem unmark_append (ms ms' : List Mark) :
    unmark (ms ++ ms') = unmark ms ++ unmark ms' := by
  simp [unmark]

theorem char_mem_head?_unmark {ms : List Mark} {m : Mark} (h : m ∈ ms.head?) :
    m.char ∈ (unmark ms).head? := by
  rw [unmark, List.head?_map, h]
  rfl

theorem char_mem_getLast?_unmark {ms : List Mark} {m : Mark} (h : m ∈ ms.getLast?) :
    m.char ∈ (unmark ms).getLast? := by
  rw [unmark, List.getLast?_map, h]
  rfl

/-! ## §2. Reading without lookahead. -/

/-- The literal that a character of code opens; any other character is code. -/
def State.opened (c : Char) : State :=
  if c = '\'' then .singleQuoted else if c = '"' then .doubleQuoted else .code

/-- The label of a character that is read in a state. -/
def State.label (state : State) (c : Char) : Mark :=
  if state = .code then ⟨c, State.opened c, c = ';', false⟩ else ⟨c, state, false, false⟩

/-- The state after a character that is read in a state. -/
def State.after (state : State) (c : Char) : State :=
  if state = .code then State.opened c
  else if state.quote? = some c then .code
  else state

/-- The labels of a text without comments that is read from a state. -/
def labelsFrom : State → List Char → List Mark
  | _, [] => []
  | state, c :: rest => state.label c :: labelsFrom (state.after c) rest

/-- The state after a text without comments. -/
def stateAfter (state : State) (text : List Char) : State :=
  text.foldl State.after state

@[simp] theorem State.label_char (state : State) (c : Char) : (state.label c).char = c := by
  unfold State.label
  split <;> rfl

theorem State.opened_of_quote? {s : State} {q : Char} (h : s.quote? = some q) :
    State.opened q = s := by
  rcases State.quote?_cases h with ⟨rfl, rfl⟩ | ⟨rfl, rfl⟩ <;> rfl

theorem State.opened_plain {c : Char} (hs : c ≠ '\'') (hd : c ≠ '"') : State.opened c = .code := by
  simp [State.opened, hs, hd]

theorem unmark_labelsFrom (state : State) (text : List Char) :
    unmark (labelsFrom state text) = text := by
  induction text generalizing state with
  | nil => rfl
  | cons c rest ih =>
      show (state.label c).char :: unmark (labelsFrom (state.after c) rest) = c :: rest
      rw [State.label_char, ih]

theorem length_labelsFrom (state : State) (text : List Char) :
    (labelsFrom state text).length = text.length := by
  rw [← List.length_map Mark.char]
  exact congrArg List.length (unmark_labelsFrom state text)

theorem stateAfter_append (state : State) (xs ys : List Char) :
    stateAfter state (xs ++ ys) = stateAfter (stateAfter state xs) ys := by
  simp [stateAfter, List.foldl_append]

/-- Without lookahead a text is read in parts wherever it is cut. -/
theorem labelsFrom_append (state : State) (xs ys : List Char) :
    labelsFrom state (xs ++ ys)
      = labelsFrom state xs ++ labelsFrom (stateAfter state xs) ys := by
  induction xs generalizing state with
  | nil => rfl
  | cons c xs ih =>
      show state.label c :: labelsFrom (state.after c) (xs ++ ys) = _
      rw [ih]
      rfl

/-! ## §3. The two readings side by side. -/

/-- The state in which a text without comments is read on while the scan is in a mode.
A comment stands in code; the second of two quotes opens again what the first closed. -/
def Mode.bare : Mode → State
  | .ready s _ => if s.isComment then .code else s
  | .owed _ _ => .code

@[simp] theorem Mode.bare_code (fresh : Bool) : (Mode.ready .code fresh).bare = .code := rfl

@[simp] theorem Mode.bare_owed (owner next : State) : (Mode.owed owner next).bare = .code := rfl

theorem Mode.bare_kept {s : State} (h : s.isComment = false) (fresh : Bool) :
    (Mode.ready s fresh).bare = s := by
  simp [Mode.bare, h]

/-- What a mode knows of the next character: a mode that owes the second half of a step
stands before that half. -/
inductive Mode.Owes : Mode → Option Char → Prop where
  | ready {s fresh next} : Owes (.ready s fresh) next
  | lineMarker : Owes (.owed .lineComment .lineComment) (some '-')
  | blockMarker : Owes (.owed .blockComment .blockComment) (some '*')
  | blockEnd : Owes (.owed .blockComment .code) (some '/')
  | doubled {s q} (quote : State.quote? s = some q) : Owes (.owed s s) (some q)

theorem Reads.owes {comments : Bool} {mode : Mode} {c : Char} {lookahead : Option Char}
    {m : Mark} {after : Mode} (h : Reads comments mode c lookahead m after) :
    after.Owes lookahead := by
  cases h with
  | lineMarker => exact .lineMarker
  | blockMarker => exact .blockMarker
  | blockEnd => exact .blockEnd
  | doubled quote => exact .doubled quote
  | _ => exact .ready

/-- A character of a comment leaves the reading of the rest where it was. -/
theorem Reads.bare_comment {comments : Bool} {mode : Mode} {c : Char} {lookahead : Option Char}
    {m : Mark} {after : Mode} (h : Reads comments mode c lookahead m after)
    (howes : mode.Owes (some c)) (hm : m.state.isComment = true) : after.bare = mode.bare := by
  cases h with
  | terminator | plain | lineEnd => simp [State.isComment] at hm
  | opening quote | doubled quote | closing quote | content quote =>
      simp [State.quote?_not_comment quote] at hm
  | second =>
      cases howes with
      | doubled quote => simp [State.quote?_not_comment quote] at hm
      | _ => rfl
  | _ => rfl

/-- Every other character is labelled alike by both readings, and both go on alike. -/
theorem Reads.bare_kept {comments : Bool} {mode : Mode} {c : Char} {lookahead : Option Char}
    {m : Mark} {after : Mode} (h : Reads comments mode c lookahead m after)
    (howes : mode.Owes (some c)) (hm : m.state.isComment = false) :
    m.label = mode.bare.label c ∧ after.bare = mode.bare.after c := by
  cases h with
  | terminator => exact ⟨rfl, rfl⟩
  | lineMarker | blockMarker | lineText | blockEnd | blockText => simp [State.isComment] at hm
  -- a quote in code is the first character of the literal that it opens
  | opening quote =>
      have hcomment := State.quote?_not_comment quote
      have hopened := State.opened_of_quote? quote
      have hsemi : c ≠ ';' := (State.quote?_ne quote).1
      exact ⟨by simp [State.label, Mark.label, hopened, hsemi],
        by simp [Mode.bare_kept hcomment, State.after, hopened]⟩
  | plain code =>
      obtain ⟨hsemi, hsingle, hdouble, -⟩ := code
      have hopened := State.opened_plain hsingle hdouble
      exact ⟨by simp [State.label, Mark.label, hopened, hsemi],
        by simp [State.after, hopened]⟩
  | lineEnd atBreak =>
      have hc : c = '\n' ∨ c = '\r' := by simpa [isLineBreak] using atBreak
      rcases hc with rfl | rfl <;> exact ⟨rfl, rfl⟩
  -- inside a literal the reading without lookahead ends at every quote
  | doubled quote | closing quote =>
      have hcode := State.quote?_ne_code quote
      exact ⟨by simp [Mode.bare_kept hm, State.label, hcode, Mark.label],
        by simp [Mode.bare_kept hm, State.after, hcode, quote]⟩
  | content quote other =>
      have hcode := State.quote?_ne_code quote
      exact ⟨by simp [Mode.bare_kept hm, State.label, hcode, Mark.label],
        by simp [Mode.bare_kept hm, State.after, hcode, quote, other.symm]⟩
  | second =>
      -- only the second of two quotes is owed to anything but a comment
      cases howes with
      | lineMarker | blockMarker | blockEnd => simp [State.isComment] at hm
      | doubled quote =>
          have hopened := State.opened_of_quote? quote
          have hsemi : c ≠ ';' := (State.quote?_ne quote).1
          exact ⟨by simp [State.label, Mark.label, hopened, hsemi],
            by simp [Mode.bare_kept hm, State.after, hopened]⟩

/-! ## §4. Whole runs. -/

/-- The marks of the characters that are in no comment. -/
def kept (ms : List Mark) : List Mark := ms.filter (!·.state.isComment)

theorem kept_append (xs ys : List Mark) : kept (xs ++ ys) = kept xs ++ kept ys :=
  List.filter_append xs ys

theorem kept_cons_comment {m : Mark} (h : m.state.isComment = true) (ms : List Mark) :
    kept (m :: ms) = kept ms := by
  simp [kept, h]

theorem kept_cons_kept {m : Mark} (h : m.state.isComment = false) (ms : List Mark) :
    kept (m :: ms) = m :: kept ms := by
  simp [kept, h]

theorem kept_eq_self {ms : List Mark} (h : ∀ m ∈ ms, m.state.isComment = false) : kept ms = ms :=
  List.filter_eq_self.mpr fun m hm => by simp [h m hm]

theorem kept_eq_nil {ms : List Mark} (h : ∀ m ∈ ms, m.state.isComment = true) : kept ms = [] :=
  List.filter_eq_nil_iff.mpr fun m hm => by simp [h m hm]

/-- **What a scan leaves without the comments is labelled as it reads by itself.** -/
theorem label_marksFrom_kept (comments : Bool) :
    ∀ (text : List Char) (mode : Mode), mode.Owes text.head? →
      (kept (marksFrom comments mode text)).map Mark.label
        = labelsFrom mode.bare (unmark (kept (marksFrom comments mode text)))
  | [], _, _ => rfl
  | c :: rest, mode, howes => by
      -- the two readings are kept together by `Mode.bare`, whatever the step
      obtain ⟨m, after, step⟩ := exists_reads comments mode c rest.head?
      have ih := label_marksFrom_kept comments rest after step.owes
      rw [step.marksFrom_cons]
      cases hm : m.state.isComment with
      | true => rw [kept_cons_comment hm, ih, step.bare_comment howes hm]
      | false =>
          obtain ⟨hlabel, hafter⟩ := step.bare_kept howes hm
          rw [kept_cons_kept hm, List.map_cons, unmark_cons, step.char, ih, hlabel, hafter]
          rfl

/-- The scan and the reading of what it leaves end alike. -/
theorem bare_modeAfter (comments : Bool) :
    ∀ (text : List Char) (mode : Mode), mode.Owes text.head? →
      (modeAfter comments mode text).bare
        = stateAfter mode.bare (unmark (kept (marksFrom comments mode text)))
  | [], _, _ => rfl
  | c :: rest, mode, howes => by
      obtain ⟨m, after, step⟩ := exists_reads comments mode c rest.head?
      -- a comment moves neither reading, every other character moves both alike
      have ih := bare_modeAfter comments rest after step.owes
      rw [step.marksFrom_cons, step.modeAfter_cons, ih]
      cases hm : m.state.isComment with
      | true => rw [kept_cons_comment hm, step.bare_comment howes hm]
      | false =>
          rw [kept_cons_kept hm, unmark_cons, step.char, (step.bare_kept howes hm).2]
          rfl

/-! ## §5. Comments off. -/

/-- Whether the next character may belong to a comment even with comments off. -/
def Mode.inComment : Mode → Bool
  | .ready s _ => s.isComment
  | .owed owner next => owner.isComment || next.isComment

/-- With comments off no comment begins. -/
theorem Reads.off {mode : Mode} {c : Char} {lookahead : Option Char} {m : Mark} {after : Mode}
    (h : Reads false mode c lookahead m after) (hmode : mode.inComment = false) :
    m.state.isComment = false ∧ after.inComment = false := by
  cases h with
  | terminator | plain => exact ⟨rfl, rfl⟩
  | lineMarker on | blockMarker on => simp at on
  | lineEnd | lineText | blockEnd | blockText => simp [Mode.inComment, State.isComment] at hmode
  | opening quote =>
      have hcomment := State.quote?_not_comment quote
      exact ⟨hcomment, hcomment⟩
  | doubled quote =>
      have hcomment := State.quote?_not_comment quote
      exact ⟨hcomment, by simp [Mode.inComment, hcomment]⟩
  | closing quote => exact ⟨hmode, rfl⟩
  | content quote => exact ⟨hmode, hmode⟩
  | second => simpa [Mode.inComment] using hmode

theorem kept_marksFrom_off :
    ∀ (text : List Char) (mode : Mode), mode.inComment = false →
      kept (marksFrom false mode text) = marksFrom false mode text
  | [], _, _ => rfl
  | c :: rest, mode, hmode => by
      obtain ⟨m, after, step⟩ := exists_reads false mode c rest.head?
      obtain ⟨hm, hafter⟩ := step.off hmode
      rw [step.marksFrom_cons, kept_cons_kept hm, kept_marksFrom_off rest after hafter]

/-- **With comments off the scan labels as the reading without lookahead.** -/
theorem label_marksFrom_off (text : List Char) {state : State} (h : state.isComment = false)
    (fresh : Bool) :
    (marksFrom false (.ready state fresh) text).map Mark.label = labelsFrom state text := by
  have hkept := kept_marksFrom_off text (.ready state fresh) h
  -- nothing is left out, so what is left is the text
  have key := label_marksFrom_kept false text (.ready state fresh) .ready
  rwa [hkept, unmark_marksFrom, Mode.bare_kept h] at key

/-- With comments off the scan ends where the reading does. -/
theorem bare_modeAfter_off (text : List Char) {state : State} (h : state.isComment = false)
    (fresh : Bool) :
    (modeAfter false (.ready state fresh) text).bare = stateAfter state text := by
  have hkept := kept_marksFrom_off text (.ready state fresh) h
  have key := bare_modeAfter false text (.ready state fresh) .ready
  rwa [hkept, unmark_marksFrom, Mode.bare_kept h] at key

/-! ## §6. Texts in which no comment is found. -/

/-- A character outside comments is read alike whether comments are recognised or not. -/
theorem Reads.comments_irrelevant {mode : Mode} {c : Char} {lookahead : Option Char} {m : Mark}
    {after : Mode} (h : Reads true mode c lookahead m after) (hm : m.state.isComment = false) :
    Reads false mode c lookahead m after := by
  cases h with
  | terminator => exact .terminator
  | lineMarker | blockMarker | lineText | blockEnd | blockText => simp [State.isComment] at hm
  | opening quote => exact .opening quote
  | plain code => exact .plain ⟨code.1, code.2.1, code.2.2.1, by simp⟩
  | lineEnd atBreak => exact .lineEnd atBreak
  | doubled quote => exact .doubled quote
  | closing quote single => exact .closing quote single
  | content quote other => exact .content quote other
  | second => exact .second

/-- **Where no comment is found, it does not matter whether comments are recognised.** -/
theorem marksFrom_comments_irrelevant :
    ∀ (text : List Char) (mode : Mode),
      (∀ m ∈ marksFrom true mode text, m.state.isComment = false) →
      marksFrom true mode text = marksFrom false mode text
  | [], _, _ => rfl
  | c :: rest, mode, hnone => by
      obtain ⟨m, after, step⟩ := exists_reads true mode c rest.head?
      rw [step.marksFrom_cons] at hnone ⊢
      -- the first mark is of no comment, so its step is also one with comments off
      have off := step.comments_irrelevant (hnone m List.mem_cons_self)
      have ih := marksFrom_comments_irrelevant rest after
        fun m' hm' => hnone m' (List.mem_cons_of_mem m hm')
      rw [off.marksFrom_cons, ih]

/-- Nor does it matter to where the scan ends. -/
theorem modeAfter_comments_irrelevant :
    ∀ (text : List Char) (mode : Mode),
      (∀ m ∈ marksFrom true mode text, m.state.isComment = false) →
      modeAfter true mode text = modeAfter false mode text
  | [], _, _ => rfl
  | c :: rest, mode, hnone => by
      obtain ⟨m, after, step⟩ := exists_reads true mode c rest.head?
      rw [step.marksFrom_cons] at hnone
      have off := step.comments_irrelevant (hnone m List.mem_cons_self)
      rw [step.modeAfter_cons, off.modeAfter_cons]
      exact modeAfter_comments_irrelevant rest after
        fun m' hm' => hnone m' (List.mem_cons_of_mem m hm')

/-! ## §7. Labels that agree with their own text. -/

/-- Labels that are those of their own characters, read from one state to another. -/
inductive Labelled : State → List Mark → State → Prop where
  | nil {s : State} : Labelled s [] s
  | cons {s s' : State} {c : Char} {ms : List Mark} (rest : Labelled (s.after c) ms s') :
      Labelled s (s.label c :: ms) s'

theorem labelled_labelsFrom :
    ∀ (text : List Char) (s : State), Labelled s (labelsFrom s text) (stateAfter s text)
  | [], _ => .nil
  | c :: rest, s => .cons (labelled_labelsFrom rest (s.after c))

theorem Labelled.labelsFrom_eq {s s' : State} {ms : List Mark} (h : Labelled s ms s') :
    labelsFrom s (unmark ms) = ms ∧ stateAfter s (unmark ms) = s' := by
  induction h with
  | nil => exact ⟨rfl, rfl⟩
  | @cons s s' c ms rest ih =>
      obtain ⟨hlabels, hafter⟩ := ih
      rw [unmark_cons, State.label_char]
      refine ⟨?_, hafter⟩
      show s.label c :: labelsFrom (s.after c) (unmark ms) = _
      rw [hlabels]

theorem Labelled.append {s s' s'' : State} {xs ys : List Mark} (hx : Labelled s xs s')
    (hy : Labelled s' ys s'') : Labelled s (xs ++ ys) s'' := by
  induction hx with
  | nil => exact hy
  | cons rest ih => exact .cons (ih hy)

theorem Labelled.of_append {s s'' : State} {xs ys : List Mark} (h : Labelled s (xs ++ ys) s'') :
    ∃ s', Labelled s xs s' ∧ Labelled s' ys s'' := by
  induction xs generalizing s with
  | nil => exact ⟨s, .nil, h⟩
  | cons m xs ih =>
      cases h with
      | cons rest =>
          obtain ⟨s', hx, hy⟩ := ih rest
          exact ⟨s', .cons hx, hy⟩

/-- A character of code is read in code and leads to code. -/
theorem State.of_label_code {s : State} {c : Char} (h : (s.label c).state = .code) :
    s = .code ∧ s.after c = .code := by
  by_cases hs : s = .code
  · subst hs
    exact ⟨rfl, h⟩
  · simp [State.label, hs] at h

/-- A terminator is a `;` that is read in code. -/
theorem State.of_label_terminator {s : State} {c : Char} (h : (s.label c).terminator = true) :
    s = .code ∧ c = ';' := by
  by_cases hs : s = .code
  · subst hs
    exact ⟨rfl, by simpa [State.label] using h⟩
  · simp [State.label, hs] at h

theorem Labelled.char_of_terminator {s s' : State} {ms : List Mark} (h : Labelled s ms s') :
    ∀ m ∈ ms, m.terminator = true → m.char = ';' := by
  induction h with
  | nil => simp
  | @cons s s' c ms rest ih =>
      intro m hm hterminator
      rcases List.mem_cons.mp hm with rfl | hm
      · rw [State.label_char]
        exact (State.of_label_terminator hterminator).2
      · exact ih m hm hterminator

/-- A text is read to code up to a terminator, and from code behind it. -/
theorem Labelled.at_terminator {s s' : State} {m : Mark} {xs ys : List Mark}
    (h : Labelled s (xs ++ m :: ys) s') (hm : m.terminator = true) :
    Labelled s xs .code ∧ Labelled .code ys s' := by
  obtain ⟨state, hxs, hrest⟩ := h.of_append
  cases hrest with
  | cons rest =>
      obtain ⟨rfl, rfl⟩ := State.of_label_terminator hm
      exact ⟨hxs, rest⟩

/-- Behind a terminator everything is read from code. -/
theorem Labelled.behind_terminator {s s' : State} {m : Mark} {ms : List Mark}
    (h : Labelled s (m :: ms) s') (hm : m.terminator = true) : Labelled .code ms s' :=
  (Labelled.at_terminator (show Labelled s ([] ++ m :: ms) s' from h) hm).2

/-- Over labels that are all code the state does not change. -/
theorem Labelled.of_code {s s' : State} {ms : List Mark} (h : Labelled s ms s')
    (hcode : ∀ m ∈ ms, m.state = .code) : s' = s := by
  induction h with
  | nil => rfl
  | cons rest ih =>
      obtain ⟨hs, hafter⟩ := State.of_label_code (hcode _ List.mem_cons_self)
      rw [ih fun m hm => hcode m (List.mem_cons_of_mem _ hm), hafter, hs]

end SqlStatements.Lexical
