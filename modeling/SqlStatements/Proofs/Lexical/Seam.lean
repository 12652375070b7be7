/-
  SqlStatements.Proofs.Lexical.Seam
  ─────────────────────────────────
  **Reading a text in parts.**

  The scan looks one character ahead, so the end of a first part is read with nothing
  behind it where the whole text has a character there.  That makes a difference only
  where the two characters at the seam are taken in one step: the characters of a comment
  marker, of the end of a block comment, or of a doubled quote (`Separate` says that they
  are none of these).

  Main results:

    • `marksFrom_append`, `modeAfter_append` — at a seam of separate characters the parts
      are read one after the other,
    • `map_label_marksFrom_append` — the labels of the parts also follow one another at a
      doubled quote, if the first part ends in code,
    • `mem_scan_literal` — a literal behind code is a span of the whole text,
    • `exists_splitOnP_terminator` — between two terminators a script is read as a script
      of its own.
-/
import SqlStatements.Proofs.Lexical.Literal
import SqlStatements.Proofs.Text.Cutting

namespace SqlStatements.Lexical

open Text

/-! ## §1. Separate characters. -/

/-- Whether no step takes the two characters together. -/
def Separate (c d : Char) : Prop :=
  ¬ (c = '-' ∧ d = '-') ∧ ¬ (c = '/' ∧ d = '*') ∧ ¬ (c = '*' ∧ d = '/')
    ∧ ¬ (c = d ∧ (c = '\'' ∨ c = '"'))

theorem separate_terminator (c : Char) : Separate c ';' := by
  refine ⟨by simp, by simp, by simp, ?_⟩
  rintro ⟨rfl, h⟩
  revert h
  decide

theorem separate_quote {s : State} {q : Char} (quote : s.quote? = some q) {c : Char}
    (h : c ≠ q) : Separate c q := by
  obtain ⟨-, hdash, hslash, hstar⟩ := State.quote?_ne quote
  exact ⟨fun h => hdash h.2, fun h => hstar h.2, fun h => hslash h.2, fun h' => h h'.1⟩

/-- At the end of a text a character is read as before one that is separate from it. -/
theorem Reads.before_separate {comments : Bool} {mode : Mode} {c d : Char} {m : Mark}
    {after : Mode} (h : Reads comments mode c none m after) (hsep : Separate c d) :
    Reads comments mode c (some d) m after := by
  obtain ⟨hline, hblock, hend, hquote⟩ := hsep
  cases h with
  | terminator => exact .terminator
  | opening quote => exact .opening quote
  | plain code =>
      refine .plain ⟨code.1, code.2.1, code.2.2.1, fun _ marker => ?_⟩
      rcases marker with ⟨hc, hd⟩ | ⟨hc, hd⟩
      · exact hline ⟨hc, Option.some.inj hd⟩
      · exact hblock ⟨hc, Option.some.inj hd⟩
  | lineEnd atBreak => exact .lineEnd atBreak
  | lineText noBreak => exact .lineText noBreak
  | blockText => exact .blockText fun h => hend ⟨h.1, Option.some.inj h.2⟩
  | closing quote =>
      refine .closing quote fun h => hquote ⟨(Option.some.inj h).symm, ?_⟩
      rcases State.quote?_cases quote with ⟨-, hc⟩ | ⟨-, hc⟩
      · exact .inl hc
      · exact .inr hc
  | content quote other => exact .content quote other
  | second => exact .second

/-- Before a separate character a character is read as at the end of a text. -/
theorem Reads.at_end {comments : Bool} {mode : Mode} {c d : Char} {m : Mark} {after : Mode}
    (h : Reads comments mode c (some d) m after) (hsep : Separate c d) :
    Reads comments mode c none m after := by
  obtain ⟨m', after', step⟩ := exists_reads comments mode c none
  have heq : (m', after') = (m, after) := by
    rw [← h.advance_eq, ← (step.before_separate hsep).advance_eq]
  obtain ⟨rfl, rfl⟩ := Prod.mk.inj heq
  exact step

theorem advance_separate (comments : Bool) (mode : Mode) {c d : Char} (h : Separate c d) :
    mode.advance comments c (some d) = mode.advance comments c none := by
  obtain ⟨m, after, step⟩ := exists_reads comments mode c none
  rw [step.advance_eq, (step.before_separate h).advance_eq]

/-! ## §2. Two parts. -/

/-- Whether the last character of a text and the first of another are separate. -/
def SeparateAt (xs ys : List Char) : Prop :=
  ∀ c ∈ xs.getLast?, ∀ d ∈ ys.head?, Separate c d

theorem SeparateAt.tail {c d : Char} {xs ys : List Char} (h : SeparateAt (c :: d :: xs) ys) :
    SeparateAt (d :: xs) ys := by
  intro x hx
  exact h x (by simpa using hx)

/-- A single last character is read as it is before the next part. -/
theorem SeparateAt.advance_eq (comments : Bool) (mode : Mode) {c : Char} {ys : List Char}
    (h : SeparateAt [c] ys) :
    mode.advance comments c ys.head? = mode.advance comments c none := by
  cases ys with
  | nil => rfl
  | cons d ys => exact advance_separate comments mode (h c rfl d rfl)

/-- **Two parts with a seam of separate characters are read one after the other.** -/
theorem marksFrom_append (comments : Bool) {ys : List Char} :
    ∀ (xs : List Char) (mode : Mode), SeparateAt xs ys →
      marksFrom comments mode (xs ++ ys)
        = marksFrom comments mode xs ++ marksFrom comments (modeAfter comments mode xs) ys
  | [], _, _ => rfl
  | [c], mode, h => by
      show (mode.advance comments c ys.head?).1
          :: marksFrom comments (mode.advance comments c ys.head?).2 ys = _
      rw [h.advance_eq comments mode]
      rfl
  | c :: d :: xs, mode, h => by
      -- only the last character of the first part looks into the second
      have ih := marksFrom_append comments (d :: xs) (mode.advance comments c (some d)).2 h.tail
      show _ :: marksFrom comments (mode.advance comments c (some d)).2 (d :: xs ++ ys) = _
      rw [ih]
      rfl

theorem modeAfter_append (comments : Bool) {ys : List Char} :
    ∀ (xs : List Char) (mode : Mode), SeparateAt xs ys →
      modeAfter comments mode (xs ++ ys) = modeAfter comments (modeAfter comments mode xs) ys
  | [], _, _ => rfl
  | [c], mode, h => by
      show modeAfter comments (mode.advance comments c ys.head?).2 ys = _
      rw [h.advance_eq comments mode]
      rfl
  | c :: d :: xs, mode, h =>
      modeAfter_append comments (d :: xs) (mode.advance comments c (some d)).2 h.tail

/-- A text does not end in the middle of a step. -/
theorem owes_modeAfter (comments : Bool) :
    ∀ (text : List Char) (mode : Mode), mode.Owes text.head? →
      (modeAfter comments mode text).Owes none
  | [], _, howes => howes
  | c :: rest, mode, _ => by
      obtain ⟨m, after, step⟩ := exists_reads comments mode c rest.head?
      rw [step.modeAfter_cons]
      exact owes_modeAfter comments rest after step.owes

/-- The state in which the scan of a script ends. -/
def endState (comments : Bool) (text : List Char) : State :=
  match modeAfter comments (.ready .code true) text with
  | .ready s _ => s
  | .owed _ next => next

theorem exists_modeAfter_eq (comments : Bool) (text : List Char) :
    ∃ fresh, modeAfter comments (.ready .code true) text
      = .ready (endState comments text) fresh := by
  have howes := owes_modeAfter comments text (.ready .code true) .ready
  unfold endState
  cases h : modeAfter comments (.ready .code true) text with
  | ready s fresh => exact ⟨fresh, rfl⟩
  | owed owner next =>
      rw [h] at howes
      cases howes

/-- With comments off a mode outside comments is followed by modes outside comments. -/
theorem inComment_modeAfter_off :
    ∀ (text : List Char) (mode : Mode), mode.inComment = false →
      (modeAfter false mode text).inComment = false
  | [], _, hmode => hmode
  | c :: rest, mode, hmode => by
      obtain ⟨m, after, step⟩ := exists_reads false mode c rest.head?
      rw [step.modeAfter_cons]
      exact inComment_modeAfter_off rest after (step.off hmode).2

/-- With comments off the scan of a script ends where the reading without lookahead does. -/
theorem endState_off (text : List Char) : endState false text = stateAfter .code text := by
  obtain ⟨fresh, hmode⟩ := exists_modeAfter_eq false text
  -- the mode at the end is outside comments, so the reading is in its state
  have hcomment := inComment_modeAfter_off text (.ready .code true) rfl
  have hbare : (modeAfter false (.ready .code true) text).bare = stateAfter .code text :=
    bare_modeAfter_off text rfl true
  rw [hmode] at hcomment hbare
  rwa [Mode.bare_kept hcomment] at hbare

/-! ## §3. A literal between two parts. -/

section
variable (comments : Bool) {s : State} {q : Char} (quote : s.quote? = some q)
include quote

theorem separateAt_literal {xs : List Char} (h : xs.getLast? ≠ some q) (content ys : List Char) :
    SeparateAt xs (literal q content ++ ys) := by
  intro c hc d hd
  obtain rfl : q = d := by simpa [literal] using hd
  refine separate_quote quote ?_
  rintro rfl
  exact h hc

/-- Behind code, and with no quote of its kind next to it, a literal is read by itself. -/
theorem marks_literal {xs ys : List Char} (hcode : endState comments xs = .code)
    (hlast : xs.getLast? ≠ some q) (hfirst : ys.head? ≠ some q) (content : List Char)
    (start : Nat) :
    marks comments (xs ++ literal q content ++ ys) .code
      = marks comments xs .code
        ++ ((⟨s, start, literal q content, false⟩ : Span).marks ++ marks comments ys .code) := by
  obtain ⟨fresh, hmode⟩ := exists_modeAfter_eq comments xs
  rw [hcode] at hmode
  rw [marks, List.append_assoc,
    marksFrom_append comments xs _ (separateAt_literal quote hlast content ys), hmode,
    marksFrom_literal comments quote fresh content start hfirst]
  rfl

/-- **A literal behind code is one span**, if no quote of its kind stands next to it. -/
theorem mem_scan_literal {xs ys : List Char} (hcode : endState comments xs = .code)
    (hlast : xs.getLast? ≠ some q) (hfirst : ys.head? ≠ some q) (content : List Char) :
    ⟨s, xs.length, literal q content, false⟩
      ∈ scan comments (xs ++ literal q content ++ ys) .code := by
  have hopens : ∀ m ∈ ((⟨s, xs.length, literal q content, false⟩ : Span).marks
      ++ marks comments ys .code).head?, m.opens = true := by
    simp [Span.marks, literal]
  have hlength : 0 + (marks comments xs .code).length = xs.length := by
    rw [Nat.zero_add]
    exact length_marksFrom comments _ xs
  -- the span begins where the marks of the first part end
  have hspan := groupMarks_span ⟨s, xs.length, literal q content, false⟩ (List.cons_ne_nil q _)
    (opens_marksFrom_fresh comments .code ys)
  rw [scan_code, marks_literal comments quote hcode hlast hfirst content xs.length,
    groupMarks_append hopens, hlength]
  apply List.mem_append_right
  rw [marks, hspan]
  exact List.mem_cons_self

end

/-! ## §4. The parts between terminators. -/

/-- Only a `;` is a terminator, and behind it everything is as at the start. -/
theorem Reads.terminates {comments : Bool} {mode : Mode} {c : Char} {lookahead : Option Char}
    {m : Mark} {after : Mode} (h : Reads comments mode c lookahead m after)
    (hm : m.terminator = true) : c = ';' ∧ m.state = .code ∧ after = .ready .code true := by
  cases h with
  | terminator => exact ⟨rfl, rfl, rfl⟩
  | _ => simp at hm

/-- A terminator is a `;` in code. -/
theorem char_of_terminator (comments : Bool) :
    ∀ (text : List Char) (mode : Mode), ∀ m ∈ marksFrom comments mode text,
      m.terminator = true → m.char = ';' ∧ m.state = .code
  | [], _, _, hm, _ => by simp [marksFrom] at hm
  | c :: rest, mode, m, hm, hterminator => by
      obtain ⟨m', after, step⟩ := exists_reads comments mode c rest.head?
      rw [step.marksFrom_cons] at hm
      rcases List.mem_cons.mp hm with rfl | hm
      · obtain ⟨rfl, hstate, -⟩ := step.terminates hterminator
        exact ⟨step.char, hstate⟩
      · exact char_of_terminator comments rest after m hm hterminator

/-- A character before a script is read as it is before the first part of the script: the
part may end where the script goes on, but only before a terminator. -/
theorem Reads.before_first_part {comments : Bool} {mode : Mode} {c : Char} {rest : List Char}
    {m : Mark} {after : Mode} (h : Reads comments mode c rest.head? m after) {first : List Mark}
    {others : List (List Mark)}
    (hsplit : (marksFrom comments after rest).splitOnP (·.terminator) = first :: others) :
    Reads comments mode c (unmark first).head? m after := by
  rw [← unmark_marksFrom comments rest after] at h
  rcases first_of_splitOnP hsplit with hall | ⟨m', rest', hterminator, hcut⟩
  · rwa [hall] at h
  · cases first with
    | nil =>
        have hchar := char_of_terminator comments rest after m' (by simp [hcut]) hterminator
        rw [hcut, List.nil_append, unmark_cons, hchar.1] at h
        exact Reads.at_end h (separate_terminator c)
    | cons m' first => rwa [hcut] at h

/-- **Between two terminators a script is read as a script of its own.** -/
theorem exists_splitOnP_terminator (comments : Bool) :
    ∀ (text : List Char) (mode : Mode), ∃ first others,
      (marksFrom comments mode text).splitOnP (·.terminator) = first :: others
        ∧ marksFrom comments mode (unmark first) = first
        ∧ ∀ part ∈ others, marks comments (unmark part) .code = part
  | [], _ => ⟨[], [], rfl, rfl, by simp⟩
  | c :: rest, mode => by
      obtain ⟨m, after, step⟩ := exists_reads comments mode c rest.head?
      obtain ⟨first, others, hsplit, hfirst, hothers⟩ :=
        exists_splitOnP_terminator comments rest after
      rw [step.marksFrom_cons, List.splitOnP_cons_eq_if_modifyHead, hsplit]
      cases hm : m.terminator with
      | true =>
          -- the part ends here, and the rest is read afresh
          obtain ⟨-, -, rfl⟩ := step.terminates hm
          refine ⟨[], first :: others, rfl, rfl, ?_⟩
          rintro part (_ | ⟨_, hpart⟩)
          · exact hfirst
          · exact hothers part hpart
      | false =>
          refine ⟨m :: first, others, rfl, ?_, hothers⟩
          rw [unmark_cons, step.char, (step.before_first_part hsplit).marksFrom_cons, hfirst]

/-- The parts of a script between its terminators are scripts. -/
theorem marks_of_mem_splitOnP {comments : Bool} {text : List Char} {part : List Mark}
    (h : part ∈ (marks comments text .code).splitOnP (·.terminator)) :
    marks comments (unmark part) .code = part := by
  obtain ⟨first, others, hsplit, hfirst, hothers⟩ :=
    exists_splitOnP_terminator comments text (.ready .code true)
  rw [marks, hsplit] at h
  rcases List.mem_cons.mp h with rfl | hpart
  · exact hfirst
  · exact hothers part hpart

/-! ## §5. A seam in code. -/

/-- A character is labelled alike in a span and at the beginning of one. -/
theorem Reads.label_fresh {comments fresh : Bool} {s : State} {c : Char} {lookahead : Option Char}
    {m : Mark} {after : Mode} (h : Reads comments (.ready s fresh) c lookahead m after)
    (fresh' : Bool) :
    ∃ m', Reads comments (.ready s fresh') c lookahead m' after ∧ m'.label = m.label := by
  cases h with
  | terminator => exact ⟨_, .terminator, rfl⟩
  | lineMarker on => exact ⟨_, .lineMarker on, rfl⟩
  | blockMarker on => exact ⟨_, .blockMarker on, rfl⟩
  | opening quote => exact ⟨_, .opening quote, rfl⟩
  | plain code => exact ⟨_, .plain code, rfl⟩
  | lineEnd atBreak => exact ⟨_, .lineEnd atBreak, rfl⟩
  | lineText noBreak => exact ⟨_, .lineText noBreak, rfl⟩
  | blockEnd => exact ⟨_, .blockEnd, rfl⟩
  | blockText inside => exact ⟨_, .blockText inside, rfl⟩
  | doubled quote => exact ⟨_, .doubled quote, rfl⟩
  | closing quote single => exact ⟨_, .closing quote single, rfl⟩
  | content quote other => exact ⟨_, .content quote other, rfl⟩

/-- Whether a span is open makes no difference to the labels behind it. -/
theorem map_label_marksFrom_ready (comments fresh : Bool) (s : State) (text : List Char) :
    (marksFrom comments (.ready s fresh) text).map Mark.label
      = (marks comments text s).map Mark.label := by
  cases text with
  | nil => rfl
  | cons c rest =>
      obtain ⟨m, after, step⟩ := exists_reads comments (.ready s fresh) c rest.head?
      obtain ⟨m', step', hlabel⟩ := step.label_fresh true
      rw [marks, step.marksFrom_cons, step'.marksFrom_cons, List.map_cons, List.map_cons, hlabel]

/-- Of a doubled quote the second is labelled as the first of a literal is: the scan does
not close the literal before it, but gives it to the same kind. -/
theorem map_label_doubled (comments : Bool) {s : State} {q : Char} (quote : s.quote? = some q)
    (fresh : Bool) (rest : List Char) :
    (marksFrom comments (.ready s fresh) (q :: q :: rest)).map Mark.label
      = ⟨q, s, false, false⟩ :: (marks comments (q :: rest) .code).map Mark.label := by
  have first : Reads comments (.ready s fresh) q (q :: rest).head? _ _ := .doubled quote
  have second : Reads comments (.owed s s) q rest.head? _ _ := .second
  have opening : Reads comments (.ready .code true) q rest.head? _ _ := .opening quote
  rw [marks, first.marksFrom_cons, second.marksFrom_cons, opening.marksFrom_cons]
  simp [Mark.label]

/-- Behind a character that leads to code at the end of a text, a text that completes no
comment marker with it is labelled as it is by itself. -/
theorem Reads.map_label_append {comments fresh : Bool} {mode : Mode} {c : Char} {m : Mark}
    (h : Reads comments mode c none m (.ready .code fresh)) {ys : List Char}
    (hseam : ¬ startsComment c ys.head?) :
    (marksFrom comments mode (c :: ys)).map Mark.label
      = m.label :: (marks comments ys .code).map Mark.label := by
  have goes_on : ∀ {m' : Mark} {fresh' : Bool}, m'.label = m.label →
      Reads comments mode c ys.head? m' (.ready .code fresh') →
      (marksFrom comments mode (c :: ys)).map Mark.label
        = m.label :: (marks comments ys .code).map Mark.label := by
    intro m' fresh' hlabel step
    rw [step.marksFrom_cons, List.map_cons, hlabel, map_label_marksFrom_ready]
  generalize hafter : Mode.ready .code fresh = after at h
  cases h with
  | terminator => exact goes_on rfl .terminator
  | opening quote => exact absurd (Mode.ready.inj hafter).1.symm (State.quote?_ne_code quote)
  | plain code => exact goes_on rfl (.plain ⟨code.1, code.2.1, code.2.2.1, fun _ => hseam⟩)
  | lineEnd atBreak => exact goes_on rfl (.lineEnd atBreak)
  | lineText | blockText => simp at hafter
  | content quote => exact absurd (Mode.ready.inj hafter).1.symm (State.quote?_ne_code quote)
  | second =>
      obtain ⟨rfl, -⟩ := Mode.ready.inj hafter
      exact goes_on rfl .second
  | closing quote =>
      by_cases hdouble : ys.head? = some c
      · obtain ⟨rest, rfl⟩ := List.head?_eq_some_iff.mp hdouble
        exact map_label_doubled comments quote _ rest
      · exact goes_on rfl (.closing quote hdouble)

/-- **Two parts that meet in code are labelled one after the other**, unless a comment
marker is formed at the seam.  A quote may be doubled there. -/
theorem map_label_marksFrom_append (comments : Bool) {fresh : Bool} {ys : List Char} :
    ∀ (xs : List Char) (mode : Mode), modeAfter comments mode xs = .ready .code fresh →
      (∀ c ∈ xs.getLast?, ¬ startsComment c ys.head?) →
      (marksFrom comments mode (xs ++ ys)).map Mark.label
        = (marksFrom comments mode xs).map Mark.label ++ (marks comments ys .code).map Mark.label
  | [], _, hmode, _ => by
      obtain rfl : _ = Mode.ready .code fresh := hmode
      exact map_label_marksFrom_ready comments fresh .code ys
  | [c], mode, hmode, hseam => by
      obtain ⟨m, after, step⟩ := exists_reads comments mode c ([] : List Char).head?
      rw [step.modeAfter_cons] at hmode
      obtain rfl : after = .ready .code fresh := hmode
      rw [step.marksFrom_cons]
      exact step.map_label_append (hseam c rfl)
  | c :: d :: xs, mode, hmode, hseam => by
      obtain ⟨m, after, step⟩ := exists_reads comments mode c (d :: xs).head?
      have step' : Reads comments mode c (d :: xs ++ ys).head? m after := step
      rw [step.modeAfter_cons] at hmode
      have ih := map_label_marksFrom_append comments (d :: xs) after hmode
        fun x hx => hseam x (by simpa using hx)
      rw [step.marksFrom_cons, List.cons_append, step'.marksFrom_cons, List.map_cons, ih]
      rfl

end SqlStatements.Lexical
