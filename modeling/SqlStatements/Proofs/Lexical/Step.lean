/-
  SqlStatements.Proofs.Lexical.Step
  ─────────────────────────────────
  **Everything that one character can do to the scan.**

  `Reads comments mode c lookahead mark after` lists the kinds of steps: in code a
  terminator, the two comment markers, an opening quote, or plain code; in a comment its
  end or its text; in a literal a doubled quote, the closing quote, or content; and the
  second half of a step of two characters.

  The list is complete and each of its steps is the scan's (`exists_reads`,
  `Reads.advance_eq`), so no later proof opens `Mode.advance`: an invariant is one case
  for each kind of step, and a run is evaluated by naming the steps it takes.
-/
import SqlStatements.Lexical.Span

namespace SqlStatements.Lexical

/-! ## §1. Quotes and comment markers. -/

/-- The quote around a literal of this state. -/
def State.quote? : State → Option Char
  | .singleQuoted => some '\''
  | .doubleQuoted => some '"'
  | _ => none

/-- Whether a character of code and the one after it are a comment marker. -/
def startsComment (c : Char) (lookahead : Option Char) : Prop :=
  (c = '-' ∧ lookahead = some '-') ∨ (c = '/' ∧ lookahead = some '*')

/-- Whether a character is code that opens and ends nothing. -/
def PlainCode (comments : Bool) (c : Char) (lookahead : Option Char) : Prop :=
  c ≠ ';' ∧ c ≠ '\'' ∧ c ≠ '"' ∧ (comments = true → ¬ startsComment c lookahead)

theorem State.quote?_ne_code {s : State} {q : Char} (h : s.quote? = some q) : s ≠ .code := by
  rintro rfl
  simp [State.quote?] at h

theorem State.quote?_not_comment {s : State} {q : Char} (h : s.quote? = some q) :
    s.isComment = false := by
  cases s <;> simp_all [State.quote?, State.isComment]

theorem State.isQuoted_of_quote? {s : State} {q : Char} (h : s.quote? = some q) :
    s.isQuoted = true := by
  cases s <;> simp_all [State.quote?, State.isQuoted]

theorem State.exists_quote {s : State} (h : s.isQuoted = true) : ∃ q, s.quote? = some q := by
  cases s with
  | singleQuoted | doubleQuoted => exact ⟨_, rfl⟩
  | code | lineComment | blockComment => simp [State.isQuoted] at h

theorem State.not_comment_of_isQuoted {s : State} (h : s.isQuoted = true) :
    s.isComment = false := by
  obtain ⟨q, quote⟩ := State.exists_quote h
  exact State.quote?_not_comment quote

theorem State.quote?_cases {s : State} {q : Char} (h : s.quote? = some q) :
    (s = .singleQuoted ∧ q = '\'') ∨ (s = .doubleQuoted ∧ q = '"') := by
  cases s <;> simp [State.quote?] at h
  · exact .inl ⟨rfl, h.symm⟩
  · exact .inr ⟨rfl, h.symm⟩

/-- A quote is neither a terminator nor half of a comment marker. -/
theorem State.quote?_ne {s : State} {q : Char} (h : s.quote? = some q) :
    q ≠ ';' ∧ q ≠ '-' ∧ q ≠ '/' ∧ q ≠ '*' := by
  rcases State.quote?_cases h with ⟨-, rfl⟩ | ⟨-, rfl⟩ <;> decide

/-! ## §2. The kinds of steps. -/

/-- `c`, read in a mode before `lookahead`, gets a mark and leads to the mode after it. -/
inductive Reads (comments : Bool) : Mode → Char → Option Char → Mark → Mode → Prop where
  | terminator {fresh lookahead} :
      Reads comments (.ready .code fresh) ';' lookahead
        ⟨';', .code, true, true⟩ (.ready .code true)
  | lineMarker {fresh} (on : comments = true) :
      Reads comments (.ready .code fresh) '-' (some '-')
        ⟨'-', .lineComment, false, true⟩ (.owed .lineComment .lineComment)
  | blockMarker {fresh} (on : comments = true) :
      Reads comments (.ready .code fresh) '/' (some '*')
        ⟨'/', .blockComment, false, true⟩ (.owed .blockComment .blockComment)
  | opening {fresh lookahead s c} (quote : State.quote? s = some c) :
      Reads comments (.ready .code fresh) c lookahead ⟨c, s, false, true⟩ (.ready s false)
  | plain {fresh lookahead c} (code : PlainCode comments c lookahead) :
      Reads comments (.ready .code fresh) c lookahead
        ⟨c, .code, false, fresh⟩ (.ready .code false)
  | lineEnd {fresh lookahead c} (atBreak : isLineBreak (some c) = true) :
      Reads comments (.ready .lineComment fresh) c lookahead
        ⟨c, .code, false, true⟩ (.ready .code false)
  | lineText {fresh lookahead c} (noBreak : isLineBreak (some c) = false) :
      Reads comments (.ready .lineComment fresh) c lookahead
        ⟨c, .lineComment, false, fresh⟩ (.ready .lineComment false)
  | blockEnd {fresh} :
      Reads comments (.ready .blockComment fresh) '*' (some '/')
        ⟨'*', .blockComment, false, fresh⟩ (.owed .blockComment .code)
  | blockText {fresh lookahead c} (inside : ¬ (c = '*' ∧ lookahead = some '/')) :
      Reads comments (.ready .blockComment fresh) c lookahead
        ⟨c, .blockComment, false, fresh⟩ (.ready .blockComment false)
  | doubled {fresh s c} (quote : State.quote? s = some c) :
      Reads comments (.ready s fresh) c (some c) ⟨c, s, false, fresh⟩ (.owed s s)
  | closing {fresh lookahead s c} (quote : State.quote? s = some c) (single : lookahead ≠ some c) :
      Reads comments (.ready s fresh) c lookahead ⟨c, s, false, fresh⟩ (.ready .code true)
  | content {fresh lookahead s q c} (quote : State.quote? s = some q) (other : c ≠ q) :
      Reads comments (.ready s fresh) c lookahead ⟨c, s, false, fresh⟩ (.ready s false)
  | second {owner next lookahead c} :
      Reads comments (.owed owner next) c lookahead
        ⟨c, owner, false, false⟩ (.ready next (next ≠ owner))

/-! ## §3. Each step of the list is the scan's, and the list is complete. -/

/-- **Each step of the list is the scan's.** -/
theorem Reads.advance_eq {comments : Bool} {mode : Mode} {c : Char} {lookahead : Option Char}
    {m : Mark} {after : Mode} (h : Reads comments mode c lookahead m after) :
    mode.advance comments c lookahead = (m, after) := by
  cases h with
  | terminator => rfl
  | lineMarker on => subst on; rfl
  | blockMarker on => subst on; rfl
  | opening quote =>
      rcases State.quote?_cases quote with ⟨rfl, rfl⟩ | ⟨rfl, rfl⟩ <;>
        simp [Mode.advance, Mode.after, transition]
  | plain code =>
      obtain ⟨hsemi, hsingle, hdouble, hmarker⟩ := code
      -- the markers are tested only with comments on, and there they are excluded
      have hstep : transition comments .code (some c) lookahead = ⟨.code, 1⟩ := by
        cases comments with
        | false => simp [transition, hsingle, hdouble]
        | true =>
            have hline : ¬ (c = '-' ∧ lookahead = some '-') := fun h => hmarker rfl (.inl h)
            have hblock : ¬ (c = '/' ∧ lookahead = some '*') := fun h => hmarker rfl (.inr h)
            simp [transition, hsingle, hdouble, hline, hblock]
      simp [Mode.advance, Mode.after, hsemi, hstep]
  | lineEnd atBreak => simp [Mode.advance, transition, atBreak]
  | lineText noBreak => simp [Mode.advance, Mode.after, transition, noBreak]
  | blockEnd => rfl
  | blockText inside => simp [Mode.advance, Mode.after, transition, inside]
  | doubled quote =>
      rcases State.quote?_cases quote with ⟨rfl, rfl⟩ | ⟨rfl, rfl⟩ <;> rfl
  | closing quote single =>
      rcases State.quote?_cases quote with ⟨rfl, rfl⟩ | ⟨rfl, rfl⟩ <;>
        simp [Mode.advance, Mode.after, transition, transition.quoted, single]
  | content quote other =>
      rcases State.quote?_cases quote with ⟨rfl, rfl⟩ | ⟨rfl, rfl⟩ <;>
        simp [Mode.advance, Mode.after, transition, transition.quoted, other]
  | second => rfl

/-- Some step of the list reads a character of code. -/
theorem exists_reads_code (comments fresh : Bool) (c : Char) (lookahead : Option Char) :
    ∃ m after, Reads comments (.ready .code fresh) c lookahead m after := by
  -- the tests of `transition`, with the terminator before them
  by_cases hsemi : c = ';'
  · subst hsemi
    exact ⟨_, _, .terminator⟩
  by_cases hsingle : c = '\''
  · exact ⟨_, _, .opening (s := .singleQuoted) (by rw [hsingle]; rfl)⟩
  by_cases hdouble : c = '"'
  · exact ⟨_, _, .opening (s := .doubleQuoted) (by rw [hdouble]; rfl)⟩
  by_cases hmarker : comments = true ∧ startsComment c lookahead
  · obtain ⟨on, ⟨rfl, rfl⟩ | ⟨rfl, rfl⟩⟩ := hmarker
    · exact ⟨_, _, .lineMarker on⟩
    · exact ⟨_, _, .blockMarker on⟩
  · exact ⟨_, _, .plain ⟨hsemi, hsingle, hdouble, fun on marker => hmarker ⟨on, marker⟩⟩⟩

/-- Some step of the list reads a character of a literal. -/
theorem exists_reads_quoted (comments fresh : Bool) {s : State} {q : Char}
    (hs : s.quote? = some q) (c : Char) (lookahead : Option Char) :
    ∃ m after, Reads comments (.ready s fresh) c lookahead m after := by
  by_cases hc : c = q
  · subst hc
    by_cases hl : lookahead = some c
    · subst hl
      exact ⟨_, _, .doubled hs⟩
    · exact ⟨_, _, .closing hs hl⟩
  · exact ⟨_, _, .content hs hc⟩

/-- **Every character is read by a step of the list.** -/
theorem exists_reads (comments : Bool) (mode : Mode) (c : Char) (lookahead : Option Char) :
    ∃ m after, Reads comments mode c lookahead m after := by
  -- one case for each mode; what is owed is taken whatever it is
  match mode with
  | .owed owner next => exact ⟨_, _, .second⟩
  | .ready .code fresh => exact exists_reads_code comments fresh c lookahead
  | .ready .lineComment fresh =>
      cases h : isLineBreak (some c) with
      | true => exact ⟨_, _, .lineEnd h⟩
      | false => exact ⟨_, _, .lineText h⟩
  | .ready .blockComment fresh =>
      by_cases h : c = '*' ∧ lookahead = some '/'
      · obtain ⟨rfl, rfl⟩ := h
        exact ⟨_, _, .blockEnd⟩
      · exact ⟨_, _, .blockText h⟩
  | .ready .singleQuoted fresh => exact exists_reads_quoted comments fresh rfl c lookahead
  | .ready .doubleQuoted fresh => exact exists_reads_quoted comments fresh rfl c lookahead

/-- A step reads the character that it stands at. -/
theorem Reads.char {comments : Bool} {mode : Mode} {c : Char} {lookahead : Option Char}
    {m : Mark} {after : Mode} (h : Reads comments mode c lookahead m after) : m.char = c := by
  cases h <;> rfl

/-! ## §4. One step of a run. -/

theorem Reads.marksFrom_cons {comments : Bool} {mode : Mode} {c : Char} {rest : List Char}
    {m : Mark} {after : Mode} (h : Reads comments mode c rest.head? m after) :
    marksFrom comments mode (c :: rest) = m :: marksFrom comments after rest := by
  simp only [marksFrom, h.advance_eq]

theorem Reads.modeAfter_cons {comments : Bool} {mode : Mode} {c : Char} {rest : List Char}
    {m : Mark} {after : Mode} (h : Reads comments mode c rest.head? m after) :
    modeAfter comments mode (c :: rest) = modeAfter comments after rest := by
  simp only [modeAfter, h.advance_eq]

end SqlStatements.Lexical
