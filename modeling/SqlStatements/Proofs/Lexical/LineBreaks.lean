/-
  SqlStatements.Proofs.Lexical.LineBreaks
  ───────────────────────────────────────
  **Line breaks of one character and of two are read alike.**

  `crlf` writes a carriage return before each line feed.  Either of the two ends a line
  comment, and everywhere else both are plain characters, so the carriage return is read
  in the state in which the line feed would be, and the line feed is read as it was.

  Main result: `map_label_marksFrom_crlf` — the labels of a text with its line breaks
  written in this way, whether comments are recognised or not.
-/
import SqlStatements.Proofs.Lexical.Seam

namespace SqlStatements.Lexical

/-! ## §1. Line breaks of two characters. -/

/-- A text with a carriage return before each line feed. -/
def crlf (text : List Char) : List Char :=
  text.flatMap fun c => if c = '\n' then ['\r', '\n'] else [c]

/-- Marks with a mark of a carriage return before each that is in `p`. -/
def withReturns (p : Mark → Bool) (ms : List Mark) : List Mark :=
  ms.flatMap fun m => if p m then [{ m with char := '\r' }, m] else [m]

/-- Whether a mark is of a line feed. -/
def isFeed (m : Mark) : Bool := m.char == '\n'

theorem crlf_cons_feed (text : List Char) : crlf ('\n' :: text) = '\r' :: '\n' :: crlf text := rfl

theorem crlf_cons_other {c : Char} (h : c ≠ '\n') (text : List Char) :
    crlf (c :: text) = c :: crlf text := by
  simp [crlf, h]

section
variable (p : Mark → Bool)

@[simp] theorem withReturns_nil : withReturns p [] = [] := rfl

theorem withReturns_append (xs ys : List Mark) :
    withReturns p (xs ++ ys) = withReturns p xs ++ withReturns p ys :=
  List.flatMap_append

variable {p}

theorem withReturns_cons_pos {m : Mark} (h : p m = true) (ms : List Mark) :
    withReturns p (m :: ms) = { m with char := '\r' } :: m :: withReturns p ms := by
  simp [withReturns, h]

theorem withReturns_cons_neg {m : Mark} (h : p m = false) (ms : List Mark) :
    withReturns p (m :: ms) = m :: withReturns p ms := by
  simp [withReturns, h]

theorem withReturns_eq_self {ms : List Mark} (h : ∀ m ∈ ms, p m = false) :
    withReturns p ms = ms := by
  induction ms with
  | nil => rfl
  | cons m ms ih =>
      rw [withReturns_cons_neg (h m List.mem_cons_self),
        ih fun m' hm' => h m' (List.mem_cons_of_mem m hm')]

/-- Each mark stays where it was, so the last one is the last. -/
theorem getLast?_withReturns (ms : List Mark) : (withReturns p ms).getLast? = ms.getLast? := by
  rcases List.eq_nil_or_concat ms with rfl | ⟨front, m, rfl⟩
  · rfl
  · rw [List.concat_eq_append, withReturns_append]
    cases h : p m <;> simp [withReturns, h]

/-- All that is new are carriage returns. -/
theorem mem_withReturns {m : Mark} {ms : List Mark} (h : m ∈ withReturns p ms) :
    m ∈ ms ∨ ∃ feed ∈ ms, p feed = true ∧ m = { feed with char := '\r' } := by
  obtain ⟨m', hm', hm⟩ := List.mem_flatMap.mp h
  cases hp : p m' with
  | false =>
      obtain rfl : m = m' := by simpa [hp] using hm
      exact .inl hm'
  | true =>
      rcases (by simpa [hp] using hm : m = { m' with char := '\r' } ∨ m = m') with rfl | rfl
      · exact .inr ⟨m', hm', hp, rfl⟩
      · exact .inl hm'

end

/-- A carriage return goes with the comments if its line feed does. -/
theorem kept_withReturns (ms : List Mark) :
    kept (withReturns isFeed ms) = withReturns isFeed (kept ms) := by
  induction ms with
  | nil => rfl
  | cons m ms ih =>
      cases hcomment : m.state.isComment <;> cases hfeed : isFeed m <;>
        simp_all [withReturns, kept]

/-! ## §2. One step. -/

theorem separate_lineBreak {d : Char} (h : isLineBreak (some d) = true) (c : Char) :
    Separate c d := by
  have hd : d = '\n' ∨ d = '\r' := by simpa [isLineBreak] using h
  rcases hd with rfl | rfl
  · exact ⟨by simp, by simp, by simp, by rintro ⟨rfl, h⟩; simp at h⟩
  · exact ⟨by simp, by simp, by simp, by rintro ⟨rfl, h⟩; simp at h⟩

/-- No step looks ahead to a line break, so none sees which of the two it is. -/
theorem Reads.before_crlf {comments : Bool} {mode : Mode} {c : Char} {text : List Char} {m : Mark}
    {after : Mode} (h : Reads comments mode c text.head? m after) :
    Reads comments mode c (crlf text).head? m after := by
  cases text with
  | nil => exact h
  | cons d rest =>
      by_cases hd : d = '\n'
      · subst hd
        exact (h.at_end (separate_lineBreak rfl c)).before_separate (separate_lineBreak rfl c)
      · rw [crlf_cons_other hd]
        exact h

/-- **Before a line feed a carriage return is read as the line feed would be**, and then
the line feed is read as it was. -/
theorem Reads.exists_return {comments : Bool} {s : State} {fresh : Bool}
    {lookahead : Option Char} {m : Mark} {after : Mode}
    (h : Reads comments (.ready s fresh) '\n' lookahead m after) :
    ∃ m₁ between m₂, Reads comments (.ready s fresh) '\r' (some '\n') m₁ between
      ∧ Reads comments between '\n' lookahead m₂ after
      ∧ m₁.label = { m.label with char := '\r' } ∧ m₂.label = m.label := by
  have hplain : ∀ c d, isLineBreak (some c) = true → PlainCode comments c d := by
    intro c d hc
    have hc : c = '\n' ∨ c = '\r' := by simpa [isLineBreak] using hc
    rcases hc with rfl | rfl <;> simp [PlainCode, startsComment]
  generalize hchar : '\n' = c at h
  cases h with
  | terminator | lineMarker | blockMarker | blockEnd => simp at hchar
  | opening quote | doubled quote | closing quote =>
      rcases State.quote?_cases quote with ⟨-, rfl⟩ | ⟨-, rfl⟩ <;> simp at hchar
  | plain =>
      subst hchar
      exact ⟨_, _, _, .plain (hplain _ _ rfl), .plain (hplain _ _ rfl), rfl, rfl⟩
  | lineEnd =>
      subst hchar
      exact ⟨_, _, _, .lineEnd rfl, .plain (hplain _ _ rfl), rfl, rfl⟩
  | lineText noBreak =>
      subst hchar
      exact absurd noBreak (by decide)
  | blockText =>
      subst hchar
      exact ⟨_, _, _, .blockText (by simp), .blockText (by simp), rfl, rfl⟩
  | content quote other =>
      subst hchar
      have hreturn : ∀ q : Char, State.quote? s = some q → '\r' ≠ q := by
        intro q quote
        rcases State.quote?_cases quote with ⟨-, rfl⟩ | ⟨-, rfl⟩ <;> decide
      exact ⟨_, _, _, .content quote (hreturn _ quote), .content quote other, rfl, rfl⟩

/-! ## §3. Whole runs. -/

/-- **A text with line breaks of two characters is labelled as the text is**, the carriage
returns as the line feeds behind them. -/
theorem map_label_marksFrom_crlf (comments : Bool) :
    ∀ (text : List Char) (mode : Mode), mode.Owes text.head? →
      (marksFrom comments mode (crlf text)).map Mark.label
        = withReturns isFeed ((marksFrom comments mode text).map Mark.label)
  | [], _, _ => rfl
  | c :: rest, mode, howes => by
      obtain ⟨m, after, step⟩ := exists_reads comments mode c rest.head?
      have ih := map_label_marksFrom_crlf comments rest after step.owes
      rw [step.marksFrom_cons, List.map_cons]
      by_cases hc : c = '\n'
      · subst hc
        have hfeed : isFeed m.label = true := by simp [isFeed, step.char]
        -- a mode that owes the second half of a step does not stand before a line feed
        obtain ⟨s, fresh, rfl⟩ : ∃ s fresh, mode = .ready s fresh := by
          cases mode with
          | ready s fresh => exact ⟨s, fresh, rfl⟩
          | owed owner next =>
              cases howes with
              | doubled quote => rcases State.quote?_cases quote with ⟨-, h⟩ | ⟨-, h⟩ <;> simp at h
        obtain ⟨m₁, between, m₂, first, second, hm₁, hm₂⟩ := step.before_crlf.exists_return
        have hfirst := @Reads.marksFrom_cons _ _ _ ('\n' :: crlf rest) _ _ first
        rw [withReturns_cons_pos hfeed, crlf_cons_feed, hfirst, second.marksFrom_cons,
          List.map_cons, List.map_cons, hm₁, hm₂, ih]
      · have hfeed : isFeed m.label = false := by simp [isFeed, step.char, hc]
        rw [withReturns_cons_neg hfeed, crlf_cons_other hc, step.before_crlf.marksFrom_cons,
          List.map_cons, ih]

end SqlStatements.Lexical
