/-
  SqlStatements.Proofs.Lexical.LetterCase
  ───────────────────────────────────────
  **The scan does not see whether a letter is a capital.**

  Quotes, terminators, line breaks and the marks of comments are no letters.  So each kind
  of step reads a letter as it reads the same letter in lower case, and a text that is put
  into lower case is read through the same states.

  Main results:

    • `eq_of_toLower`      — what need be checked of the capital letters only,
    • `Reads.lowered`      — a step reads a letter of either case alike,
    • `marksFrom_lowered`  — and so does a run.
-/
import SqlStatements.Proofs.Lexical.Step

namespace SqlStatements.Lexical

/-! ## §1. Letters. -/

/-- The capital letters, `A` to `Z`. -/
def capital (n : Fin 26) : Char :=
  Char.ofNat (65 + n)

/-- Lower case changes the capital letters and no other character. -/
theorem toLower_cases (c : Char) : c.toLower = c ∨ ∃ n, c = capital n := by
  by_cases hc : c.val ≥ 'A'.val ∧ c.val ≤ 'Z'.val
  · right
    have hfirst : 65 ≤ c.toNat := hc.1
    have hlast : c.toNat ≤ 90 := hc.2
    refine ⟨⟨c.toNat - 65, by omega⟩, ?_⟩
    show c = Char.ofNat (65 + (c.toNat - 65))
    rw [Nat.add_sub_cancel' hfirst, Char.ofNat_toNat]
  · exact .inl (dif_neg hc)

/-- What is the same for a capital letter and the small one is the same for every character
and its lower case. -/
theorem eq_of_toLower {β : Type} {f : Char → β}
    (h : ∀ n, f (capital n).toLower = f (capital n)) (c : Char) : f c.toLower = f c := by
  rcases toLower_cases c with hsame | ⟨n, rfl⟩
  · rw [hsame]
  · exact h n

/-- Lower case makes no letter of what is none, and nothing else of a letter. -/
theorem toLower_eq_iff {d : Char} (hd : d.isAlpha = false) (c : Char) : c.toLower = d ↔ c = d := by
  have hletters : ∀ n, (capital n).isAlpha = true ∧ (capital n).toLower.isAlpha = true := by
    decide
  have hother : ∀ c : Char, c.isAlpha = true → c ≠ d := by
    rintro c hc rfl
    rw [hd] at hc
    exact Bool.noConfusion hc
  have hcapital : ∀ n, ((capital n).toLower = d) = (capital n = d) := by
    intro n
    obtain ⟨hcapital, hsmall⟩ := hletters n
    exact propext (iff_of_false (hother _ hsmall) (hother _ hcapital))
  exact iff_of_eq (eq_of_toLower (f := fun c => c = d) hcapital c)

/-- A text in lower case. -/
def lowered (text : List Char) : List Char :=
  text.map Char.toLower

/-- A mark of the same character in lower case. -/
def Mark.lowered (m : Mark) : Mark :=
  { m with char := m.char.toLower }

theorem unmark_map_lowered (ms : List Mark) :
    unmark (ms.map Mark.lowered) = Lexical.lowered (unmark ms) := by
  simp [unmark, Lexical.lowered, Mark.lowered]

/-! ## §2. A step. -/

section
variable {c : Char} {lookahead : Option Char}

theorem isLineBreak_toLower : isLineBreak (some c.toLower) = isLineBreak (some c) := 
  eq_of_toLower (f := fun c => isLineBreak (some c)) (by decide) c

/-- A quote is no letter. -/
theorem State.quote?_not_alpha {s : State} {q : Char} (h : s.quote? = some q) :
    q.isAlpha = false := by
  rcases State.quote?_cases h with ⟨-, rfl⟩ | ⟨-, rfl⟩ <;> rfl

/-- The next character is the same in lower case if it is no letter. -/
theorem map_toLower_eq_iff {d : Char} (hd : d.isAlpha = false) :
    lookahead.map Char.toLower = some d ↔ lookahead = some d := by
  cases lookahead with
  | none => simp
  | some c => simp [toLower_eq_iff hd]

theorem startsComment_toLower :
    startsComment c.toLower (lookahead.map Char.toLower) ↔ startsComment c lookahead := by
  have hdash : '-'.isAlpha = false := rfl
  have hslash : '/'.isAlpha = false := rfl
  have hstar : '*'.isAlpha = false := rfl
  unfold startsComment
  rw [toLower_eq_iff hdash, toLower_eq_iff hslash, map_toLower_eq_iff hdash,
    map_toLower_eq_iff hstar]

theorem PlainCode.lowered {comments : Bool} (h : PlainCode comments c lookahead) :
    PlainCode comments c.toLower (lookahead.map Char.toLower) := by
  unfold PlainCode at h ⊢
  rwa [startsComment_toLower, Ne, Ne, Ne, toLower_eq_iff rfl, toLower_eq_iff rfl,
    toLower_eq_iff rfl]

/-- **A letter of either case is read alike.** -/
theorem Reads.lowered {comments : Bool} {mode after : Mode} {m : Mark}
    (h : Reads comments mode c lookahead m after) :
    Reads comments mode c.toLower (lookahead.map Char.toLower) m.lowered after := by
  -- a step at a character that is named stays as it is, since that is no letter
  cases h with
  | terminator => exact .terminator
  | lineMarker on => exact .lineMarker on
  | blockMarker on => exact .blockMarker on
  | opening quote =>
      have hsame := (toLower_eq_iff (State.quote?_not_alpha quote) c).mpr rfl
      simp only [Mark.lowered, hsame]
      exact .opening quote
  | plain code => exact .plain code.lowered
  | lineEnd atBreak => exact .lineEnd (isLineBreak_toLower.trans atBreak)
  | lineText noBreak => exact .lineText (isLineBreak_toLower.trans noBreak)
  | blockEnd => exact .blockEnd
  | blockText inside =>
      refine .blockText ?_
      rwa [toLower_eq_iff rfl, map_toLower_eq_iff rfl]
  | doubled quote =>
      have hsame := (toLower_eq_iff (State.quote?_not_alpha quote) c).mpr rfl
      simp only [Mark.lowered, Option.map_some, hsame]
      exact .doubled quote
  | closing quote single =>
      have hsame := (toLower_eq_iff (State.quote?_not_alpha quote) c).mpr rfl
      simp only [Mark.lowered, hsame]
      refine .closing quote ?_
      rwa [Ne, map_toLower_eq_iff (State.quote?_not_alpha quote)]
  | content quote other =>
      refine .content quote ?_
      rwa [Ne, toLower_eq_iff (State.quote?_not_alpha quote)]
  | second => exact .second

end

/-! ## §3. A run. -/

/-- **A text in lower case is read as it was.** -/
theorem marksFrom_lowered (comments : Bool) (mode : Mode) (text : List Char) :
    marksFrom comments mode (lowered text) = (marksFrom comments mode text).map Mark.lowered := by
  induction text generalizing mode with
  | nil => rfl
  | cons c text ih =>
      obtain ⟨m, after, hstep⟩ := exists_reads comments mode c text.head?
      have hlowered := hstep.lowered
      rw [← List.head?_map] at hlowered
      rw [hstep.marksFrom_cons, List.map_cons, ← ih]
      exact hlowered.marksFrom_cons

theorem marks_lowered (comments : Bool) (text : List Char) (state : State) :
    marks comments (lowered text) state = (marks comments text state).map Mark.lowered :=
  marksFrom_lowered comments _ text

end SqlStatements.Lexical
