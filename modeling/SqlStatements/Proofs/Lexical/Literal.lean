/-
  SqlStatements.Proofs.Lexical.Literal
  ────────────────────────────────────
  **Literals: a quote, its content with each quote doubled, a quote.**

  Whatever the content holds, the scan takes a literal as one span and is back in code
  behind it, unless the same quote follows.  Every text behind an opening quote is the
  doubled form of some content, up to the quote that ends the literal or to the end of
  the text.
-/
import SqlStatements.Literal.Scalar
import SqlStatements.Proofs.Lexical.Spans

namespace SqlStatements.Lexical

/-! ## §1. Doubling. -/

/-- A text with each quote `q` in it doubled. -/
def doubled (q : Char) (content : List Char) : List Char :=
  content.flatMap fun c => if c = q then [q, q] else [c]

/-- The literal between quotes `q` that stands for a text. -/
def literal (q : Char) (content : List Char) : List Char :=
  q :: (doubled q content ++ [q])

@[simp] theorem doubled_nil (q : Char) : doubled q [] = [] := rfl

@[simp] theorem doubled_cons_quote (q : Char) (content : List Char) :
    doubled q (q :: content) = q :: q :: doubled q content := by
  simp [doubled]

theorem doubled_cons_other {q c : Char} (h : c ≠ q) (content : List Char) :
    doubled q (c :: content) = c :: doubled q content := by
  simp [doubled, h]

/-- A text without the quote `q` has nothing to double. -/
theorem doubled_eq_self {q : Char} {content : List Char} (h : q ∉ content) :
    doubled q content = content := by
  induction content with
  | nil => rfl
  | cons c content ih =>
      rw [List.mem_cons, not_or] at h
      rw [doubled_cons_other (Ne.symm h.1), ih h.2]

/-- A text with one quote `q` for every two that meet. -/
def undoubled (q : Char) : List Char → List Char
  | c :: d :: rest =>
      if c = q ∧ d = q then q :: undoubled q rest else c :: undoubled q (d :: rest)
  | text => text

theorem undoubled_cons_other {q c : Char} (h : c ≠ q) (text : List Char) :
    undoubled q (c :: text) = c :: undoubled q text := by
  cases text <;> simp [undoubled, h]

/-- **Doubling is undone.** -/
theorem undoubled_doubled (q : Char) (content : List Char) :
    undoubled q (doubled q content) = content := by
  induction content with
  | nil => rfl
  | cons c content ih =>
      by_cases hc : c = q
      · subst hc
        rw [doubled_cons_quote, undoubled, if_pos ⟨rfl, rfl⟩, ih]
      · rw [doubled_cons_other hc, undoubled_cons_other hc, ih]

/-- A literal gives back its content. -/
theorem undoubled_literal (q : Char) (content : List Char) :
    undoubled q ((literal q content).drop 1).dropLast = content := by
  have hinner : ((literal q content).drop 1).dropLast = doubled q content := by simp [literal]
  rw [hinner, undoubled_doubled]

/-- The literal of a text value is the one between single quotes. -/
theorem toList_textLiteral (s : String) :
    (Literal.textLiteral s).toList = literal '\'' s.toList := by
  simp [Literal.textLiteral, Literal.escapeString, literal]
  rfl

/-- What stands behind an opening quote: the content up to the closing quote, or an
unfinished literal. -/
theorem exists_doubled (q : Char) :
    ∀ text : List Char, ∃ content,
      (∃ rest, text = doubled q content ++ q :: rest ∧ rest.head? ≠ some q)
        ∨ text = doubled q content
  | [] => ⟨[], .inr rfl⟩
  | [c] => by
      by_cases hc : c = q
      · exact ⟨[], .inl ⟨[], by simp [hc], by simp⟩⟩
      · exact ⟨[c], .inr (by simp [doubled_cons_other hc])⟩
  | c :: d :: text => by
      by_cases hc : c = q
      · subst hc
        by_cases hd : d = c
        · subst hd
          -- a doubled quote is content, and the literal goes on behind both
          obtain ⟨content, ⟨rest, htext, hrest⟩ | htext⟩ := exists_doubled d text
          · exact ⟨d :: content, .inl ⟨rest, by simp [htext], hrest⟩⟩
          · exact ⟨d :: content, .inr (by simp [htext])⟩
        · exact ⟨[], .inl ⟨d :: text, rfl, by simpa using hd⟩⟩
      · obtain ⟨content, ⟨rest, htext, hrest⟩ | htext⟩ := exists_doubled q (d :: text)
        · exact ⟨c :: content, .inl ⟨rest, by rw [doubled_cons_other hc, htext]; rfl, hrest⟩⟩
        · exact ⟨c :: content, .inr (by rw [doubled_cons_other hc, htext])⟩

/-- A span that is a literal from its first quote to its last. -/
def Span.ClosedLiteral (s : Span) : Prop :=
  ∃ q content, s.state.quote? = some q ∧ s.text = literal q content

/-- A span that is a literal without the quote that would end it. -/
def Span.OpenLiteral (s : Span) : Prop :=
  ∃ q content, s.state.quote? = some q ∧ s.text = q :: doubled q content

/-! ## §2. The scan of a literal. -/

section
variable (comments : Bool) {s : State} {q : Char} (quote : s.quote? = some q)
include quote

/-- The content of a literal stays in the literal. -/
theorem marksFrom_doubled (content tail : List Char) :
    marksFrom comments (.ready s false) (doubled q content ++ tail)
      = (doubled q content).map (⟨·, s, false, false⟩)
        ++ marksFrom comments (.ready s false) tail := by
  induction content with
  | nil => rfl
  | cons c content ih =>
      by_cases hc : c = q
      · subst hc
        rw [doubled_cons_quote]
        -- the two quotes are one step of two characters
        have first : Reads comments (.ready s false) c
            (c :: (doubled c content ++ tail)).head? _ _ := .doubled quote
        have second : Reads comments (.owed s s) c (doubled c content ++ tail).head? _ _ := .second
        rw [List.cons_append, List.cons_append, first.marksFrom_cons, second.marksFrom_cons]
        simp [ih]
      · rw [doubled_cons_other hc]
        have step : Reads comments (.ready s false) c (doubled q content ++ tail).head? _ _ :=
          .content quote hc
        rw [List.cons_append, step.marksFrom_cons, ih]
        rfl

/-- A literal that is open at the end of a text. -/
theorem marksFrom_openLiteral (fresh : Bool) (content : List Char) (start : Nat) :
    marksFrom comments (.ready .code fresh) (q :: doubled q content)
      = (⟨s, start, q :: doubled q content, false⟩ : Span).marks := by
  have step : Reads comments (.ready .code fresh) q (doubled q content).head? _ _ :=
    .opening quote
  have key := marksFrom_doubled comments quote content []
  rw [List.append_nil] at key
  rw [step.marksFrom_cons, key]
  simp [marksFrom, Span.marks]

/-- **A literal is one span**, if its quote does not follow once more. -/
theorem marksFrom_literal (fresh : Bool) (content : List Char) (start : Nat) {tail : List Char}
    (htail : tail.head? ≠ some q) :
    marksFrom comments (.ready .code fresh) (literal q content ++ tail)
      = (⟨s, start, literal q content, false⟩ : Span).marks
        ++ marksFrom comments (.ready .code true) tail := by
  have first : Reads comments (.ready .code fresh) q (doubled q content ++ q :: tail).head? _ _ :=
    .opening quote
  -- the last quote closes, for none of its kind follows
  have last : Reads comments (.ready s false) q tail.head? _ _ := .closing quote htail
  have htext : literal q content ++ tail = q :: (doubled q content ++ q :: tail) := by
    simp [literal]
  rw [htext, first.marksFrom_cons, marksFrom_doubled comments quote, last.marksFrom_cons]
  simp [Span.marks, literal]

end

end SqlStatements.Lexical
