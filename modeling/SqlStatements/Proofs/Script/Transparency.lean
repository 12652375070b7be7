/-
  SqlStatements.Proofs.Script.Transparency
  ────────────────────────────────────────
  **A comment makes no difference where code may stand.**

  Of two texts that meet in code each loses its comments as it would by itself, unless a
  comment marker is formed where they meet.  A comment before the second text is one span,
  and the second text is read behind it as at the start, so the comment is all that is lost
  with it.

  The two texts may meet in a doubled quote when the comment is taken out.  The scan then
  goes on inside a literal where it closed one and opened another, and keeps the same
  characters.

  Main results:

    • `removeComments_append` — removing comments from two parts,
    • `comment_transparent`   — a comment between two texts that meet in code.
-/
import SqlStatements.Script.Collection
import SqlStatements.Proofs.Lexical.Grammar
import SqlStatements.Proofs.Lexical.Seam
import SqlStatements.Proofs.Script.CommentRemoval

namespace SqlStatements.Script

open Lexical

/-! ## §1. Two parts. -/

/-- What is kept of a text, read off the labels. -/
theorem removeComments_eq (text : List Char) :
    removeComments text = unmark (kept ((marks true text .code).map Mark.label)) := by
  rw [kept_map_label, unmark_map_label]
  rfl

/-- **Of two parts that meet in code each loses its comments as by itself**, unless a
comment marker is formed where they meet. -/
theorem removeComments_append {xs ys : List Char} (hcode : endState true xs = .code)
    (hseam : ∀ c ∈ xs.getLast?, ¬ startsComment c ys.head?) :
    removeComments (xs ++ ys) = removeComments xs ++ removeComments ys := by
  obtain ⟨fresh, hmode⟩ := exists_modeAfter_eq true xs
  rw [hcode] at hmode
  rw [removeComments_eq, removeComments_eq, removeComments_eq, marks,
    map_label_marksFrom_append true xs _ hmode hseam, kept_append, unmark_append]
  rfl

/-! ## §2. A comment and what follows it. -/

/-- A text whose marks begin with those of a comment is left as the rest of it is. -/
theorem removeComments_comment {s : Span} (hs : s.state.isComment = true) {rest : List Char}
    (hmarks : marks true (s.text ++ rest) .code = s.marks ++ marks true rest .code) :
    removeComments (s.text ++ rest) = removeComments rest := by
  have hnone : kept s.marks = [] :=
    kept_eq_nil fun m hm => by rw [Span.state_of_mem_marks hm, hs]
  show unmark (kept (marks true (s.text ++ rest) .code)) = unmark (kept (marks true rest .code))
  rw [hmarks, kept_append, hnone, List.nil_append]

theorem removeComments_blockComment {body : List Char} (inside : ¬ ['*', '/'] <:+: body)
    (rest : List Char) :
    removeComments ('/' :: '*' :: (body ++ ['*', '/']) ++ rest) = removeComments rest :=
  removeComments_comment (s := ⟨.blockComment, 0, '/' :: '*' :: (body ++ ['*', '/']), false⟩) rfl
    (marksFrom_blockComment inside rest 0)

theorem removeComments_lineComment {body rest : List Char}
    (noBreak : ∀ c ∈ body, isLineBreak (some c) = false)
    (stop : rest = [] ∨ isLineBreak rest.head? = true) :
    removeComments ('-' :: '-' :: body ++ rest) = removeComments rest :=
  removeComments_comment (s := ⟨.lineComment, 0, '-' :: '-' :: body, false⟩) rfl
    (marksFrom_lineComment noBreak stop 0)

/-! ## §3. A comment between two texts. -/

/-- Whether two texts are left alike without their comments and make the same script. -/
def SameScript (xs ys : List Char) : Prop :=
  removeComments xs = removeComments ys
    ∧ ∀ settings, ofText (String.ofList xs) settings = ofText (String.ofList ys) settings

/-- Comments go before anything else is done, so nothing else remembers them. -/
theorem sameScript_of_removeComments {xs ys : List Char}
    (h : removeComments xs = removeComments ys) : SameScript xs ys :=
  ⟨h, fun settings => by simp only [ofText, splitScript, String.toList_ofList, h]⟩

section
variable {a b : List Char} (hcode : endState true a = .code)
include hcode

theorem sameScript_blockComment {body : List Char} (inside : ¬ ['*', '/'] <:+: body)
    (hseam : ∀ c ∈ a.getLast?, ¬ startsComment c b.head?) :
    SameScript (a ++ ['/', '*'] ++ body ++ ['*', '/'] ++ b) (a ++ b) := by
  -- no comment marker ends in the `/` that begins the comment
  have hopening : ∀ c ∈ a.getLast?,
      ¬ startsComment c ('/' :: '*' :: (body ++ ['*', '/']) ++ b).head? := by
    simp [startsComment]
  apply sameScript_of_removeComments
  calc removeComments (a ++ ['/', '*'] ++ body ++ ['*', '/'] ++ b)
      = removeComments (a ++ ('/' :: '*' :: (body ++ ['*', '/']) ++ b)) := by simp
    _ = removeComments a ++ removeComments b := by
        rw [removeComments_append hcode hopening, removeComments_blockComment inside]
    _ = removeComments (a ++ b) := (removeComments_append hcode hseam).symm

theorem sameScript_lineComment {body rest : List Char}
    (noBreak : ∀ c ∈ body, isLineBreak (some c) = false) (stop : isLineBreak rest.head? = true)
    (hlast : a.getLast? ≠ some '-') :
    SameScript (a ++ ['-', '-'] ++ body ++ rest) (a ++ rest) := by
  have hopening : ∀ c ∈ a.getLast?, ¬ startsComment c ('-' :: '-' :: body ++ rest).head? := by
    rintro c hc (⟨rfl, -⟩ | ⟨-, hhead⟩)
    · exact hlast hc
    · simp at hhead
  -- nor is there one that ends in a line break
  have hseam : ∀ c ∈ a.getLast?, ¬ startsComment c rest.head? := by
    rintro c - (⟨-, hhead⟩ | ⟨-, hhead⟩) <;> simp [hhead, isLineBreak] at stop
  apply sameScript_of_removeComments
  calc removeComments (a ++ ['-', '-'] ++ body ++ rest)
      = removeComments (a ++ ('-' :: '-' :: body ++ rest)) := by simp
    _ = removeComments a ++ removeComments rest := by
        rw [removeComments_append hcode hopening, removeComments_lineComment noBreak (.inr stop)]
    _ = removeComments (a ++ rest) := (removeComments_append hcode hseam).symm

end

/-- **Comments are transparent where code may stand.**  Behind a text that ends in code a
block comment can be taken out if no comment marker is formed in its place, and a line
comment if its line break is kept; the scripts with and without it are equal. -/
theorem comment_transparent {a b : List Char} (hcode : endState true a = .code) :
    (∀ body, ¬ ['*', '/'] <:+: body →
        ¬ (a.getLast? = some '-' ∧ b.head? = some '-') →
        ¬ (a.getLast? = some '/' ∧ b.head? = some '*') →
        SameScript (a ++ ['/', '*'] ++ body ++ ['*', '/'] ++ b) (a ++ b))
      ∧ ∀ body lineBreak, '\n' ∉ body → '\r' ∉ body → lineBreak = '\n' ∨ lineBreak = '\r' →
        a.getLast? ≠ some '-' →
        SameScript (a ++ ['-', '-'] ++ body ++ lineBreak :: b) (a ++ lineBreak :: b) := by
  constructor
  · intro body inside hdash hslash
    apply sameScript_blockComment hcode inside
    rintro c hc (⟨rfl, hhead⟩ | ⟨rfl, hhead⟩)
    · exact hdash ⟨hc, hhead⟩
    · exact hslash ⟨hc, hhead⟩
  · intro body lineBreak hfeed hreturn hbreak hlast
    have noBreak : ∀ c ∈ body, isLineBreak (some c) = false := by
      intro c hc
      have hne : c ≠ '\n' ∧ c ≠ '\r' := ⟨fun h => hfeed (h ▸ hc), fun h => hreturn (h ▸ hc)⟩
      simp [isLineBreak, hne]
    have stop : isLineBreak (lineBreak :: b).head? = true := by
      rcases hbreak with rfl | rfl <;> rfl
    exact sameScript_lineComment hcode noBreak stop hlast

/-- A comment with a quote, a terminator and half of an end in it, between two literals that
are one literal without it; and a line comment there, which leaves them apart. -/
theorem comment_transparent_doubled_quote :
    endState true "SELECT 'a'".toList = .code
      ∧ SameScript "SELECT 'a'/*';/**/'b'".toList "SELECT 'a''b'".toList
      ∧ SameScript "SELECT 'a'--*/'\r'b'".toList "SELECT 'a'\r'b'".toList := by
  have hcode : endState true "SELECT 'a'".toList = .code := by decide
  obtain ⟨hblock, hline⟩ := comment_transparent (b := "'b'".toList) hcode
  exact ⟨hcode, hblock "';/*".toList (by decide) (by decide) (by decide),
    hline "*/'".toList '\r' (by decide) (by decide) (.inr rfl) (by decide)⟩

end SqlStatements.Script
