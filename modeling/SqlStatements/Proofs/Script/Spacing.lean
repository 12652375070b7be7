/-
  SqlStatements.Proofs.Script.Spacing
  ───────────────────────────────────
  **Trimming changes only the white space between tokens.**

  White space in code says nothing but where one token ends and the next one begins, so it
  may as well be one space, and none at the two ends of a text (`normalSpacing`).  Trimming
  leaves some white space wherever there was some between two runs of ink, and puts none
  where there was none: the normal spacing of a text is the same before and after.

  A literal is all ink.  So it stands in one run, and the literals of a text can be read off
  its runs.

  Main results:

    • `gluedLiterals_inkRuns`    — the literals of a text from its runs of ink,
    • `normalSpacing_trimLines`  — tokens and literals are those of the text.
-/
import SqlStatements.Proofs.Script.GluedLiterals
import SqlStatements.Proofs.Script.Ink

namespace SqlStatements.Script

open Lexical Text

/-! ## §1. Normal spacing. -/

/-- A text with one space for each run of white space in its code, and none at its ends.
Literals stand as they are, an open one at the end included. -/
def normalSpacing (text : List Char) : List Char :=
  List.intercalate [' '] ((inkRuns (labels (scan false text .code))).map unmark)

example : normalSpacing "\t a  \n\n 'b  c';\x0b'd \n".toList = "a 'b  c'; 'd \n".toList := by decide

/-! ## §2. Literals and runs of ink. -/

/-- Where a literal stands first, a literal is found. -/
theorem gluedLiterals_ne_nil {fragment : Fragment} (h : fragment.state.isQuoted = true) :
    ∀ rest, gluedLiterals (fragment :: rest) ≠ []
  | [] => by simp [gluedLiterals, h]
  | next :: rest => by
      by_cases hnext : next.state = fragment.state
      · rw [gluedLiterals_cons_meets h (by simp [hnext]), Ne, List.modifyHead_eq_nil_iff]
        exact gluedLiterals_ne_nil (hnext ▸ h) rest
      · rw [gluedLiterals_cons_apart h (by simp [hnext])]
        exact List.cons_ne_nil _ _

/-- Nothing is glued across a fragment that is no literal. -/
theorem gluedLiterals_append_other {other : Fragment} (h : other.state.isQuoted = false)
    (ys : List Fragment) :
    ∀ xs, gluedLiterals (xs ++ other :: ys) = gluedLiterals xs ++ gluedLiterals ys
  | [] => gluedLiterals_cons_other h
  | [fragment] => by
      cases hquoted : fragment.state.isQuoted with
      | false =>
          rw [List.singleton_append, gluedLiterals_cons_other hquoted, gluedLiterals_cons_other h,
            gluedLiterals_cons_other hquoted]
          rfl
      | true =>
          have hapart : other.state ≠ fragment.state := by
            rintro hstate
            rw [hstate, hquoted] at h
            exact Bool.noConfusion h
          rw [List.singleton_append, gluedLiterals_cons_apart hquoted (by simp [hapart]),
            gluedLiterals_cons_other h, gluedLiterals_cons_apart hquoted (by simp)]
          rfl
  | fragment :: next :: xs => by
      have ih := gluedLiterals_append_other h ys (next :: xs)
      rw [List.cons_append]
      cases hquoted : fragment.state.isQuoted with
      | false => rw [gluedLiterals_cons_other hquoted, gluedLiterals_cons_other hquoted, ih]
      | true =>
          by_cases hnext : next.state = fragment.state
          · -- the next fragment is a literal too, so the first one is glued on this side
            obtain ⟨first, others, hfirst⟩ :=
              List.exists_cons_of_ne_nil (gluedLiterals_ne_nil (hnext ▸ hquoted) xs)
            rw [gluedLiterals_cons_meets hquoted (by simp [hnext]),
              gluedLiterals_cons_meets hquoted (by simp [hnext]), ih, hfirst]
            rfl
          · rw [gluedLiterals_cons_apart hquoted (by simp [hnext]),
              gluedLiterals_cons_apart hquoted (by simp [hnext]), ih]
            rfl

/-- **The literals of a text are those of its runs of ink.** -/
theorem gluedLiterals_inkRuns (ms : List Mark) :
    (inkRuns ms).flatMap (fun run => gluedLiterals (characters run))
      = gluedLiterals (characters ms) := by
  have hcut : ∀ (xs : List Mark) (m : Mark) (ys : List Mark), (!isInk m) = true →
      gluedLiterals (characters (xs ++ m :: ys))
        = gluedLiterals (characters xs) ++ gluedLiterals (characters ys) := by
    intro xs m ys hm
    have hquoted : m.state.isQuoted = false := by
      cases hquoted : m.state.isQuoted with
      | false => rfl
      | true => simp [isInk, hquoted] at hm
    unfold characters
    rw [List.map_append, List.map_cons]
    exact gluedLiterals_append_other hquoted _ _
  -- an empty piece between two characters of white space holds no literal
  have hempty : ∀ pieces : List (List Mark),
      (pieces.filter (!·.isEmpty)).flatMap (fun run => gluedLiterals (characters run))
        = pieces.flatMap fun run => gluedLiterals (characters run) := by
    intro pieces
    induction pieces with
    | nil => rfl
    | cons piece pieces ih =>
        cases piece with
        | nil => simpa [characters, gluedLiterals] using ih
        | cons m piece => simp [ih]
  unfold inkRuns
  rw [hempty]
  exact flatMap_splitOnP hcut ms

/-! ## §3. Trimming. -/

/-- The runs of ink of a trimmed text are those of the text. -/
theorem inkRuns_trimLines (text : List Char) :
    inkRuns (labels (scan false (trimLines text) .code))
      = inkRuns (labels (scan false text .code)) := by
  rw [labels_scan_off, labels_scan_off, labelsFrom_trimLines,
    inkRuns_trimmed (labelled_labelsFrom text .code)]

theorem literalsOf_eq_inkRuns (text : List Char) :
    literalsOf (scan false text .code)
      = (inkRuns (labels (scan false text .code))).flatMap
          fun run => gluedLiterals (characters run) := by
  rw [literalsOf_scan_off, gluedLiterals_inkRuns, labels_scan_off]

/-- **Trimming changes only the white space between tokens.**  What white space in code
keeps apart is the same before and after, character by character and with its labels; so
are the text in its normal spacing and the literals. -/
theorem normalSpacing_trimLines (text : List Char) :
    inkRuns (labels (scan false (trimLines text) .code))
        = inkRuns (labels (scan false text .code))
      ∧ normalSpacing (trimLines text) = normalSpacing text
      ∧ literalsOf (scan false (trimLines text) .code) = literalsOf (scan false text .code) := by
  have hruns := inkRuns_trimLines text
  refine ⟨hruns, ?_, ?_⟩
  · unfold normalSpacing
    rw [hruns]
  · rw [literalsOf_eq_inkRuns, literalsOf_eq_inkRuns, hruns]

end SqlStatements.Script
