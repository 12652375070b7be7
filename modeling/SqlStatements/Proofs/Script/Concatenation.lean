/-
  SqlStatements.Proofs.Script.Concatenation
  ─────────────────────────────────────────
  **Scripts are put together with a semicolon between them.**

  A script that ends in code, with no block open, is finished by a terminator.  The scan
  is in code again behind it, a statement ends at it, and everything that was remembered
  is forgotten.  Only the line on which it stands belongs to both scripts: there the end of
  the first is kept as it is and the beginning of the second is no line of its own.  That
  makes a difference of blank characters at the ends of the two scripts, which the
  statements there are stripped of.

  Main result: `splitScript_append_terminator` — the statements of both scripts, those of
  the first before those of the second.
-/
import SqlStatements.Proofs.Lexical.Seam
import SqlStatements.Proofs.Script.Pieces

namespace SqlStatements.Script

open Lexical Text

/-! ## §1. Open blocks. -/

/-- The number of blocks that are open at the end of a text without comments. -/
def openBlocks (text : List Char) : Nat :=
  (readAll true {} (marks false text .code)).endWord.depth

theorem openBlocks_eq (text : List Char) :
    openBlocks text = (readAll true {} (labelsFrom .code text)).endWord.depth := by
  rw [← label_marksFrom_off text rfl true, readAll_map_label]
  rfl

/-! ## §2. The seam. -/

/-- Behind a script that ends in code a `;` is a terminator, and what follows it is read as
a script of its own. -/
theorem marks_append_terminator {a : List Char} (ha : endState true a = .code) (b : List Char) :
    marks true (a ++ ';' :: b) .code
      = marks true a .code ++ ⟨';', .code, true, true⟩ :: marks true b .code := by
  have hseparate : SeparateAt a (';' :: b) := by
    intro c _ d hd
    obtain rfl : ';' = d := by simpa using hd
    exact separate_terminator c
  obtain ⟨fresh, hmode⟩ := exists_modeAfter_eq true a
  have hseam : Reads true (.ready .code fresh) ';' b.head? ⟨';', .code, true, true⟩
      (.ready .code true) := .terminator
  rw [marks, marksFrom_append true a _ hseparate, hmode, ha, hseam.marksFrom_cons]
  rfl

/-- The labels that are left of two scripts with a terminator between them. -/
theorem kept_marks_append_terminator {a : List Char} (ha : endState true a = .code)
    (b : List Char) :
    (kept (marks true (a ++ ';' :: b) .code)).map Mark.label
      = labelsFrom .code (removeComments a)
        ++ semicolon :: labelsFrom .code (removeComments b) := by
  rw [marks_append_terminator ha, kept_append, kept_cons_kept rfl, List.map_append, List.map_cons,
    labelsFrom_removeComments, labelsFrom_removeComments]
  rfl

/-- Trimming the two sides of the terminator leaves padding around what it leaves of each
side alone. -/
theorem exists_trimmedBetween_padding (left right : Bool) (text : List Char) :
    ∃ before behind, Padding before ∧ Padding behind
      ∧ trimmedBetween left right (labelsFrom .code text)
        = before ++ labelsFrom .code (trimLines text) ++ behind := by
  obtain ⟨before, behind, hbefore, hbehind, htrimmed⟩ :=
    exists_trimmedBetween left right (labelsFrom .code text)
  -- what is trimmed is labelled as it was, so only a `;` is a terminator in it
  have hsemi := (labelled_trimmedBetween (labelled_labelsFrom text .code) left
    right).char_of_terminator
  rw [htrimmed] at hsemi
  refine ⟨before, behind, hbefore.padding fun m hm => hsemi m (by simp [hm]),
    hbehind.padding fun m hm => hsemi m (by simp [hm]), ?_⟩
  rw [htrimmed, labelsFrom_trimLines]

/-! ## §3. The theorem. -/

/-- A statement ends at the terminator behind a script in which no block is open. -/
theorem endsStatement_semicolon {a before behind : List Mark} {triggerBlocks : Bool}
    (hclosed : triggerBlocks = true → (readAll true {} a).endWord.depth = 0)
    (hbefore : Padding before) (hbehind : Padding behind) :
    endsStatement (readAll triggerBlocks {} (before ++ a ++ behind)) semicolon = true := by
  have hdepth : (readAll triggerBlocks {} (before ++ a ++ behind)).endWord.depth = 0 := by
    cases triggerBlocks with
    | false =>
        rw [readAll_off]
        rfl
    | true =>
        rw [endWord_readAll_padded hbefore hbehind]
        exact hclosed rfl
  unfold endsStatement
  rw [hdepth]
  rfl

/-- **Scripts with a terminator between them have the statements of both**, if the first
ends in code and leaves no block open.  So what is appended to a script behind a finished
statement never changes the statements before it. -/
theorem splitScript_append_terminator {a : List Char} (ha : endState true a = .code)
    {triggerBlocks : Bool}
    (hclosed : triggerBlocks = true → openBlocks (trimLines (removeComments a)) = 0)
    (b : List Char) :
    splitScript (a ++ ';' :: b) triggerBlocks
        = splitScript a triggerBlocks ++ splitScript b triggerBlocks
      ∧ splitScript (a ++ [';'] ++ b) triggerBlocks
        = splitScript (a ++ [';']) triggerBlocks ++ splitScript b triggerBlocks := by
  have happend : ∀ b, splitScript (a ++ ';' :: b) triggerBlocks
      = splitScript a triggerBlocks ++ splitScript b triggerBlocks := by
    intro b
    obtain ⟨before, behind, hbefore, hbehind, hleft⟩ :=
      exists_trimmedBetween_padding false true (removeComments a)
    obtain ⟨before', behind', hbefore', hbehind', hright⟩ :=
      exists_trimmedBetween_padding true false (removeComments b)
    have hclosed' : triggerBlocks = true →
        (readAll true {} (labelsFrom .code (trimLines (removeComments a)))).endWord.depth = 0 :=
      fun on => (openBlocks_eq _).symm.trans (hclosed on)
    have hends := endsStatement_semicolon hclosed' hbefore hbehind
    have hline : endsLine semicolon = false := rfl
    have hblank : isBlank semicolon.char = false := rfl
    -- the two sides are cut each by itself, with padding around them
    rw [splitScript_eq, kept_marks_append_terminator ha, ← trimmedBetween_alone,
      trimmedBetween_append false false hline hblank, hleft, hright,
      segments_append_of_ends hends, statementsOf_append, statementsOf_padded hbefore hbehind,
      statementsOf_padded hbefore' hbehind']
    unfold splitScript
    rw [splitStatements_eq, splitStatements_eq]
  refine ⟨happend b, ?_⟩
  have hfinished : splitScript (a ++ [';']) triggerBlocks = splitScript a triggerBlocks := by
    have hnil : splitScript [] triggerBlocks = [] := by cases triggerBlocks <;> rfl
    rw [happend [], hnil, List.append_nil]
  rw [hfinished, List.append_assoc]
  exact happend b

/-- A trigger whose block is closed in front of a comment is finished by the next
terminator, and what stands behind it is a statement of its own. -/
theorem splitScript_append_terminator_trigger :
    endState true "create trigger t begin a/*'*/; end--;\n".toList = .code
      ∧ openBlocks (trimLines (removeComments "create trigger t begin a/*'*/; end--;\n".toList)) = 0
      ∧ splitScript ("create trigger t begin a/*'*/; end--;\n".toList ++ ';' :: " b".toList) true
        = splitScript "create trigger t begin a/*'*/; end--;\n".toList true
          ++ splitScript " b".toList true := by
  have hcode : endState true "create trigger t begin a/*'*/; end--;\n".toList = .code := by
    decide +kernel
  have hclosed : openBlocks
      (trimLines (removeComments "create trigger t begin a/*'*/; end--;\n".toList)) = 0 := by
    decide +kernel
  exact ⟨hcode, hclosed, (splitScript_append_terminator hcode (fun _ => hclosed) _).1⟩

end SqlStatements.Script
