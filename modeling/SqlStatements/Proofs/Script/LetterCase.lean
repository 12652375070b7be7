/-
  SqlStatements.Proofs.Script.LetterCase
  ──────────────────────────────────────
  **A script is split alike, whatever the case of its letters.**

  Each pass does the same to a script in lower case: comments, lines and blanks are told by
  characters that are no letters, and the words of a statement are compared in capitals.  So
  the statements of a script in lower case are its statements, put into lower case.

  Two scripts that differ in the case of letters only are the same in lower case.  Hence they
  have the same number of statements, and each statement of the one differs from that of the
  other in the case of letters only; this holds of keywords, and of mixed case in them.

  Main results:

    • `splitScript_lowered`      — splitting and lower case commute,
    • `splitScript_sameButCase`  — two scripts with letters of another case.
-/
import SqlStatements.Proofs.Lexical.LetterCase
import SqlStatements.Proofs.Script.Passes

namespace SqlStatements.Script

open Lexical Text

/-! ## §1. Letters in words and blanks. -/

section
variable (c : Char)

theorem isBlank_toLower : isBlank c.toLower = isBlank c :=
  eq_of_toLower (by decide) c

theorem isLineTail_toLower : isLineTail c.toLower = isLineTail c :=
  eq_of_toLower (by decide) c

theorem startsWord_toLower : startsWord c.toLower = startsWord c :=
  eq_of_toLower (by decide) c

theorem continuesWord_toLower : continuesWord c.toLower = continuesWord c :=
  eq_of_toLower (by decide) c

/-- Words are remembered in capitals, so their case is forgotten. -/
theorem toUpper_toLower : c.toLower.toUpper = c.toUpper :=
  eq_of_toLower (by decide) c

end

/-! ## §2. The passes. -/

theorem removeComments_lowered (text : List Char) :
    removeComments (lowered text) = lowered (removeComments text) := by
  have hcomment : (!·.state.isComment) ∘ Mark.lowered = (!·.state.isComment) := rfl
  unfold removeComments
  rw [marks_lowered, List.filter_map, unmark_map_lowered, hcomment]

theorem trimLines_lowered (text : List Char) :
    trimLines (lowered text) = lowered (trimLines text) := by
  -- neither a line feed nor what a line loses at its end is a letter
  have hline : ∀ m : Mark, endsLine m.lowered = endsLine m := by
    intro m
    have hfeed : (m.char.toLower == '\n') = (m.char == '\n') :=
      eq_of_toLower (f := (· == '\n')) (by decide) m.char
    exact congrArg (m.state == .code && ·) hfeed
  have htail : ∀ m : Mark, isCodeTail m.lowered = isCodeTail m := fun m =>
    congrArg (m.state == .code && ·) (isLineTail_toLower m.char)
  have hunmark : unmark ∘ List.map Mark.lowered = lowered ∘ unmark := by
    funext line
    exact unmark_map_lowered line
  unfold trimLines
  rw [marks_lowered, keptLines_map hline (fun m => isBlank_toLower m.char) htail, List.map_map,
    hunmark, ← List.map_map]
  exact (map_intercalate Char.toLower ['\n'] _).symm

/-- A letter of either case goes on with a word, or begins one, and is remembered alike. -/
theorem Reading.read_lowered (r : Reading) (m : Mark) : r.read m.lowered = r.read m := by
  have htakes : r.takes m.lowered = r.takes m := by
    simp only [Reading.takes, Mark.lowered, startsWord_toLower, continuesWord_toLower]
  unfold Reading.read
  rw [htakes]
  simp only [Mark.lowered, toUpper_toLower]

theorem readingAfter_lowered (triggerBlocks : Bool) (r : Reading) (m : Mark) :
    readingAfter triggerBlocks r m.lowered = readingAfter triggerBlocks r m := by
  -- whether a statement ends is seen from its terminator and the words before it
  have hends : endsStatement r m.lowered = endsStatement r m := rfl
  unfold readingAfter
  rw [hends, Reading.read_lowered]

theorem strip_lowered (text : List Char) : strip (lowered text) = lowered (strip text) := by
  have hblank : isBlank ∘ Char.toLower = isBlank := funext isBlank_toLower
  unfold strip lowered
  rw [List.dropWhile_map, dropTrailing_map, hblank]

theorem splitStatements_lowered (text : List Char) (triggerBlocks : Bool) :
    splitStatements (lowered text) triggerBlocks
      = (splitStatements text triggerBlocks).map lowered := by
  have hsegments := segments_map (f := Mark.lowered) (g := Char.toLower) (fun _ => rfl)
    (fun _ _ => rfl) (readingAfter_lowered triggerBlocks) {} (marks false text .code)
  have hstrip : strip ∘ List.map Char.toLower = lowered ∘ strip := by
    funext piece
    exact strip_lowered piece
  have hempty : (!·.isEmpty) ∘ lowered = (!·.isEmpty) := by
    funext piece
    simp [lowered]
  unfold splitStatements statementsOf
  rw [marks_lowered, hsegments, List.map_map, hstrip, ← List.map_map, List.filter_map, hempty]

/-! ## §3. The whole script. -/

/-- **The statements of a script in lower case are its statements in lower case.** -/
theorem splitScript_lowered (text : List Char) (triggerBlocks : Bool) :
    splitScript (lowered text) triggerBlocks = (splitScript text triggerBlocks).map lowered := by
  unfold splitScript
  rw [removeComments_lowered, trimLines_lowered, splitStatements_lowered]

/-- Two texts of the same length that differ in the case of letters only.  Lower case changes
the letters `A` to `Z` and no other character (`toLower_cases`). -/
def SameButCase (text text' : List Char) : Prop :=
  List.Forall₂ (fun c c' => c.toLower = c'.toLower) text text'

instance (text text' : List Char) : Decidable (SameButCase text text') :=
  inferInstanceAs (Decidable (List.Forall₂ _ _ _))

/-- Two lists have the same image exactly if their elements have, one by one. -/
theorem map_eq_map_iff_forall₂ {α β : Type} {f : α → β} {xs ys : List α} :
    xs.map f = ys.map f ↔ List.Forall₂ (fun x y => f x = f y) xs ys := by
  rw [← List.forall₂_eq_eq_eq, List.forall₂_map_left_iff, List.forall₂_map_right_iff]

theorem sameButCase_iff {text text' : List Char} :
    SameButCase text text' ↔ lowered text = lowered text' :=
  map_eq_map_iff_forall₂.symm

/-- **Splitting ignores the case of letters**: scripts that differ in nothing else have equally
many statements, and these differ in nothing else, one by one. -/
theorem splitScript_sameButCase {text text' : List Char} (h : SameButCase text text')
    (triggerBlocks : Bool) :
    List.Forall₂ SameButCase (splitScript text triggerBlocks)
      (splitScript text' triggerBlocks) := by
  have hsame : (splitScript text triggerBlocks).map lowered
      = (splitScript text' triggerBlocks).map lowered := by
    rw [← splitScript_lowered, ← splitScript_lowered, sameButCase_iff.mp h]
  exact (map_eq_map_iff_forall₂.mp hsame).imp fun _ _ => sameButCase_iff.mpr

/-- A trigger with its keywords in capitals, and in letters of changing case: its body stays
whole, and both scripts have two statements. -/
theorem splitScript_sameButCase_trigger :
    SameButCase "CREATE TRIGGER t BEGIN x; END; y".toList "cReAte tRIGGER T bEGIn X; eNd; Y".toList
      ∧ List.Forall₂ SameButCase
          (splitScript "CREATE TRIGGER t BEGIN x; END; y".toList true)
          (splitScript "cReAte tRIGGER T bEGIn X; eNd; Y".toList true)
      ∧ (splitScript "CREATE TRIGGER t BEGIN x; END; y".toList true).length = 2 :=
  ⟨by decide, splitScript_sameButCase (by decide) true, by decide +kernel⟩

end SqlStatements.Script
