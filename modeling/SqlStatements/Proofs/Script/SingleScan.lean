/-
  SqlStatements.Proofs.Script.SingleScan
  ──────────────────────────────────────
  **A script splits where its own scan finds the terminators.**

  The script is cut at the terminators of its one scan, and each segment then has its
  comments removed, its lines trimmed and its ends stripped by itself.  The three passes
  do this in another order: they trim lines that run across statements, and look for
  terminators in a text from which comments and white space are gone.  They come to the
  same statements (`splitScript_eq_singleScan`), so no terminator is missed and none is
  invented.

  Main results:

    • `splitOnP_trimmedBetween` — the pieces of a trimmed text are the trimmed pieces, up
      to the white space at their ends,
    • `splitOnP_scan`           — the segments between terminators, from spans or marks,
    • `splitScript_eq_singleScan`.
-/
import SqlStatements.Proofs.Lexical.Grammar
import SqlStatements.Proofs.Lexical.Seam
import SqlStatements.Proofs.Script.Passes

namespace SqlStatements.Script

open Lexical Text

/-! ## §1. The reference. -/

/-- The texts between the terminators of the scan of a script. -/
def scanSegments (text : List Char) : List (List Char) :=
  ((scan true text .code).splitOnP (·.terminator)).map (·.flatMap (·.text))

/-- The statement that a segment is by itself; empty if it holds none. -/
def statementIn (segment : List Char) : List Char :=
  strip (trimLines (removeComments segment))

/-! ## §2. Spans and marks. -/

/-- Where terminators are single characters, spans and their labels are cut alike. -/
theorem splitOnP_labels {spans : List Span}
    (h : ∀ s ∈ spans, s.terminator = true → s.text = [';']) :
    (labels spans).splitOnP (·.terminator) = (spans.splitOnP (·.terminator)).map labels := by
  induction spans with
  | nil => rfl
  | cons s spans ih =>
      have ih := ih fun s' hs' => h s' (List.mem_cons_of_mem s hs')
      obtain ⟨first, others, hspans⟩ :=
        List.exists_cons_of_ne_nil (List.splitOnP_ne_nil (·.terminator) spans)
      rw [hspans, List.map_cons] at ih
      show (s.labels ++ labels spans).splitOnP (·.terminator) = _
      rw [List.splitOnP_cons_eq_if_modifyHead, hspans]
      cases hs : s.terminator with
      | true =>
          -- a terminator has one label, and both lists are cut at it
          have hlabels : s.labels = [⟨';', s.state, true, false⟩] := by
            simp [Span.labels, h s List.mem_cons_self hs, hs]
          rw [hlabels, List.singleton_append, List.splitOnP_cons_eq_if_modifyHead, ih]
          rfl
      | false =>
          -- the labels of any other span go to the first piece
          have hnone : ∀ m ∈ s.labels, m.terminator = false := by simp [Span.labels, hs]
          rw [splitOnP_append_of_none hnone ih]
          rfl

/-- **The segments of a script can be read off its marks.** -/
theorem splitOnP_scan (text : List Char) :
    scanSegments text = ((marks true text .code).splitOnP (·.terminator)).map unmark := by
  -- the spans are a reading by the grammar, where a terminator is a single character
  have hcut := splitOnP_labels (lexed_scan true text).text_of_terminator
  have hunmark : (fun piece : List Span => piece.flatMap (·.text)) = unmark ∘ labels := by
    funext piece
    exact (unmark_labels piece).symm
  have hmarks : unmark ∘ List.map Mark.label = unmark := by
    funext piece
    exact unmark_map_label piece
  unfold scanSegments
  rw [hunmark, ← List.map_map, ← hcut, labels_scan, splitOnP_map, List.map_map, hmarks]
  rfl

/-! ## §3. Trimming and cutting. -/

/-- **The pieces of a trimmed text are the trimmed pieces**, up to the white space at
their ends.  The induction is on the terminators from the last to the first. -/
theorem splitOnP_trimmedBetween (left right : Bool) (ms : List Mark)
    (h : ∀ m ∈ ms, m.terminator = true → m.char = ';') :
    ((trimmedBetween left right ms).splitOnP (·.terminator)).map (fun p => strip (unmark p))
      = (ms.splitOnP (·.terminator)).map fun p => strip (unmark (trimmed p)) := by
  rcases none_or_exists_last (·.terminator) ms with hnone | ⟨front, m, last, rfl, hm, hlast⟩
  · have htrimmed : ∀ m ∈ trimmedBetween left right ms, m.terminator = false := by
      intro m hm
      rcases mem_trimmedBetween hm with rfl | hm
      · rfl
      · exact hnone m hm
    rw [List.splitOnP_eq_singleton htrimmed, List.splitOnP_eq_singleton hnone, List.map_singleton,
      List.map_singleton, strip_trimmedBetween]
  · have hchar : m.char = ';' := h m (by simp) hm
    have hline : endsLine m = false := by simp [endsLine, hchar]
    have hblank : isBlank m.char = false := by rw [hchar]; rfl
    -- a terminator is not blank, so it separates the lines on its two sides
    have ihFront := splitOnP_trimmedBetween left true front fun m' hm' => h m' (by simp [hm'])
    have ihLast := splitOnP_trimmedBetween true right last fun m' hm' => h m' (by simp [hm'])
    rw [trimmedBetween_append left right hline hblank, List.splitOnP_append_cons _ _ hm,
      List.splitOnP_append_cons _ _ hm, List.map_append, List.map_append, ihFront, ihLast]
termination_by ms.length

/-! ## §4. The theorem. -/

/-- What is left without the comments is cut where the script is. -/
theorem splitOnP_kept (text : List Char) :
    ((kept (marks true text .code)).map Mark.label).splitOnP (·.terminator)
      = ((marks true text .code).splitOnP (·.terminator)).map
          fun part => (kept part).map Mark.label := by
  -- terminators are code, so none of them goes with the comments
  have hstays : ∀ m ∈ marks true text .code, m.terminator = true →
      (!m.state.isComment) = true := by
    intro m hm hterminator
    rw [(char_of_terminator true text _ m hm hterminator).2]
    rfl
  have hlabel : (fun m : Mark => m.terminator) ∘ Mark.label = (·.terminator) := rfl
  unfold kept
  rw [splitOnP_map, hlabel, splitOnP_filter hstays, List.map_map]
  rfl

/-- A part of a script that is read as a script of its own has the statement that its
marks have. -/
theorem statementIn_unmark {part : List Mark} (h : marks true (unmark part) .code = part) :
    statementIn (unmark part) = strip (unmark (trimmed ((kept part).map Mark.label))) := by
  unfold statementIn
  rw [trimLines_eq, labelsFrom_removeComments, h]

/-- **Splitting a script is one scan**: cut the script at the terminators of its scan,
take the statement that each segment is by itself, and leave the empty ones out. -/
theorem splitScript_eq_singleScan (text : List Char) :
    splitScript text false = ((scanSegments text).map statementIn).filter (!·.isEmpty) := by
  have hchar : ∀ m ∈ (kept (marks true text .code)).map Mark.label,
      m.terminator = true → m.char = ';' := by
    intro m hm hterminator
    obtain ⟨m', hm', rfl⟩ := List.mem_map.mp hm
    exact (char_of_terminator true text _ m' (List.mem_of_mem_filter hm') hterminator).1
  -- first the pieces of the trimmed labels, then what each piece is by itself
  have htrim := splitOnP_trimmedBetween false false _ hchar
  rw [trimmedBetween_alone, splitOnP_kept, List.map_map] at htrim
  have hparts : ∀ part ∈ (marks true text .code).splitOnP (·.terminator),
      strip (unmark (trimmed ((kept part).map Mark.label))) = statementIn (unmark part) :=
    fun part hpart => (statementIn_unmark (marks_of_mem_splitOnP hpart)).symm
  rw [splitScript_eq, segments_at_terminators, splitOnP_scan, statementsOf, List.map_map,
    List.map_map]
  exact congrArg _ (htrim.trans (List.map_congr_left hparts))

/-- A comment takes the terminator in it along, the two dashes around it begin no other
comment, and a line with nothing but a terminator holds no statement. -/
example :
    splitScript ['a', ';', '-', '/', '*', ';', '*', '/', '-', '\n', ';'] false
      = [['a'], ['-', '-']] := by decide

end SqlStatements.Script
