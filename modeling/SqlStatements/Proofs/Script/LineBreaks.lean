/-
  SqlStatements.Proofs.Script.LineBreaks
  ──────────────────────────────────────
  **Line breaks of two characters make no difference outside literals.**

  A carriage return before the line feed that ends a line of code is white space at the
  end of that line, and trimming takes it away.  A carriage return before a line feed in a
  literal stays, and is nothing to the cuts.  So a script with line breaks of two characters
  has the statements of the script with line breaks of one, each with its literals written
  in the same way.

  Main results:

    • `trimmed_withReturns`   — trimming leaves carriage returns in literals only,
    • `Pieces.withReturns`    — those make no difference to the cuts,
    • `literalsOf_crlf`       — nor to where literals begin and end,
    • `splitScript_crlf`      — the statements of the script.
-/
import SqlStatements.Proofs.Lexical.LineBreaks
import SqlStatements.Proofs.Lexical.Markers
import SqlStatements.Proofs.Script.GluedLiterals
import SqlStatements.Proofs.Script.Pieces

namespace SqlStatements.Script

open Lexical Text

/-! ## §1. Trimming. -/

/-- Whether a mark is of a line feed that ends no line. -/
def isInnerFeed (m : Mark) : Bool := m.state != .code && m.char == '\n'

theorem of_isInnerFeed {m : Mark} (h : isInnerFeed m = true) : m.state ≠ .code ∧ m.char = '\n' := by
  simpa [isInnerFeed] using h

/-- On a line every line feed is an inner one. -/
theorem isFeed_of_not_endsLine {m : Mark} (h : endsLine m = false) : isFeed m = isInnerFeed m := by
  cases hfeed : m.char == '\n' <;> simp_all [isFeed, isInnerFeed, endsLine]

/-- A line as it stands in the text with its line breaks of two characters: at its end
there may be a carriage return more. -/
def LineWithReturns (line line' : List Mark) : Prop :=
  ∃ tail, line' = withReturns isInnerFeed line ++ tail ∧ ∀ m ∈ tail, isCodeTail m = true

theorem LineWithReturns.cons {m : Mark} {line line' : List Mark} (h : LineWithReturns line line') :
    LineWithReturns (m :: line) (withReturns isInnerFeed [m] ++ line') := by
  obtain ⟨tail, rfl, htail⟩ := h
  refine ⟨tail, ?_, htail⟩
  rw [← List.append_assoc, ← withReturns_append]
  rfl

/-- **The text has the same lines.** -/
theorem codeLines_withReturns (ms : List Mark) :
    List.Forall₂ LineWithReturns (codeLines ms) (codeLines (withReturns isFeed ms)) := by
  unfold codeLines
  induction ms with
  | nil => exact .cons ⟨[], rfl, by simp⟩ .nil
  | cons m ms ih =>
      obtain ⟨first, others, hlines⟩ :=
        List.exists_cons_of_ne_nil (List.splitOnP_ne_nil endsLine ms)
      obtain ⟨first', others', hlines'⟩ :=
        List.exists_cons_of_ne_nil (List.splitOnP_ne_nil endsLine (withReturns isFeed ms))
      rw [hlines, hlines'] at ih
      obtain ⟨hfirst, hothers⟩ := List.forall₂_cons.mp ih
      have hreturn : endsLine { m with char := '\r' } = false := by simp [endsLine]
      rw [List.splitOnP_cons_eq_if_modifyHead, hlines]
      cases hline : endsLine m with
      | true =>
          -- the line ends here, in the other text behind the carriage return
          have hm : m.state = .code ∧ m.char = '\n' := by simpa [endsLine] using hline
          have hfeed : isFeed m = true := by simp [isFeed, hm.2]
          rw [withReturns_cons_pos hfeed, List.splitOnP_cons_eq_if_modifyHead,
            List.splitOnP_cons_eq_if_modifyHead, hlines', hline, hreturn]
          refine .cons ⟨[{ m with char := '\r' }], rfl, ?_⟩ ih
          simp [isCodeTail, hm.1, isLineTail]
      | false =>
          have hcons := hfirst.cons (m := m)
          cases hfeed : isFeed m with
          | true =>
              rw [withReturns_cons_pos (by rw [← isFeed_of_not_endsLine hline, hfeed])] at hcons
              rw [withReturns_cons_pos hfeed, List.splitOnP_cons_eq_if_modifyHead,
                List.splitOnP_cons_eq_if_modifyHead, hlines', hline, hreturn]
              exact .cons hcons hothers
          | false =>
              rw [withReturns_cons_neg (by rw [← isFeed_of_not_endsLine hline, hfeed])] at hcons
              rw [withReturns_cons_neg hfeed, List.splitOnP_cons_eq_if_modifyHead, hlines', hline]
              exact .cons hcons hothers

theorem isBlankLine_withReturns (line : List Mark) :
    isBlankLine (withReturns isInnerFeed line) = isBlankLine line := by
  induction line with
  | nil => rfl
  | cons m line ih =>
      unfold isBlankLine at ih ⊢
      cases h : isInnerFeed m with
      | true =>
          have hreturn : isBlank '\r' = true := rfl
          rw [withReturns_cons_pos h, List.all_cons, List.all_cons, List.all_cons, ih, hreturn]
          rfl
      | false => rw [withReturns_cons_neg h, List.all_cons, List.all_cons, ih]

/-- A line is blank in one text if it is in the other. -/
theorem LineWithReturns.isBlankLine_eq {line line' : List Mark} (h : LineWithReturns line line') :
    isBlankLine line' = isBlankLine line := by
  obtain ⟨tail, rfl, htail⟩ := h
  have hblank : isBlankLine tail = true :=
    isBlankLine_iff.mpr fun m hm => (of_isCodeTail (htail m hm)).2
  unfold isBlankLine at hblank ⊢
  rw [List.all_append, hblank, Bool.and_true]
  exact isBlankLine_withReturns line

/-- What is left of the line at its end is the same. -/
theorem LineWithReturns.dropTrailing_eq {line line' : List Mark} (h : LineWithReturns line line') :
    dropTrailing isCodeTail line' = withReturns isInnerFeed (dropTrailing isCodeTail line) := by
  obtain ⟨tail, rfl, htail⟩ := h
  obtain ⟨cut, hline, hcut⟩ := exists_dropTrailing_append isCodeTail line
  have hsame : withReturns isInnerFeed cut = cut := by
    refine withReturns_eq_self fun m hm => ?_
    simp [isInnerFeed, (of_isCodeTail (hcut m hm)).1]
  rw [dropTrailing_append_all _ htail]
  conv => lhs; rw [hline]
  rw [withReturns_append, hsame, dropTrailing_append_all _ hcut]
  -- what is left ends with the mark with which the line ended after the cut
  refine dropTrailing_of_getLast? ?_
  rw [getLast?_withReturns]
  exact getLast?_dropTrailing isCodeTail line

/-- The same lines are kept. -/
theorem keptLines_withReturns (ms : List Mark) :
    keptLines (withReturns isFeed ms) = (keptLines ms).map (withReturns isInnerFeed) := by
  unfold keptLines
  generalize codeLines ms = lines, codeLines (withReturns isFeed ms) = lines',
    codeLines_withReturns ms = hlines
  induction hlines with
  | nil => rfl
  | @cons line line' lines lines' hline hlines ih =>
      rw [List.filter_cons, List.filter_cons, hline.isBlankLine_eq]
      cases isBlankLine line with
      | true => exact ih
      | false =>
          show dropTrailing isCodeTail line' :: List.map _ _ = _
          rw [ih, hline.dropTrailing_eq]
          rfl

theorem withReturns_intercalate (lines : List (List Mark)) :
    withReturns isInnerFeed (List.intercalate [lineFeed] lines)
      = List.intercalate [lineFeed] (lines.map (withReturns isInnerFeed)) := by
  have hfeed : withReturns isInnerFeed [lineFeed] = [lineFeed] := rfl
  induction lines with
  | nil => rfl
  | cons line lines ih =>
      cases lines with
      | nil => simp
      | cons next more =>
          rw [List.intercalate_cons_cons, withReturns_append, withReturns_append, hfeed, ih]
          simp [List.intercalate_cons_cons]

/-- **Trimming leaves carriage returns in literals only.** -/
theorem trimmed_withReturns (ms : List Mark) :
    trimmed (withReturns isFeed ms) = withReturns isInnerFeed (trimmed ms) := by
  unfold trimmed
  rw [keptLines_withReturns, withReturns_intercalate]

/-- The labels of the script, trimmed. -/
theorem labelsFrom_trimLines_crlf (text : List Char) :
    labelsFrom .code (trimLines (removeComments (crlf text)))
      = withReturns isInnerFeed (labelsFrom .code (trimLines (removeComments text))) := by
  have hmarks : (marks true (crlf text) .code).map Mark.label
      = withReturns isFeed ((marks true text .code).map Mark.label) :=
    map_label_marksFrom_crlf true text (.ready .code true) .ready
  rw [labelsFrom_trimLines, labelsFrom_trimLines, labelsFrom_removeComments,
    labelsFrom_removeComments, ← kept_map_label, ← kept_map_label, hmarks, kept_withReturns,
    trimmed_withReturns]

/-! ## §2. Cutting. -/

section
variable {triggerBlocks : Bool}

/-- A carriage return in a literal is in no word, like its line feed. -/
theorem inert_innerFeed {m : Mark} (h : isInnerFeed m = true) (hm : m.terminator = false) :
    Inert [{ m with char := '\r' }, m] ∧ Inert [m] := by
  have hcode := (of_isInnerFeed h).1
  constructor <;> simp [Inert, inWord, hcode, hm]

/-- Carriage returns in literals change nothing that is remembered. -/
theorem readAll_withReturns {ms : List Mark}
    (hsemi : ∀ m ∈ ms, m.terminator = true → m.char = ';') (r : Reading) :
    readAll triggerBlocks r (withReturns isInnerFeed ms) = readAll triggerBlocks r ms := by
  induction ms generalizing r with
  | nil => rfl
  | cons m ms ih =>
      obtain ⟨hm, hms⟩ := List.forall_mem_cons.mp hsemi
      have hfirst : readAll triggerBlocks r (withReturns isInnerFeed [m])
          = readAll triggerBlocks r [m] := by
        cases hfeed : isInnerFeed m with
        | false => rw [withReturns_cons_neg hfeed, withReturns_nil]
        | true =>
            obtain ⟨hboth, hone⟩ := inert_innerFeed hfeed (by simp_all [of_isInnerFeed hfeed])
            rw [withReturns_cons_pos hfeed, withReturns_nil, readAll_inert hboth (by simp),
              readAll_inert hone (by simp)]
      rw [← List.singleton_append, withReturns_append, readAll_append, readAll_append, hfirst,
        ih hms]

/-- They end no statement. -/
theorem Uncut.withReturns {ms : List Mark} {r : Reading} (h : Uncut triggerBlocks r ms)
    (hsemi : ∀ m ∈ ms, m.terminator = true → m.char = ';') :
    Uncut triggerBlocks r (withReturns isInnerFeed ms) := by
  induction ms generalizing r with
  | nil => exact h
  | cons m ms ih =>
      obtain ⟨hm, hms⟩ := List.forall_mem_cons.mp hsemi
      obtain ⟨hends, hrest⟩ := (uncut_cons triggerBlocks).mp h
      have hread : readAll triggerBlocks r (Lexical.withReturns isInnerFeed [m])
          = readAll triggerBlocks r [m] := readAll_withReturns (by simpa using hm) r
      rw [← List.singleton_append, withReturns_append, uncut_append, hread]
      refine ⟨?_, ih hrest hms⟩
      cases hfeed : isInnerFeed m with
      | false =>
          rw [withReturns_cons_neg hfeed, withReturns_nil, uncut_cons]
          exact ⟨hends, uncut_nil triggerBlocks _⟩
      | true =>
          have hboth := (inert_innerFeed hfeed (by simp_all [of_isInnerFeed hfeed])).1
          rw [withReturns_cons_pos hfeed, withReturns_nil]
          exact uncut_of_none (fun m' hm' => (hboth m' hm').2) r

/-- **They make no difference to the cuts.** -/
theorem Pieces.withReturns {ms : List Mark} {pieces : List (List Mark)}
    (h : Pieces triggerBlocks ms pieces)
    (hsemi : ∀ m ∈ ms, m.terminator = true → m.char = ';') :
    Pieces triggerBlocks (withReturns isInnerFeed ms)
      (pieces.map (Lexical.withReturns isInnerFeed)) := by
  induction h with
  | last uncut => exact .last (uncut.withReturns hsemi)
  | @cons piece m rest pieces uncut ends more ih =>
      have hpiece : ∀ m ∈ piece, m.terminator = true → m.char = ';' :=
        fun m' hm' => hsemi m' (by simp [hm'])
      have hm : isInnerFeed m = false := by
        simp [isInnerFeed, hsemi m (by simp) (terminator_of_ends ends)]
      rw [withReturns_append, withReturns_cons_neg hm]
      refine .cons (uncut.withReturns hpiece) ?_ (ih fun m' hm' => hsemi m' (by simp [hm']))
      rw [readAll_withReturns hpiece]
      exact ends

end

/-! ## §3. Statements. -/

/-- A span of a literal with line breaks of two characters in it; any other span as it is. -/
def crlfSpan (s : Span) : Span :=
  if s.state.isQuoted then { s with text := crlf s.text } else s

/-- A text with a carriage return before each line feed that stands in a literal. -/
def crlfLiterals (text : List Char) : List Char :=
  (scan false text .code).flatMap fun s => (crlfSpan s).text

/-- With comments off a text has code and literals only. -/
theorem isQuoted_of_mem_scan_off {text : List Char} {s : Span} (hs : s ∈ scan false text .code)
    (hcode : s.state ≠ .code) : s.state.isQuoted = true := by
  obtain ⟨m, hm, hstate⟩ := exists_mark_of_mem_scan hs
  have hkept : kept (marks false text .code) = marks false text .code :=
    kept_marksFrom_off text (.ready .code true) rfl
  rw [← hkept] at hm
  have hcomment : s.state.isComment = false := by simpa [← hstate] using (List.mem_filter.mp hm).2
  cases hs : s.state <;> simp_all [State.isComment, State.isQuoted]

/-- The labels of such a span. -/
theorem labels_crlfSpan {text : List Char} {s : Span} (hs : s ∈ scan false text .code) :
    (crlfSpan s).labels = withReturns isInnerFeed s.labels := by
  by_cases hcode : s.state = .code
  · have hnone : ∀ m ∈ s.labels, isInnerFeed m = false := by
      intro m hm
      obtain ⟨c, -, rfl⟩ := List.mem_map.mp hm
      simp [isInnerFeed, hcode]
    rw [withReturns_eq_self hnone, crlfSpan, hcode]
    rfl
  · rw [crlfSpan, isQuoted_of_mem_scan_off hs hcode, if_pos rfl]
    simp only [Span.labels, crlf, withReturns, List.map_flatMap, List.flatMap_map]
    congr 1
    funext c
    by_cases hc : c = '\n' <;> simp [isInnerFeed, hcode, hc]

/-- **In the text there is a carriage return before each inner line feed.** -/
theorem labels_map_crlfSpan (text : List Char) :
    labels ((scan false text .code).map crlfSpan)
      = withReturns isInnerFeed (labelsFrom .code text) := by
  rw [← labels_scan_off]
  unfold labels withReturns
  rw [List.flatMap_map, List.flatMap_assoc]
  exact List.flatMap_congr fun s hs => labels_crlfSpan hs

theorem unmark_withReturns_labelsFrom (text : List Char) :
    unmark (withReturns isInnerFeed (labelsFrom .code text)) = crlfLiterals text := by
  rw [← labels_map_crlfSpan, unmark_labels, List.flatMap_map]
  rfl

/-- A carriage return in a literal is read there as its line feed is. -/
theorem labelled_withReturns {s s' : State} {ms : List Mark} (h : Labelled s ms s') :
    Labelled s (withReturns isInnerFeed ms) s' := by
  induction h with
  | nil => exact .nil
  | @cons s s' c ms rest ih =>
      cases hfeed : isInnerFeed (s.label c) with
      | false =>
          rw [withReturns_cons_neg hfeed]
          exact .cons ih
      | true =>
          rw [withReturns_cons_pos hfeed]
          obtain ⟨hstate, hc⟩ := of_isInnerFeed hfeed
          obtain rfl : c = '\n' := by simpa using hc
          have hs : s ≠ .code := by
            rintro rfl
            exact hstate rfl
          have hreturn : { s.label '\n' with char := '\r' } = s.label '\r' := by
            simp [State.label, hs]
          have hafter : s.after '\r' = s := by
            cases s <;> simp_all [State.after, State.quote?]
          rw [hreturn]
          refine .cons ?_
          rw [hafter]
          exact .cons ih

theorem labelsFrom_crlfLiterals (text : List Char) :
    labelsFrom .code (crlfLiterals text) = withReturns isInnerFeed (labelsFrom .code text) := by
  rw [← unmark_withReturns_labelsFrom]
  exact (labelled_withReturns (labelled_labelsFrom text .code)).labelsFrom_eq.1

/-- The marks of a text keep their place, so its ends are what they were. -/
theorem strip_crlfLiterals {text : List Char} (h : strip text = text) :
    strip (crlfLiterals text) = crlfLiterals text := by
  have hfirst := head?_strip text
  have hlast := getLast?_strip text
  rw [h] at hfirst hlast
  rw [← unmark_withReturns_labelsFrom]
  refine strip_eq_self ?_ ?_
  · cases text with
    | nil => simp [labelsFrom]
    | cons c rest =>
        have hc : isBlank c = false := hfirst c rfl
        -- the first character is no line feed, so nothing is written before it
        have hfeed : isInnerFeed (State.code.label c) = false := by
          cases hfeed : isInnerFeed (State.code.label c) with
          | false => rfl
          | true =>
              obtain rfl : c = '\n' := by simpa using (of_isInnerFeed hfeed).2
              exact absurd hc (by decide)
        rw [labelsFrom, withReturns_cons_neg hfeed]
        simpa using hc
  · rwa [unmark, List.getLast?_map, getLast?_withReturns, ← List.getLast?_map, ← unmark,
      unmark_labelsFrom]

/-- What is stripped off a text has no literal in it. -/
theorem strip_unmark_withReturns (text : List Char) :
    strip (unmark (withReturns isInnerFeed (labelsFrom .code text)))
      = crlfLiterals (strip text) := by
  have hpadding : ∀ {ms : List Mark}, Padding ms →
      ∀ c ∈ unmark (withReturns isInnerFeed ms), isBlank c = true := by
    intro ms h
    refine allBlank_iff_unmark.mp fun m hm => ?_
    rcases mem_withReturns hm with hm | ⟨feed, -, -, rfl⟩
    · exact (h m hm).1
    · rfl
  obtain ⟨before, behind, hbefore, hbehind, hlabels⟩ := exists_labelsFrom_strip text
  rw [hlabels, withReturns_append, withReturns_append, unmark_append, unmark_append,
    strip_append_blank _ (hpadding hbehind), strip_blank_append (hpadding hbefore),
    unmark_withReturns_labelsFrom, strip_crlfLiterals (strip_strip text)]

theorem crlfLiterals_eq_nil_iff {text : List Char} : crlfLiterals text = [] ↔ text = [] := by
  constructor
  · intro hnil
    have hlength := congrArg List.length (congrArg (labelsFrom .code) hnil)
    rw [labelsFrom_crlfLiterals] at hlength
    cases text with
    | nil => rfl
    | cons c rest =>
        rw [labelsFrom] at hlength
        cases hfeed : isInnerFeed (State.code.label c) <;>
          simp [withReturns, hfeed, labelsFrom] at hlength
  · rintro rfl
    rfl

/-- **The statements of the text**, each with its literals written in the same way. -/
theorem splitStatements_crlfLiterals (text : List Char) (triggerBlocks : Bool) :
    splitStatements (crlfLiterals text) triggerBlocks
      = (splitStatements text triggerBlocks).map crlfLiterals := by
  obtain ⟨pieces, hpieces⟩ := exists_pieces triggerBlocks (labelsFrom .code text)
  have hlabelled := labelled_labelsFrom text .code
  have hsame := hpieces.withReturns hlabelled.char_of_terminator
  rw [splitStatements_eq, splitStatements_eq, labelsFrom_crlfLiterals, hsame.segments_eq,
    hpieces.segments_eq]
  have hstrip : ∀ piece ∈ pieces, strip (unmark (withReturns isInnerFeed piece))
      = crlfLiterals (strip (unmark piece)) := by
    intro piece hpiece
    obtain ⟨-, s, hlabels⟩ := hpieces.uncut_labelled hlabelled piece hpiece
    rw [← strip_unmark_withReturns, hlabels.labelsFrom_eq.1]
  -- a piece is left out of the one text if it is left out of the other
  have hempty : (fun statement : List Char => !statement.isEmpty) ∘ crlfLiterals
      = fun statement => !statement.isEmpty := by
    funext statement
    rw [Function.comp_apply, Bool.eq_iff_iff]
    simp [crlfLiterals_eq_nil_iff]
  calc statementsOf ((pieces.map (withReturns isInnerFeed)).map unmark)
      = (pieces.map fun piece => crlfLiterals (strip (unmark piece))).filter (!·.isEmpty) := by
        unfold statementsOf
        rw [List.map_map, List.map_map]
        exact congrArg _ (List.map_congr_left hstrip)
    _ = ((pieces.map fun piece => strip (unmark piece)).map crlfLiterals).filter
          (!·.isEmpty) := by
        rw [List.map_map]
        rfl
    _ = (statementsOf (pieces.map unmark)).map crlfLiterals := by
        rw [List.filter_map, hempty, statementsOf, List.map_map]
        rfl

/-! ## §4. Literals. -/

/-- **The literals of such a text** are those of the text, written with line breaks of two
characters. -/
theorem literalsOf_crlf (text : List Char) :
    literalsOf (scan false (crlfLiterals text) .code)
      = literalsOf ((scan false text .code).map crlfSpan) := by
  have hstate : ∀ s : Span, (crlfSpan s).state = s.state := by
    intro s
    unfold crlfSpan
    split <;> rfl
  have hne : ∀ s ∈ (scan false text .code).map crlfSpan, s.text ≠ [] := by
    intro s' hs'
    obtain ⟨s, hs, rfl⟩ := List.mem_map.mp hs'
    obtain ⟨c, cs, htext⟩ := List.exists_cons_of_ne_nil ((lexed_scan false text).text_ne_nil s hs)
    unfold crlfSpan
    split
    · by_cases hc : c = '\n' <;> simp [htext, crlf, hc]
    · simp [htext]
  -- a span keeps its kind, so no two literals of one kind meet
  have hapart : (((scan false text .code).map crlfSpan).map fragmentOf).IsChain Apart := by
    have happart := isChain_apart (lexed_scan false text)
    rw [List.isChain_map] at happart ⊢
    rw [List.isChain_map]
    refine happart.imp fun s s' h => ?_
    simpa [Apart, fragmentOf, hstate] using h
  calc literalsOf (scan false (crlfLiterals text) .code)
      = gluedLiterals (characters (labels ((scan false text .code).map crlfSpan))) := by
        rw [literalsOf_scan_off, labelsFrom_crlfLiterals, labels_map_crlfSpan]
    _ = gluedLiterals (((scan false text .code).map crlfSpan).map fragmentOf) :=
        (gluedLiterals_labels _ hne).1
    _ = literalsOf ((scan false text .code).map crlfSpan) :=
        (gluedLiterals_eq_iff _).mpr hapart

/-- In the code of such a text there is no carriage return that the text does not have. -/
theorem return_not_mem_code {text : List Char} (hnone : '\r' ∉ text) {s : Span}
    (hs : s ∈ scan false (crlfLiterals text) .code) (hcode : s.state = .code) :
    '\r' ∉ s.text := by
  intro hreturn
  have hlabel : (⟨'\r', s.state, s.terminator, false⟩ : Mark)
      ∈ labels (scan false (crlfLiterals text) .code) :=
    List.mem_flatMap.mpr ⟨s, hs, List.mem_map_of_mem hreturn⟩
  rw [labels_scan_off, labelsFrom_crlfLiterals] at hlabel
  rcases mem_withReturns hlabel with hm | ⟨feed, -, hfeed, heq⟩
  · rw [← unmark_labelsFrom .code text] at hnone
    exact hnone (List.mem_map_of_mem hm)
  · obtain ⟨hstate, -⟩ := of_isInnerFeed hfeed
    have hsame : s.state = feed.state := congrArg Mark.state heq
    exact hstate (by rw [← hsame, hcode])

/-! ## §5. Scripts. -/

/-- All that a statement has and its script has not are line feeds. -/
theorem mem_of_mem_statement {text statement : List Char} {triggerBlocks : Bool}
    (hmem : statement ∈ splitScript text triggerBlocks) {c : Char} (hc : c ∈ statement) :
    c = '\n' ∨ c ∈ text := by
  rw [← unmark_labelsFrom .code statement] at hc
  obtain ⟨m, hm, rfl⟩ := List.mem_map.mp hc
  have hin := (labelsFrom_infix_of_mem hmem).subset hm
  rw [labelsFrom_trimLines, ← trimmedBetween_alone] at hin
  rcases mem_trimmedBetween hin with rfl | hin
  · exact .inl rfl
  · rw [labelsFrom_removeComments] at hin
    obtain ⟨m', hm', rfl⟩ := List.mem_map.mp hin
    have hkept : m' ∈ marks true text .code := List.mem_of_mem_filter hm'
    rw [← unmark_marks true text .code]
    exact .inr (List.mem_map.mpr ⟨m', hkept, rfl⟩)

/-- **Line breaks of two characters make no difference outside literals.**  With them a
script has the same statements, each with its literals written in this way and none of them
lost; and no carriage return is left in the code of a statement if the script had none. -/
theorem splitScript_crlf (text : List Char) (triggerBlocks : Bool) :
    splitScript (crlf text) triggerBlocks = (splitScript text triggerBlocks).map crlfLiterals
      ∧ (∀ statement ∈ splitScript text triggerBlocks,
          literalsOf (scan false (crlfLiterals statement) .code)
            = literalsOf ((scan false statement .code).map crlfSpan))
      ∧ ('\r' ∉ text → ∀ statement ∈ splitScript (crlf text) triggerBlocks,
          ∀ s ∈ scan false statement .code, s.state = .code → '\r' ∉ s.text) := by
  have hstatements :
      splitScript (crlf text) triggerBlocks
        = (splitScript text triggerBlocks).map crlfLiterals := by
    -- trimming leaves carriage returns in literals only, and those do not move the cuts
    have htrimmed : trimLines (removeComments (crlf text))
        = crlfLiterals (trimLines (removeComments text)) := by
      rw [← unmark_labelsFrom .code (trimLines (removeComments (crlf text))),
        labelsFrom_trimLines_crlf, unmark_withReturns_labelsFrom]
    unfold splitScript
    rw [htrimmed, splitStatements_crlfLiterals]
  refine ⟨hstatements, fun statement _ => literalsOf_crlf statement, ?_⟩
  intro hnone statement hstatement s hs hcode
  rw [hstatements] at hstatement
  obtain ⟨original, horiginal, rfl⟩ := List.mem_map.mp hstatement
  refine return_not_mem_code ?_ hs hcode
  intro hreturn
  rcases mem_of_mem_statement horiginal hreturn with hfeed | htext
  · exact absurd hfeed (by decide)
  · exact hnone htext

/-- The line break in the literal is written in two characters, and the ones after the
comment, at the end of the line and on the blank line leave nothing behind. -/
theorem splitScript_crlf_literal_and_comment :
    '\r' ∉ "a --c\n 'x\ny' \n\n;b".toList
      ∧ splitScript "a --c\n 'x\ny' \n\n;b".toList true
        = ["a\n 'x\ny'".toList, "b".toList]
      ∧ splitScript (crlf "a --c\n 'x\ny' \n\n;b".toList) true
        = ["a\n 'x\r\ny'".toList, "b".toList]
      ∧ ∀ statement ∈ splitScript (crlf "a --c\n 'x\ny' \n\n;b".toList) true,
          ∀ s ∈ scan false statement .code, s.state = .code → '\r' ∉ s.text := by
  have hnone : '\r' ∉ "a --c\n 'x\ny' \n\n;b".toList := by decide
  obtain ⟨hstatements, -, hcode⟩ := splitScript_crlf "a --c\n 'x\ny' \n\n;b".toList true
  have hplain : splitScript "a --c\n 'x\ny' \n\n;b".toList true
      = ["a\n 'x\ny'".toList, "b".toList] := by decide +kernel
  refine ⟨hnone, hplain, ?_, hcode hnone⟩
  rw [hstatements, hplain]
  decide +kernel

end SqlStatements.Script
