/-
  SqlStatements.Proofs.Script.QuoteSafety
  ───────────────────────────────────────
  **What a literal holds never changes the statements around it.**

  A literal is put between two texts, behind code and with no quote of its kind next to
  it once the comments are gone.  Then all three passes take it as it is: no comment
  begins or ends in it, no line of it is trimmed, no terminator in it ends a statement
  and no word in it opens a block.  The statements before and after it, and what stands
  on its two sides in its own statement, are the same for every content.

  Main results:

    • `kept_marks_literal`     — the labels of a script around a literal,
    • `trimmed_literal`, `readAll_quoted` — trimming and reading past it,
    • `exists_splitScript_literal` — the statements around it.
-/
import SqlStatements.Proofs.Lexical.Literal
import SqlStatements.Proofs.Lexical.Seam
import SqlStatements.Proofs.Script.Pieces

namespace SqlStatements.Script

open Lexical Text

/-- The labels of characters inside a literal. -/
def quotedLabels (kind : State) (text : List Char) : List Mark :=
  text.map (⟨·, kind, false, false⟩)

theorem unmark_quotedLabels (kind : State) (text : List Char) :
    unmark (quotedLabels kind text) = text := by
  simp [quotedLabels, unmark, Function.comp_def]

theorem terminator_quotedLabels (kind : State) (text : List Char) :
    ∀ m ∈ quotedLabels kind text, m.terminator = false := by
  intro m hm
  obtain ⟨c, -, rfl⟩ := List.mem_map.mp hm
  rfl

section
variable {kind : State} {q : Char} (quote : kind.quote? = some q)
include quote

/-! ## §1. The characters next to the literal. -/

/-- A quote after which the scan is in code belongs to no comment. -/
theorem isComment_of_reads_quote {mode : Mode} {lookahead : Option Char} {m : Mark} {fresh : Bool}
    (h : Reads true mode q lookahead m (.ready .code fresh)) (howes : mode.Owes (some q)) :
    m.state.isComment = false := by
  obtain ⟨-, hdash, hslash, hstar⟩ := State.quote?_ne quote
  -- only steps that end in code are left, and none of them takes a quote for a comment
  generalize hafter : Mode.ready .code fresh = after at h
  cases h with
  | terminator | plain | lineEnd => rfl
  | lineMarker | blockMarker | lineText | blockEnd | blockText => simp at hafter
  | opening quote' | doubled quote' | closing quote' | content quote' =>
      exact State.quote?_not_comment quote'
  | second =>
      -- the other halves that a comment may be owed are no quotes
      cases howes with
      | lineMarker => exact absurd rfl hdash
      | blockMarker => exact absurd rfl hstar
      | blockEnd => exact absurd rfl hslash
      | doubled quote' => exact State.quote?_not_comment quote'

/-- A last quote after which the scan is in code stays when the comments go. -/
theorem getLast?_kept :
    ∀ (text : List Char) (mode : Mode), mode.Owes text.head? → text.getLast? = some q →
      (∃ fresh, modeAfter true mode text = .ready .code fresh) →
      (unmark (kept (marksFrom true mode text))).getLast? = some q
  | [], _, _, hlast, _ => by simp at hlast
  | [c], mode, howes, hlast, hcode => by
      obtain rfl : c = q := by simpa using hlast
      obtain ⟨fresh, hcode⟩ := hcode
      obtain ⟨m, after, step⟩ := exists_reads true mode c ([] : List Char).head?
      rw [step.modeAfter_cons] at hcode
      obtain rfl : after = .ready .code fresh := hcode
      have hm := isComment_of_reads_quote quote step howes
      rw [step.marksFrom_cons, kept_cons_kept hm]
      simp [marksFrom, kept, step.char]
  | c :: d :: rest, mode, howes, hlast, hcode => by
      obtain ⟨m, after, step⟩ := exists_reads true mode c (d :: rest).head?
      rw [step.modeAfter_cons] at hcode
      have ih := getLast?_kept (d :: rest) after step.owes (by simpa using hlast) hcode
      rw [step.marksFrom_cons]
      cases hm : m.state.isComment with
      | true => rwa [kept_cons_comment hm]
      | false =>
          rw [kept_cons_kept hm, unmark_cons, List.getLast?_cons, ih]
          rfl

theorem getLast?_ne_quote {a : List Char} (ha : endState true a = .code)
    (hlast : (removeComments a).getLast? ≠ some q) : a.getLast? ≠ some q := by
  intro hquote
  apply hlast
  obtain ⟨fresh, hmode⟩ := exists_modeAfter_eq true a
  rw [ha] at hmode
  exact getLast?_kept quote a (.ready .code true) .ready hquote ⟨fresh, hmode⟩

/-- A first quote stays when the comments go. -/
theorem head?_ne_quote {b : List Char} (hfirst : (removeComments b).head? ≠ some q) :
    b.head? ≠ some q := by
  intro hquote
  apply hfirst
  cases b with
  | nil => simp at hquote
  | cons c rest =>
      obtain rfl : c = q := by simpa using hquote
      have step : Reads true (.ready .code true) c rest.head? ⟨c, kind, false, true⟩ _ :=
        .opening quote
      have hstays : (⟨c, kind, false, true⟩ : Mark).state.isComment = false :=
        State.quote?_not_comment quote
      show (unmark (kept (marksFrom true (.ready .code true) (c :: rest)))).head? = some c
      rw [step.marksFrom_cons, kept_cons_kept hstays]
      rfl

/-! ## §2. The labels of the script. -/

/-- **A literal between two texts keeps its labels, and they keep theirs.** -/
theorem kept_marks_literal {a b : List Char} (ha : endState true a = .code)
    (hlast : (removeComments a).getLast? ≠ some q) (hfirst : (removeComments b).head? ≠ some q)
    (content : List Char) :
    (kept (marks true (a ++ literal q content ++ b) .code)).map Mark.label
      = labelsFrom .code (removeComments a)
        ++ (quotedLabels kind (literal q content) ++ labelsFrom .code (removeComments b)) := by
  have hmarks := marks_literal true quote ha (getLast?_ne_quote quote ha hlast)
    (head?_ne_quote quote hfirst) content 0
  have hspan : kept (⟨kind, 0, literal q content, false⟩ : Span).marks
      = (⟨kind, 0, literal q content, false⟩ : Span).marks :=
    kept_eq_self fun m hm => by
      rw [Span.state_of_mem_marks hm, State.quote?_not_comment quote]
  have hlabels : ((⟨kind, 0, literal q content, false⟩ : Span).marks).map Mark.label
      = quotedLabels kind (literal q content) := Span.marks_map_label _
  rw [hmarks, kept_append, kept_append, hspan, List.map_append, List.map_append, hlabels,
    labelsFrom_removeComments, labelsFrom_removeComments]

/-! ## §3. Trimming, cutting and stripping. -/

omit quote in
theorem quotedLabels_literal (content : List Char) :
    quotedLabels kind (literal q content)
      = ⟨q, kind, false, false⟩
        :: (quotedLabels kind (doubled q content) ++ [⟨q, kind, false, false⟩]) := by
  simp [quotedLabels, literal]

theorem isBlank_quote : isBlank q = false := by
  rcases State.quote?_cases quote with ⟨-, rfl⟩ | ⟨-, rfl⟩ <;> rfl

theorem endsLine_quoted (c : Char) : endsLine ⟨c, kind, false, false⟩ = false := by
  simp [endsLine, State.quote?_ne_code quote]

/-- No line of a literal is trimmed. -/
theorem trimmed_literal (xs ys : List Mark) (content : List Char) :
    trimmed (xs ++ (quotedLabels kind (literal q content) ++ ys))
      = trimmedBetween false true xs
        ++ (quotedLabels kind (literal q content) ++ trimmedBetween true false ys) := by
  have hline : endsLine ⟨q, kind, false, false⟩ = false := endsLine_quoted quote q
  have hblank : isBlank (⟨q, kind, false, false⟩ : Mark).char = false := isBlank_quote quote
  have hinner : ∀ m ∈ quotedLabels kind (doubled q content), endsLine m = false := by
    intro m hm
    obtain ⟨c, -, rfl⟩ := List.mem_map.mp hm
    exact endsLine_quoted quote c
  -- the two quotes are not blank, so trimming falls apart at each of them
  rw [quotedLabels_literal, ← trimmedBetween_alone, List.cons_append, List.append_assoc,
    List.singleton_append, trimmedBetween_append false false hline hblank,
    trimmedBetween_append true false hline hblank, trimmedBetween_inner hinner]
  simp

/-- All that reading a literal does is to end a word. -/
theorem readAll_quoted (triggerBlocks : Bool) (r : Reading) {text : List Char} (h : text ≠ []) :
    readAll triggerBlocks r (quotedLabels kind text) = if triggerBlocks then r.endWord else r := by
  have hinert : Inert (quotedLabels kind text) := by
    intro m hm
    refine ⟨?_, terminator_quotedLabels kind text m hm⟩
    obtain ⟨c, -, rfl⟩ := List.mem_map.mp hm
    simp [inWord, State.quote?_ne_code quote]
  exact readAll_inert hinert (by simpa [quotedLabels] using h) r

/-- Stripping a statement leaves a literal in it as it is. -/
theorem strip_literal (left right content : List Char) :
    strip (left ++ (literal q content ++ right))
      = left.dropWhile isBlank ++ literal q content ++ dropTrailing isBlank right := by
  have hblank := isBlank_quote quote
  have key := strip_around hblank hblank left (doubled q content) right
  simpa [literal] using key

/-- The statements of segments among which one holds a literal. -/
theorem statementsOf_literal (before after : List (List Char)) (left right content : List Char) :
    statementsOf (before ++ (left ++ (literal q content ++ right)) :: after)
      = statementsOf before
        ++ [left.dropWhile isBlank ++ literal q content ++ dropTrailing isBlank right]
        ++ statementsOf after := by
  have hstays : (!(left.dropWhile isBlank ++ literal q content
      ++ dropTrailing isBlank right).isEmpty) = true := by
    simp [literal]
  unfold statementsOf
  rw [List.map_append, List.map_cons, strip_literal quote, List.filter_append, List.filter_cons,
    if_pos hstays]
  simp

/-! ## §4. The two sides of the literal. -/

omit quote in
/-- What stands on the left of the literal in its statement is read from code to code. -/
theorem stateAfter_left {a : List Char} (hcode : stateAfter .code a = .code) {last : List Mark}
    (hends : EndsWith (trimmedBetween false true (labelsFrom .code a)) last) :
    stateAfter .code ((unmark last).dropWhile isBlank) = .code := by
  have hread : Labelled .code (trimmedBetween false true (labelsFrom .code a)) .code := by
    have hlabels := labelled_labelsFrom a .code
    rw [hcode] at hlabels
    exact labelled_trimmedBetween hlabels false true
  -- the last segment is read from code too: it begins behind a terminator, if not at once
  have hlast : Labelled .code last .code := by
    rcases hends with hall | ⟨front, m, hm, hall⟩
    · rwa [hall] at hread
    · rw [hall] at hread
      obtain ⟨s, -, hrest⟩ := hread.of_append
      exact hrest.behind_terminator hm
  have hblank : ∀ c ∈ (unmark last).takeWhile isBlank, isBlank c = true :=
    fun c hc => List.mem_takeWhile_imp hc
  have hstate := hlast.labelsFrom_eq.2
  rwa [← List.takeWhile_append_dropWhile (p := isBlank) (l := unmark last), stateAfter_append,
    stateAfter_blank hblank] at hstate

theorem lineFeed_ne_quote : q ≠ '\n' := by
  rcases State.quote?_cases quote with ⟨-, rfl⟩ | ⟨-, rfl⟩ <;> decide

/-- It ends as the text before the literal does or with a line feed. -/
theorem getLast?_left {a : List Char} (hlast : a.getLast? ≠ some q) {last : List Mark}
    (hends : EndsWith (trimmedBetween false true (labelsFrom .code a)) last) :
    ((unmark last).dropWhile isBlank).getLast? ≠ some q := by
  intro hquote
  have hend : (unmark last).getLast? = some q := by
    rw [← List.takeWhile_append_dropWhile (p := isBlank) (l := unmark last), List.getLast?_append,
      hquote]
    rfl
  have htrimmed : (unmark (trimmedBetween false true (labelsFrom .code a))).getLast? = some q := by
    rcases hends with hall | ⟨front, m, -, hall⟩
    · rw [hall, hend]
    · rw [hall, unmark_append, unmark_cons, List.getLast?_append, List.getLast?_cons, hend]
      rfl
  -- trimming has left the quote or put a line feed behind it
  rcases getLast?_trimmedBetween false _ q htrimmed with hfeed | hmem
  · exact lineFeed_ne_quote quote hfeed
  · rw [unmark_labelsFrom] at hmem
    exact hlast hmem

/-- What stands on the right of the literal begins as the text behind it does or with a
line feed. -/
theorem head?_right {b first : List Char} (hfirst : b.head? ≠ some q)
    (hbegins : first <+: unmark (trimmedBetween true false (labelsFrom .code b))) :
    (dropTrailing isBlank first).head? ≠ some q := by
  intro hquote
  obtain ⟨rest, hrest⟩ := hbegins
  obtain ⟨tail, htail, -⟩ := exists_dropTrailing_append isBlank first
  have htrimmed : (unmark (trimmedBetween true false (labelsFrom .code b))).head? = some q := by
    rw [← hrest, htail, List.append_assoc, List.head?_append, hquote]
    rfl
  rcases head?_trimmedBetween false _ q htrimmed with hfeed | hmem
  · exact lineFeed_ne_quote quote hfeed
  · rw [unmark_labelsFrom] at hmem
    exact hfirst hmem

end

/-! ## §5. The theorem. -/

/-- **The content of a literal never changes the statements around it.**  Between two
texts with no quote of its kind next to it, the literal of every content stands whole
between the same two texts in one statement, among the same other statements; and there
it is one literal to every later scan.  The literal of a text value is of this kind. -/
theorem exists_splitScript_literal {kind : State} {q : Char} (quote : kind.quote? = some q)
    {a b : List Char} (ha : endState true a = .code)
    (hlast : (removeComments a).getLast? ≠ some q) (hfirst : (removeComments b).head? ≠ some q)
    (triggerBlocks : Bool) :
    (∀ s : String, (Literal.Scalar.text s).sqlText.toList = literal '\'' s.toList)
      ∧ ∃ before left right after, ∀ content,
          splitScript (a ++ literal q content ++ b) triggerBlocks
              = before ++ [left ++ literal q content ++ right] ++ after
            ∧ ⟨kind, left.length, literal q content, false⟩
                ∈ scan false (left ++ literal q content ++ right) .code := by
  refine ⟨toList_textLiteral, ?_⟩
  have hcode : stateAfter .code (removeComments a) = .code := by
    obtain ⟨fresh, hmode⟩ := exists_modeAfter_eq true a
    rw [stateAfter_removeComments, hmode, ha]
    rfl
  -- both sides are trimmed and cut without looking at the literal; all that is handed on
  -- from the left to the right is the reading, with its last word ended
  let xs := trimmedBetween false true (labelsFrom .code (removeComments a))
  let ys := trimmedBetween true false (labelsFrom .code (removeComments b))
  let r := readAll triggerBlocks {} xs
  let r' := if triggerBlocks then r.endWord else r
  obtain ⟨before, last, hxs, hends, happend⟩ := exists_segments_append triggerBlocks {} xs
  obtain ⟨first, after, hys⟩ :=
    List.exists_cons_of_ne_nil (segments_ne_nil triggerBlocks r' ys)
  have hleft : endState false ((unmark last).dropWhile isBlank) = .code := by
    rw [endState_off]
    exact stateAfter_left hcode hends
  have hleftLast := getLast?_left quote hlast hends
  have hrightFirst := head?_right quote hfirst (isPrefix_of_segments triggerBlocks hys)
  refine ⟨statementsOf before, (unmark last).dropWhile isBlank, dropTrailing isBlank first,
    statementsOf after, fun content => ⟨?_, ?_⟩⟩
  · have hread : readAll triggerBlocks r (quotedLabels kind (literal q content)) = r' :=
      readAll_quoted quote triggerBlocks r (List.cons_ne_nil q _)
    have hmiddle : segments triggerBlocks r (quotedLabels kind (literal q content) ++ ys)
        = (unmark (quotedLabels kind (literal q content)) ++ first) :: after := by
      apply segments_append_of_none triggerBlocks (terminator_quotedLabels kind _)
      rw [hread, hys]
    rw [splitScript_eq, kept_marks_literal quote ha hlast hfirst, trimmed_literal quote,
      happend _ _ _ hmiddle, unmark_quotedLabels, statementsOf_literal quote]
  · exact mem_scan_literal false quote hleft hleftLast hrightFirst content

/-- A literal between two comments with quotes in them: the line break behind the first
comes to stand on its left, and the terminator behind the second ends its statement. -/
theorem exists_splitScript_literal_between_comments :
    State.singleQuoted.quote? = some '\''
      ∧ endState true ['a', '/', '*', '\'', '*', '/', '\n'] = .code
      ∧ (removeComments ['a', '/', '*', '\'', '*', '/', '\n']).getLast? ≠ some '\''
      ∧ (removeComments ['-', '-', '\'', '\n', ';', 'b']).head? ≠ some '\''
      ∧ ∃ before left right after, ∀ content,
          splitScript (['a', '/', '*', '\'', '*', '/', '\n'] ++ literal '\'' content
              ++ ['-', '-', '\'', '\n', ';', 'b']) true
            = before ++ [left ++ literal '\'' content ++ right] ++ after
          ∧ ⟨.singleQuoted, left.length, literal '\'' content, false⟩
              ∈ scan false (left ++ literal '\'' content ++ right) .code := by
  have hquote : State.singleQuoted.quote? = some '\'' := rfl
  have hcode : endState true ['a', '/', '*', '\'', '*', '/', '\n'] = .code := by decide
  have hlast : (removeComments ['a', '/', '*', '\'', '*', '/', '\n']).getLast? ≠ some '\'' := by
    decide
  have hfirst : (removeComments ['-', '-', '\'', '\n', ';', 'b']).head? ≠ some '\'' := by
    decide
  exact ⟨hquote, hcode, hlast, hfirst,
    (exists_splitScript_literal hquote hcode hlast hfirst true).2⟩

end SqlStatements.Script
