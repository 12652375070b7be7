/-
  SqlStatements.Proofs.Script.Conservation
  ────────────────────────────────────────
  **No statement text is lost, repeated or moved.**

  The ink of a script is all of it but its comments and the white space in its code.  The
  statements of a script, one after the other, have the ink of the script without the
  terminators at which it was cut: all its terminators, unless trigger blocks are kept.
  Only at the end of a literal that is never closed may white space be lost.

  Main results:

    • `exists_dropped`           — leaving terminators out, of labels and of spans,
    • `exists_statement_literal` — a closed literal stands whole in one statement,
    • `splitScript_conserves`    — the ink, the literals, and the scripts that are empty.
-/
import SqlStatements.Proofs.Lexical.Grammar
import SqlStatements.Proofs.Script.Ink
import SqlStatements.Proofs.Script.QuoteSafety

namespace SqlStatements.Script

open Lexical Text

/-! ## §1. The ink of spans. -/

/-- The characters of a span that are more than white space: of a literal, all. -/
def spanInk (s : Span) : List Char :=
  if s.state.isQuoted then s.text else s.text.filter (!isBlank ·)

/-- The spans of a script without its comments and without some terminators. -/
def remaining (dropped spans : List Span) : List Span :=
  spans.filter fun s => !s.state.isComment && s ∉ dropped

/-- A literal is all ink. -/
theorem ink_labels_of_quoted {s : Span} (h : s.state.isQuoted = true) :
    ink s.labels = s.labels := by
  apply List.filter_eq_self.mpr
  intro m hm
  obtain ⟨c, -, rfl⟩ := List.mem_map.mp hm
  simp [isInk, h]

theorem unmark_ink_labels (s : Span) : unmark (ink s.labels) = spanInk s := by
  unfold spanInk
  cases hquoted : s.state.isQuoted with
  | true =>
      rw [ink_labels_of_quoted hquoted, s.unmark_labels]
      rfl
  | false =>
      simp [ink, Span.labels, unmark, isInk, hquoted, List.filter_map, Function.comp_def]

theorem unmark_ink_labels_spans (spans : List Span) :
    unmark (ink (labels spans)) = spans.flatMap spanInk := by
  induction spans with
  | nil => rfl
  | cons s spans ih =>
      show unmark (ink (s.labels ++ labels spans)) = _
      rw [ink_append, unmark_append, unmark_ink_labels, ih, List.flatMap_cons]

/-- The ink of a statement can be read off its spans. -/
theorem unmark_inkOf (text : List Char) :
    unmark (inkOf text) = (scan false text .code).flatMap spanInk := by
  unfold inkOf
  rw [← labels_scan_off, unmark_ink_labels_spans]

/-! ## §2. Terminators that are left out. -/

/-- A span that is not dropped remains, unless it is a comment. -/
theorem remaining_cons {s : Span} {dropped : List Span} (hs : s ∉ dropped) (spans : List Span) :
    (remaining dropped (s :: spans)).flatMap spanInk
      = unmark (ink (if s.state.isComment then [] else s.labels))
        ++ (remaining dropped spans).flatMap spanInk := by
  unfold remaining
  cases hcomment : s.state.isComment with
  | true => simp [hcomment]
  | false => simp [hcomment, hs, unmark_ink_labels]

theorem remaining_cons_dropped {s : Span} {spans : List Span} (hs : s ∉ spans)
    (dropped : List Span) : remaining (s :: dropped) (s :: spans) = remaining dropped spans := by
  unfold remaining
  rw [List.filter_cons_of_neg (by simp)]
  apply List.filter_congr
  intro s' hs'
  have hne : s' ≠ s := by
    rintro rfl
    exact hs hs'
  simp [hne]

/-- **What is left out of the labels are whole spans**: terminators, each by itself. -/
theorem exists_dropped {comments : Bool} {position : Nat} {text : List Char} {spans : List Span}
    (h : Lexed comments position text spans) {left : List Mark}
    (hthinned : Thinned left (ink (kept (labels spans)))) :
    ∃ dropped, dropped.Sublist (spans.filter (·.terminator))
      ∧ ((∀ m ∈ left, m.terminator = false) → dropped = spans.filter (·.terminator))
      ∧ unmark left = (remaining dropped spans).flatMap spanInk := by
  induction h generalizing left with
  | nil =>
      cases hthinned
      exact ⟨[], .slnil, fun _ => rfl, rfl⟩
  | @cons s rest spans nonempty wellFormed more ih =>
      have hnew : s ∉ spans := more.not_mem nonempty
      rw [kept_labels_cons, ink_append] at hthinned
      cases hterminator : s.terminator with
      | true =>
          obtain ⟨htext, hstate⟩ := wellFormed.of_terminator hterminator
          have hlabels : ink (if s.state.isComment then [] else s.labels) = [semicolon] := by
            unfold Span.labels
            rw [htext, hstate, hterminator]
            rfl
          rw [hlabels] at hthinned
          rw [List.filter_cons_of_pos hterminator]
          cases hthinned with
          | keep _ hrest =>
              obtain ⟨dropped, hsub, -, hleft⟩ := ih hrest
              have hs : s ∉ dropped := fun hmem => hnew (List.mem_of_mem_filter (hsub.subset hmem))
              refine ⟨dropped, hsub.cons s, fun hnone => ?_, ?_⟩
              · exact absurd (hnone semicolon List.mem_cons_self) (by decide)
              · rw [remaining_cons hs, hlabels, unmark_cons, hleft]
                rfl
          | drop _ hrest =>
              obtain ⟨dropped, hsub, hall, hleft⟩ := ih hrest
              exact ⟨s :: dropped, hsub.cons_cons s, fun hnone => by rw [hall hnone],
                by rw [remaining_cons_dropped hnew, hleft]⟩
      | false =>
          have hnone : ∀ m ∈ ink (if s.state.isComment then [] else s.labels),
              m.terminator = false := by
            intro m hm
            have hmem := List.mem_of_mem_filter hm
            split at hmem
            · simp at hmem
            · obtain ⟨c, -, rfl⟩ := List.mem_map.mp hmem
              exact hterminator
          obtain ⟨later, rfl, hlater⟩ := hthinned.of_append hnone
          obtain ⟨dropped, hsub, hall, hleft⟩ := ih hlater
          have hs : s ∉ dropped := fun hmem => hnew (List.mem_of_mem_filter (hsub.subset hmem))
          rw [List.filter_cons_of_neg (by simp [hterminator])]
          refine ⟨dropped, hsub, fun h => hall fun m hm => h m (List.mem_append_right _ hm), ?_⟩
          rw [remaining_cons hs, unmark_append, hleft]

/-! ## §3. The end of an open literal. -/

/-- Blank ink of a span is at its end only if it is an open literal. -/
theorem openLiteral_of_getLast? {comments : Bool} {s : Span} {rest : List Char}
    {next : Option Span} (h : s.WellFormed comments rest next) {front : List Mark} {m : Mark}
    (hink : ink s.labels = front ++ [m]) (hblank : isBlank m.char = true) :
    s.OpenLiteral ∧ rest = [] := by
  have hmem : m ∈ ink s.labels := by simp [hink]
  have hquoted : s.state.isQuoted = true := by
    obtain ⟨hlabel, hm⟩ := List.mem_filter.mp hmem
    obtain ⟨c, -, rfl⟩ := List.mem_map.mp hlabel
    simp only [isInk, hblank] at hm
    simpa using hm
  have htext : s.text = unmark front ++ [m.char] := by
    have hunmark := unmark_ink_labels s
    unfold spanInk at hunmark
    rw [if_pos hquoted, hink, unmark_append] at hunmark
    exact hunmark.symm
  cases h with
  | @literal state start q content _ _ quote single =>
      -- a closed literal ends with its quote, which is not blank
      have hends : (q :: doubled q content) ++ [q] = unmark front ++ [m.char] := htext
      obtain ⟨-, hlast⟩ := List.append_inj' hends rfl
      rw [← (List.cons.inj hlast).1, isBlank_quote quote] at hblank
      exact Bool.noConfusion hblank
  | @openLiteral _ _ q content _ quote => exact ⟨⟨q, content, quote, rfl⟩, rfl⟩
  | _ => simp [State.isQuoted] at hquoted

/-- A script whose ink ends with white space ends in an open literal. -/
theorem exists_openLiteral {comments : Bool} {position : Nat} {text : List Char}
    {spans : List Span} (h : Lexed comments position text spans) {front : List Mark} {m : Mark}
    (hink : ink (kept (labels spans)) = front ++ [m]) (hblank : isBlank m.char = true) :
    ∃ before s, spans = before ++ [s] ∧ s.OpenLiteral := by
  induction h generalizing front with
  | nil => simp [labels, kept] at hink
  | @cons s rest spans nonempty wellFormed more ih =>
      rw [kept_labels_cons, ink_append] at hink
      rcases List.eq_nil_or_concat (ink (kept (labels spans))) with hnil | ⟨later, m', hlater⟩
      · rw [hnil, List.append_nil] at hink
        split at hink
        · simp at hink
        · obtain ⟨hopen, rfl⟩ := openLiteral_of_getLast? wellFormed hink hblank
          obtain rfl : spans = [] := more.groupMarks_eq.symm
          exact ⟨[], s, rfl, hopen⟩
      · rw [List.concat_eq_append] at hlater
        rw [hlater, ← List.append_assoc] at hink
        obtain ⟨-, hlast⟩ := List.append_inj' hink rfl
        obtain ⟨before, s', hspans, hopen⟩ := ih (hlast ▸ hlater)
        exact ⟨s :: before, s', by rw [hspans]; rfl, hopen⟩

/-- Blank ink at the end of a script stands in an open literal, the last span. -/
theorem exists_openLiteral_suffix {comments : Bool} {position : Nat} {text : List Char}
    {spans : List Span} (h : Lexed comments position text spans) {lost : List Mark}
    (hlost : lost <:+ ink (kept (labels spans))) (hblank : AllBlank lost) (hne : lost ≠ []) :
    ∃ s ∈ spans.getLast?, s.OpenLiteral ∧ unmark lost <:+ s.text := by
  obtain ⟨last, m, hm⟩ : ∃ last m, lost = last ++ [m] := by
    simpa [hne] using List.eq_nil_or_concat lost
  obtain ⟨before, s, rfl, hopen⟩ : ∃ before s, spans = before ++ [s] ∧ s.OpenLiteral := by
    obtain ⟨front, hfront⟩ := hlost
    rw [hm, ← List.append_assoc] at hfront
    exact exists_openLiteral h hfront.symm (hblank m (by simp [hm]))
  refine ⟨s, by simp, hopen, ?_⟩
  obtain ⟨q, content, quote, htext⟩ := hopen
  have hquoted := State.isQuoted_of_quote? quote
  have hink : ink (kept (labels (before ++ [s]))) = ink (kept (labels before)) ++ s.labels := by
    have hlast : kept (labels [s]) = s.labels := by
      rw [kept_labels_cons, State.quote?_not_comment quote]
      exact List.append_nil _
    rw [labels_append, kept_append, hlast, ink_append, ink_labels_of_quoted hquoted]
  rw [hink] at hlost
  -- what is lost cannot reach back over the quote, which is not blank
  rcases List.suffix_or_suffix_of_suffix hlost (List.suffix_append _ s.labels) with hin | hout
  · rw [← s.unmark_labels]
    exact hin.map Mark.char
  · have hmem : (⟨q, s.state, s.terminator, false⟩ : Mark) ∈ lost :=
      hout.subset (by simp [Span.labels, htext])
    have hquote := hblank _ hmem
    rw [isBlank_quote quote] at hquote
    exact Bool.noConfusion hquote

/-! ## §4. Closed literals. -/

/-- A stretch that begins and ends with a quote is stripped of nothing. -/
theorem exists_statement_literal {kind : State} {q : Char} (quote : kind.quote? = some q)
    {text content : List Char}
    (h : quotedLabels kind (literal q content) <:+: labelsFrom .code text)
    (triggerBlocks : Bool) :
    ∃ statement ∈ splitStatements text triggerBlocks,
      quotedLabels kind (literal q content) <:+: labelsFrom .code statement := by
  obtain ⟨pieces, hpieces⟩ := exists_pieces triggerBlocks (labelsFrom .code text)
  obtain ⟨piece, hpiece, hinfix⟩ := hpieces.exists_infix h (terminator_quotedLabels kind _)
  obtain ⟨-, s, hlabels⟩ := hpieces.uncut_labelled (labelled_labelsFrom text .code) piece hpiece
  obtain ⟨before, behind, hbefore, hbehind, hms⟩ := exists_labelsFrom_strip (unmark piece)
  rw [hlabels.labelsFrom_eq.1] at hms
  have hquote : ∀ {ms : List Mark}, Padding ms → (⟨q, kind, false, false⟩ : Mark) ∉ ms := by
    intro ms hpadding hmem
    have hblank := (hpadding _ hmem).1
    rw [isBlank_quote quote] at hblank
    exact Bool.noConfusion hblank
  -- the literal begins and ends with a quote, so it stands in neither of the blank ends
  rw [hms, quotedLabels_literal, ← List.cons_append] at hinfix
  have hfront := infix_of_infix_append_right (hquote hbehind) hinfix
  have hinner := infix_of_infix_append_left (hquote hbefore) hfront
  have hstatement : strip (unmark piece) ≠ [] := by
    intro hnil
    rw [hnil] at hinner
    simp [labelsFrom] at hinner
  refine ⟨strip (unmark piece), ?_, by rw [quotedLabels_literal]; exact hinner⟩
  rw [splitStatements_eq, hpieces.segments_eq]
  exact List.mem_filter.mpr
    ⟨List.mem_map_of_mem (List.mem_map_of_mem hpiece), by simpa using hstatement⟩

/-- A closed literal of a script stands whole among the labels that trimming leaves. -/
theorem infix_trimLines {text : List Char} {s : Span} (hs : s ∈ scan true text .code) {q : Char}
    {content : List Char} (quote : s.state.quote? = some q) (htext : s.text = literal q content) :
    s.labels = quotedLabels s.state (literal q content)
      ∧ s.labels <:+: labelsFrom .code (trimLines (removeComments text)) := by
  have hterminator : s.terminator = false := by
    cases hterminator : s.terminator with
    | false => rfl
    | true =>
        have hsemi := (lexed_scan true text).text_of_terminator s hs hterminator
        simp [htext, literal] at hsemi
  have hlabels : s.labels = quotedLabels s.state (literal q content) := by
    simp [Span.labels, quotedLabels, htext, hterminator]
  refine ⟨hlabels, ?_⟩
  obtain ⟨before, after, hspans⟩ := List.append_of_mem hs
  have hkept : labelsFrom .code (removeComments text)
      = kept (labels before) ++ (s.labels ++ kept (labels after)) := by
    rw [← kept_labels_scan, hspans, labels_append, kept_append, kept_labels_cons,
      State.quote?_not_comment quote]
    rfl
  rw [labelsFrom_trimLines, hkept, hlabels, trimmed_literal quote]
  exact ⟨_, _, (List.append_assoc _ _ _)⟩

/-! ## §5. The theorem. -/

/-- Without trigger blocks no statement holds a terminator. -/
theorem terminator_of_mem_off {text statement : List Char}
    (h : statement ∈ splitStatements text false) :
    ∀ m ∈ labelsFrom .code statement, m.terminator = false := by
  intro m hm
  obtain ⟨before, after, hlabels⟩ := List.append_of_mem hm
  have huncut := (uncut_of_mem h).1
  rw [hlabels, uncut_append, uncut_cons, endsStatement_off] at huncut
  exact huncut.2.1

/-- The ink of statements, one after the other, can be read off their spans. -/
theorem unmark_flatMap_inkOf (statements : List (List Char)) :
    unmark (statements.flatMap inkOf)
      = statements.flatMap fun statement => (scan false statement .code).flatMap spanInk := by
  unfold unmark
  rw [List.map_flatMap]
  congr 1
  funext statement
  exact unmark_inkOf statement

/-- The ink that is cut into statements is that of the script without its comments. -/
theorem ink_labelsFrom_trimLines (text : List Char) :
    ink (labelsFrom .code (trimLines (removeComments text)))
      = ink (kept (labels (scan true text .code))) := by
  rw [labelsFrom_trimLines, ink_trimmed (labelled_labelsFrom (removeComments text) .code),
    kept_labels_scan]

/-- The statements of a script have its ink, without some of its terminators and blank ink
at its end. -/
theorem exists_thinned_splitScript (text : List Char) (triggerBlocks : Bool) :
    ∃ lost, Thinned ((splitScript text triggerBlocks).flatMap inkOf ++ lost)
          (ink (kept (labels (scan true text .code))))
        ∧ lost <:+ ink (kept (labels (scan true text .code))) ∧ Padding lost := by
  have hlabels := labelled_labelsFrom (trimLines (removeComments text)) .code
  obtain ⟨pieces, hpieces⟩ :=
    exists_pieces triggerBlocks (labelsFrom .code (trimLines (removeComments text)))
  obtain ⟨lost, hthinned, hsuffix, hblank⟩ := exists_thinned_pieces hpieces hlabels
  have hlost : Padding lost := hblank.padding fun m hm =>
    hlabels.char_of_terminator m (List.mem_of_mem_filter (hsuffix.subset hm))
  rw [ink_labelsFrom_trimLines] at hthinned hsuffix
  unfold splitScript
  rw [splitStatements_eq, hpieces.segments_eq]
  exact ⟨lost, hthinned, hsuffix, hlost⟩

/-- Where trigger blocks are not kept, none of its terminators is left. -/
theorem terminator_of_mem_flatMap_inkOf {text : List Char} {lost : List Mark}
    (hlost : Padding lost) :
    ∀ m ∈ (splitScript text false).flatMap inkOf ++ lost, m.terminator = false := by
  intro m hm
  rcases List.mem_append.mp hm with hm | hm
  · obtain ⟨statement, hmem, hm⟩ := List.mem_flatMap.mp hm
    exact terminator_of_mem_off hmem m (List.mem_of_mem_filter hm)
  · exact (hlost m hm).2

/-- A closed literal of a script stands whole in one of its statements. -/
theorem exists_statement_closedLiteral {text : List Char} {s : Span}
    (hs : s ∈ scan true text .code) (hclosed : s.ClosedLiteral) (triggerBlocks : Bool) :
    ∃ statement ∈ splitScript text triggerBlocks,
      s.labels <:+: labels (scan false statement .code) := by
  obtain ⟨q, content, quote, htext⟩ := hclosed
  obtain ⟨hliteral, hinfix⟩ := infix_trimLines hs quote htext
  rw [hliteral] at hinfix
  obtain ⟨statement, hmem, hin⟩ := exists_statement_literal quote hinfix triggerBlocks
  refine ⟨statement, hmem, ?_⟩
  rw [labels_scan_off, hliteral]
  exact hin

/-- A script of which nothing is left but terminators has no statement. -/
theorem splitScript_eq_nil_iff (text : List Char) (triggerBlocks : Bool) :
    splitScript text triggerBlocks = [] ↔
      ∀ m ∈ labels (scan true text .code), m.state.isComment = true
        ∨ (m.state = .code ∧ isBlank m.char = true) ∨ m.terminator = true := by
  have hlabels := labelled_labelsFrom (trimLines (removeComments text)) .code
  obtain ⟨pieces, hpieces⟩ :=
    exists_pieces triggerBlocks (labelsFrom .code (trimLines (removeComments text)))
  have hink : ∀ m : Mark, (m.state.isComment = false → isInk m = true → m.terminator = true)
      ↔ m.state.isComment = true ∨ (m.state = .code ∧ isBlank m.char = true)
          ∨ m.terminator = true := by
    intro m
    unfold isInk
    cases m.state <;> cases isBlank m.char <;> simp [State.isComment, State.isQuoted]
  unfold splitScript
  rw [splitStatements_eq, hpieces.segments_eq, statementsOf_pieces_eq_nil_iff hpieces hlabels,
    ink_labelsFrom_trimLines]
  simp only [← hink, ink, kept, List.mem_filter, Bool.not_eq_true', and_imp]

/-- **No statement text is lost, repeated or moved.**  The statements of a script have the
ink of the script without some of its terminators, or without all of them where trigger
blocks are not kept; only white space at the end of a literal that is still open at the
end of the script may be lost.  So a closed literal stands whole in one statement; and a
script has no statement if and only if it has no ink but terminators. -/
theorem splitScript_conserves (text : List Char) (triggerBlocks : Bool) :
    (∃ dropped lost, dropped.Sublist ((scan true text .code).filter (·.terminator))
        ∧ (triggerBlocks = false → dropped = (scan true text .code).filter (·.terminator))
        ∧ (splitScript text triggerBlocks).flatMap
              (fun statement => (scan false statement .code).flatMap spanInk) ++ lost
            = (remaining dropped (scan true text .code)).flatMap spanInk
        ∧ (∀ c ∈ lost, isBlank c = true)
        ∧ (lost ≠ [] → ∃ s ∈ (scan true text .code).getLast?, s.OpenLiteral ∧ lost <:+ s.text))
      ∧ (∀ s ∈ scan true text .code, s.ClosedLiteral →
          ∃ statement ∈ splitScript text triggerBlocks,
            s.labels <:+: labels (scan false statement .code))
      ∧ (splitScript text triggerBlocks = [] ↔
          ∀ m ∈ labels (scan true text .code), m.state.isComment = true
            ∨ (m.state = .code ∧ isBlank m.char = true) ∨ m.terminator = true) := by
  refine ⟨?_, fun s hs hclosed => exists_statement_closedLiteral hs hclosed triggerBlocks,
    splitScript_eq_nil_iff text triggerBlocks⟩
  obtain ⟨lost, hthinned, hsuffix, hlost⟩ := exists_thinned_splitScript text triggerBlocks
  obtain ⟨dropped, hsub, hall, hleft⟩ := exists_dropped (lexed_scan true text) hthinned
  refine ⟨dropped, unmark lost, hsub, ?_, ?_, hlost.unmark_blank, ?_⟩
  · rintro rfl
    exact hall (terminator_of_mem_flatMap_inkOf hlost)
  · rw [← hleft, unmark_append, unmark_flatMap_inkOf]
  · intro hne
    exact exists_openLiteral_suffix (lexed_scan true text) hsuffix (fun m hm => (hlost m hm).1)
      (by rintro rfl; exact hne rfl)

/-- The terminator in a comment and the one in a literal are no cuts; the space behind the
last letter is lost, for its literal is never closed. -/
theorem splitScript_conserves_open_literal :
    (⟨.singleQuoted, 6, "'x; '".toList, false⟩ ∈ scan true "a--;\n;'x; ';/*'*/'y ".toList .code
        ∧ ∃ statement ∈ splitScript "a--;\n;'x; ';/*'*/'y ".toList false,
            (⟨.singleQuoted, 6, "'x; '".toList, false⟩ : Span).labels
              <:+: labels (scan false statement .code))
      ∧ ∃ lost, lost ≠ []
          ∧ (splitScript "a--;\n;'x; ';/*'*/'y ".toList false).flatMap
                (fun statement => (scan false statement .code).flatMap spanInk) ++ lost
              = "a'x; ''y ".toList
          ∧ ∃ s ∈ (scan true "a--;\n;'x; ';/*'*/'y ".toList .code).getLast?,
              s.OpenLiteral ∧ lost <:+ s.text := by
  obtain ⟨hink, hliterals, -⟩ := splitScript_conserves "a--;\n;'x; ';/*'*/'y ".toList false
  have hmem : (⟨.singleQuoted, 6, "'x; '".toList, false⟩ : Span)
      ∈ scan true "a--;\n;'x; ';/*'*/'y ".toList .code := by decide +kernel
  have hclosed : (⟨.singleQuoted, 6, "'x; '".toList, false⟩ : Span).ClosedLiteral :=
    ⟨'\'', "x; ".toList, rfl, by decide +kernel⟩
  refine ⟨⟨hmem, hliterals _ hmem hclosed⟩, ?_⟩
  obtain ⟨dropped, lost, -, hall, heq, -, hopen⟩ := hink
  have hremaining : (remaining dropped (scan true "a--;\n;'x; ';/*'*/'y ".toList .code)).flatMap
      spanInk = "a'x; ''y ".toList := by
    rw [hall rfl]
    decide +kernel
  rw [hremaining] at heq
  have hne : lost ≠ [] := by
    rintro rfl
    rw [List.append_nil] at heq
    exact absurd heq (by decide +kernel)
  exact ⟨lost, hne, heq, hopen hne⟩

end SqlStatements.Script
