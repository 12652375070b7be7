/-
  SqlStatements.Proofs.Script.GluedLiterals
  ─────────────────────────────────────────
  **Two literals become one when only comments stood between them.**

  In a scan no two literals of one kind stand next to each other: their quotes would be a
  doubled quote.  When comments are taken out two literals can come together, and to the
  later passes they are then one literal, with a quote in it that neither of them had.

  The literals that are left are those of the spans outside comments, with literals of one
  kind that meet glued to one (`gluedLiterals`).  Gluing does not depend on how a literal
  is cut into fragments, so it can be compared through the labels of single characters.

  Main results:

    • `gluedLiterals_eq_iff`      — nothing is glued if and only if no two literals meet,
    • `gluedLiterals_labels`      — gluing spans and gluing their characters,
    • `literalsOf_removeComments` — the literals of a script without its comments.
-/
import SqlStatements.Proofs.Lexical.Grammar
import SqlStatements.Proofs.Script.CommentRemoval
import SqlStatements.Proofs.Text.Cutting

namespace SqlStatements.Script

open Lexical Text

/-! ## §1. Literals that meet. -/

/-- A part of a text in a single state, wherever it stands. -/
structure Fragment where
  state : State
  text : List Char
  deriving Repr, DecidableEq

/-- A fragment with a text before its own. -/
def Fragment.behind (fragment : Fragment) (text : List Char) : Fragment :=
  { fragment with text := text ++ fragment.text }

/-- The literals among fragments of a text, each with its kind. -/
def literals (fragments : List Fragment) : List Fragment :=
  fragments.filter (·.state.isQuoted)

/-- The literals among fragments of a text, those of one kind that meet glued to one. -/
def gluedLiterals : List Fragment → List Fragment
  | [] => []
  | fragment :: rest =>
      if fragment.state.isQuoted then
        if rest.head?.map Fragment.state = some fragment.state then
          (gluedLiterals rest).modifyHead (·.behind fragment.text)
        else fragment :: gluedLiterals rest
      else gluedLiterals rest

/-- Whether two fragments that meet are not literals of one kind. -/
def Apart (fragment next : Fragment) : Prop :=
  fragment.state.isQuoted = true → next.state ≠ fragment.state

section
variable {fragment : Fragment} {rest : List Fragment}

theorem literals_cons_quoted (h : fragment.state.isQuoted = true) :
    literals (fragment :: rest) = fragment :: literals rest :=
  List.filter_cons_of_pos h

theorem literals_cons_other (h : fragment.state.isQuoted = false) :
    literals (fragment :: rest) = literals rest :=
  List.filter_cons_of_neg (by simp [h])

theorem gluedLiterals_cons_other (h : fragment.state.isQuoted = false) :
    gluedLiterals (fragment :: rest) = gluedLiterals rest := by
  simp [gluedLiterals, h]

theorem gluedLiterals_cons_meets (h : fragment.state.isQuoted = true)
    (hnext : rest.head?.map Fragment.state = some fragment.state) :
    gluedLiterals (fragment :: rest)
      = (gluedLiterals rest).modifyHead (·.behind fragment.text) := by
  simp [gluedLiterals, h, hnext]

theorem gluedLiterals_cons_apart (h : fragment.state.isQuoted = true)
    (hnext : rest.head?.map Fragment.state ≠ some fragment.state) :
    gluedLiterals (fragment :: rest) = fragment :: gluedLiterals rest := by
  simp [gluedLiterals, h, hnext]

end

/-- Gluing makes no more literals than there are. -/
theorem length_gluedLiterals_le :
    ∀ fragments, (gluedLiterals fragments).length ≤ (literals fragments).length
  | [] => Nat.le_refl 0
  | fragment :: rest => by
      have ih := length_gluedLiterals_le rest
      cases hquoted : fragment.state.isQuoted with
      | false => rwa [gluedLiterals_cons_other hquoted, literals_cons_other hquoted]
      | true =>
          rw [literals_cons_quoted hquoted, List.length_cons]
          by_cases hnext : rest.head?.map Fragment.state = some fragment.state
          · rw [gluedLiterals_cons_meets hquoted hnext, List.length_modifyHead]
            omega
          · rw [gluedLiterals_cons_apart hquoted hnext, List.length_cons]
            omega

/-- **Nothing is glued if and only if no two literals of one kind meet.** -/
theorem gluedLiterals_eq_iff :
    ∀ fragments, gluedLiterals fragments = literals fragments ↔ fragments.IsChain Apart
  | [] => by simp [gluedLiterals, literals]
  | fragment :: rest => by
      have ih := gluedLiterals_eq_iff rest
      have hle := length_gluedLiterals_le rest
      rw [List.isChain_cons, ← ih]
      cases hquoted : fragment.state.isQuoted with
      | false =>
          rw [gluedLiterals_cons_other hquoted, literals_cons_other hquoted]
          simp [Apart, hquoted]
      | true =>
          rw [literals_cons_quoted hquoted]
          by_cases hnext : rest.head?.map Fragment.state = some fragment.state
          · -- two literals have become one, and there are no more behind it than there were
            rw [gluedLiterals_cons_meets hquoted hnext]
            obtain ⟨next, hhead, hstate⟩ := Option.map_eq_some_iff.mp hnext
            constructor
            · intro heq
              have hlength := congrArg List.length heq
              rw [List.length_modifyHead, List.length_cons] at hlength
              omega
            · rintro ⟨hapart, -⟩
              exact absurd hstate (hapart next hhead hquoted)
          · rw [gluedLiterals_cons_apart hquoted hnext, List.cons_inj_right]
            refine (and_iff_right ?_).symm
            intro next hhead _ hstate
            exact hnext (Option.map_eq_some_iff.mpr ⟨next, hhead, hstate⟩)

/-! ## §2. Fragments cut to characters. -/

/-- Single characters as fragments. -/
def characters (ms : List Mark) : List Fragment :=
  ms.map fun m => ⟨m.state, [m.char]⟩

/-- A span as a fragment. -/
def fragmentOf (s : Span) : Fragment := ⟨s.state, s.text⟩

/-- Behind a fragment, what is glued depends on what is glued of the rest and on the kind of
its first fragment. -/
theorem gluedLiterals_cons_congr {rest rest' : List Fragment}
    (hglued : gluedLiterals rest = gluedLiterals rest')
    (hhead : rest.head?.map Fragment.state = rest'.head?.map Fragment.state) (fragment : Fragment) :
    gluedLiterals (fragment :: rest) = gluedLiterals (fragment :: rest') := by
  simp only [gluedLiterals, hglued, hhead]

/-- A literal can be cut after its first character. -/
theorem gluedLiterals_cut (state : State) (c d : Char) (cs : List Char) (rest : List Fragment) :
    gluedLiterals (⟨state, [c]⟩ :: ⟨state, d :: cs⟩ :: rest)
      = gluedLiterals (⟨state, c :: d :: cs⟩ :: rest) := by
  cases hquoted : state.isQuoted with
  | false => simp [gluedLiterals, hquoted]
  | true =>
      by_cases hnext : rest.head?.map Fragment.state = some state
      · simp [gluedLiterals, Fragment.behind, hquoted, hnext, Function.comp_def]
      · simp [gluedLiterals, Fragment.behind, hquoted, hnext]

/-- A fragment can be cut into its characters. -/
theorem gluedLiterals_characters (state : State) (rest : List Fragment) :
    ∀ (cs : List Char) (c : Char),
      gluedLiterals ((c :: cs).map (fun d => ⟨state, [d]⟩) ++ rest)
        = gluedLiterals (⟨state, c :: cs⟩ :: rest)
  | [], _ => rfl
  | d :: cs, c => by
      have ih := gluedLiterals_characters state rest cs d
      calc gluedLiterals ((c :: d :: cs).map (fun d => ⟨state, [d]⟩) ++ rest)
          = gluedLiterals (⟨state, [c]⟩ :: ⟨state, d :: cs⟩ :: rest) :=
            gluedLiterals_cons_congr ih rfl ⟨state, [c]⟩
        _ = gluedLiterals (⟨state, c :: d :: cs⟩ :: rest) := gluedLiterals_cut state c d cs rest

/-- **What is glued of some spans can be read off their labels.** -/
theorem gluedLiterals_labels :
    ∀ spans : List Span, (∀ s ∈ spans, s.text ≠ []) →
      gluedLiterals (characters (labels spans)) = gluedLiterals (spans.map fragmentOf)
        ∧ (characters (labels spans)).head?.map Fragment.state
            = (spans.map fragmentOf).head?.map Fragment.state
  | [], _ => ⟨rfl, rfl⟩
  | s :: spans, hne => by
      obtain ⟨ih, ihHead⟩ := gluedLiterals_labels spans fun s' hs' =>
        hne s' (List.mem_cons_of_mem s hs')
      obtain ⟨c, cs, htext⟩ := List.exists_cons_of_ne_nil (hne s List.mem_cons_self)
      have hlabels : characters (labels (s :: spans))
          = (c :: cs).map (fun d => ⟨s.state, [d]⟩) ++ characters (labels spans) := by
        show characters (s.labels ++ labels spans) = _
        simp [characters, Span.labels, htext, Function.comp_def]
      refine ⟨?_, by rw [hlabels]; rfl⟩
      calc gluedLiterals (characters (labels (s :: spans)))
          = gluedLiterals (⟨s.state, c :: cs⟩ :: characters (labels spans)) := by
            rw [hlabels, gluedLiterals_characters]
        _ = gluedLiterals (⟨s.state, c :: cs⟩ :: spans.map fragmentOf) :=
            gluedLiterals_cons_congr ih ihHead _
        _ = gluedLiterals ((s :: spans).map fragmentOf) := by rw [← htext]; rfl

/-! ## §3. The literals of a script. -/

/-- The literals among some spans, each with its kind. -/
def literalsOf (spans : List Span) : List Fragment := literals (spans.map fragmentOf)

/-- In a reading no two literals of one kind meet. -/
theorem isChain_apart {comments : Bool} {position : Nat} {text : List Char} {spans : List Span}
    (h : Lexed comments position text spans) : (spans.map fragmentOf).IsChain Apart := by
  induction h with
  | nil => exact .nil
  | @cons s rest spans nonempty wellFormed more ih =>
      refine ih.cons fun next hnext quoted => ?_
      rw [List.head?_map] at hnext
      obtain ⟨s', hs', rfl⟩ := Option.map_eq_some_iff.mp hnext
      exact more.not_adjacent wellFormed quoted s' hs'

/-- **The literals of a text can be read off its labels.** -/
theorem literalsOf_scan_off (text : List Char) :
    literalsOf (scan false text .code) = gluedLiterals (characters (labelsFrom .code text)) := by
  have hscan := lexed_scan false text
  calc literalsOf (scan false text .code)
      = gluedLiterals ((scan false text .code).map fragmentOf) :=
        ((gluedLiterals_eq_iff _).mpr (isChain_apart hscan)).symm
    _ = gluedLiterals (characters (labels (scan false text .code))) :=
        (gluedLiterals_labels _ hscan.text_ne_nil).1.symm
    _ = gluedLiterals (characters (labelsFrom .code text)) := by rw [labels_scan_off]

/-- The literals that a script has without its comments. -/
theorem literalsOf_scan_removeComments (text : List Char) :
    literalsOf (scan false (removeComments text) .code)
      = gluedLiterals (((scan true text .code).filter (!·.state.isComment)).map fragmentOf) := by
  have hkept : ∀ s ∈ (scan true text .code).filter (!·.state.isComment), s.text ≠ [] :=
    fun s hs => (lexed_scan true text).text_ne_nil s (List.mem_of_mem_filter hs)
  calc literalsOf (scan false (removeComments text) .code)
      = gluedLiterals
          (characters (labels ((scan true text .code).filter (!·.state.isComment)))) := by
        rw [literalsOf_scan_off, ← kept_labels_scan, kept_labels]
    _ = gluedLiterals (((scan true text .code).filter (!·.state.isComment)).map fragmentOf) :=
        (gluedLiterals_labels _ hkept).1

/-- Comments are no literals. -/
theorem literalsOf_filter (spans : List Span) :
    literalsOf (spans.filter (!·.state.isComment)) = literalsOf spans := by
  unfold literalsOf literals
  rw [List.filter_map, List.filter_map, List.filter_filter]
  congr 1
  apply List.filter_congr
  intro s _
  cases hquoted : s.state.isQuoted with
  | false => simp [fragmentOf, hquoted]
  | true => simp [fragmentOf, hquoted, State.not_comment_of_isQuoted hquoted]

/-- Two literals of one kind meet among the spans outside comments if and only if only
comments stand between them. -/
theorem isChain_apart_filter_iff (spans : List Span) :
    ((spans.filter (!·.state.isComment)).map fragmentOf).IsChain Apart
      ↔ ¬ ∃ s between s', s :: (between ++ [s']) <:+: spans
          ∧ (∀ c ∈ between, c.state.isComment = true)
          ∧ s.state.isQuoted = true ∧ s'.state = s.state := by
  rw [List.isChain_map, isChain_filter_iff]
  constructor
  · rintro happart ⟨s, between, s', hinfix, hbetween, hquoted, hstate⟩
    have hcomment := State.not_comment_of_isQuoted hquoted
    exact happart s between s' hinfix (by simp [hcomment]) (by simp [hstate, hcomment])
      (fun c hc => by simp [hbetween c hc]) hquoted hstate
  · intro hnone s between s' hinfix _ _ hbetween hquoted hstate
    have hcomments : ∀ c ∈ between, c.state.isComment = true :=
      fun c hc => by simpa using hbetween c hc
    exact hnone ⟨s, between, s', hinfix, hcomments, hquoted, hstate⟩

/-- **The literals of a script without its comments** are those of the script, glued where
literals of one kind come together.  They are the literals of the script unless two of one
kind have nothing but comments between them. -/
theorem literalsOf_removeComments (text : List Char) :
    literalsOf (scan false (removeComments text) .code)
        = gluedLiterals (((scan true text .code).filter (!·.state.isComment)).map fragmentOf)
      ∧ (literalsOf (scan false (removeComments text) .code) = literalsOf (scan true text .code)
          ↔ ¬ ∃ s between s', s :: (between ++ [s']) <:+: scan true text .code
              ∧ (∀ c ∈ between, c.state.isComment = true)
              ∧ s.state.isQuoted = true ∧ s'.state = s.state) := by
  have hglued := literalsOf_scan_removeComments text
  refine ⟨hglued, ?_⟩
  rw [hglued, ← literalsOf_filter, ← isChain_apart_filter_iff]
  exact gluedLiterals_eq_iff _

/-- The literals `a` and `b` become the one literal `a'b`. -/
theorem literalsOf_removeComments_ne :
    literalsOf (scan true "SELECT 'a'/**/'b'".toList .code)
        = [⟨.singleQuoted, literal '\'' ['a']⟩, ⟨.singleQuoted, literal '\'' ['b']⟩]
      ∧ literalsOf (scan false (removeComments "SELECT 'a'/**/'b'".toList) .code)
        = [⟨.singleQuoted, literal '\'' ['a', '\'', 'b']⟩]
      ∧ literalsOf (scan false (removeComments "SELECT 'a'/**/'b'".toList) .code)
        ≠ literalsOf (scan true "SELECT 'a'/**/'b'".toList .code) := by
  decide

end SqlStatements.Script
