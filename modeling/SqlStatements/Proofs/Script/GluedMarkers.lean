/-
  SqlStatements.Proofs.Script.GluedMarkers
  ────────────────────────────────────────
  **When taking out a comment forms a new comment marker.**

  Two characters of code that only comments separate come to stand next to each other when
  the comments go.  If they are a comment marker, a scan that recognises comments finds a
  comment in what is left; and it finds one there for no other reason, since two characters
  of code that met in the script were no marker.

  Trimming and cutting bring no other characters together than a line feed and what stands
  next to it, so the statements of a script hold no markers but those.

  Main results:

    • `exists_comment_removeComments_iff` — comments in what is left of a script,
    • `infix_of_infix_trimmed`            — trimming brings nothing together,
    • `removeComments_glued_marker`       — the same for a second removal and the statements.
-/
import SqlStatements.Proofs.Lexical.Markers
import SqlStatements.Proofs.Script.Pieces

namespace SqlStatements.Script

open Lexical Text

/-! ## §1. What is left of a script. -/

/-- Whether a text has two characters in code that are a comment marker, with at least one
character between them and all characters between them in comments.  The labels of the
scan are the characters of the text, each with the state of its span. -/
def GluesMarker (text : List Char) : Prop :=
  ∃ m between m', m :: (between ++ [m']) <:+: labels (scan true text .code)
    ∧ m.state = .code ∧ m'.state = .code
    ∧ between ≠ [] ∧ (∀ c ∈ between, c.state.isComment = true)
    ∧ startsComment m.char (some m'.char)

/-- The characters of a script hold no comment marker in code where they stand. -/
theorem isChain_labels_scan (text : List Char) :
    (labels (scan true text .code)).IsChain NoMarker := by
  rw [labels_scan, List.isChain_map]
  exact isChain_marksFrom text (.ready .code true) .ready

/-- What is left of a script holds a marker if and only if one is glued. -/
theorem isChain_removeComments_iff (text : List Char) :
    (labelsFrom .code (removeComments text)).IsChain NoMarker ↔ ¬ GluesMarker text := by
  rw [← kept_labels_scan, kept, isChain_filter_iff]
  constructor
  · rintro hchain ⟨m, between, m', hinfix, hm, hm', -, hbetween, hmarker⟩
    exact hchain m between m' hinfix (by rw [hm]; rfl) (by rw [hm']; rfl)
      (fun c hc => by simp [hbetween c hc]) hm hm' hmarker
  · intro hnone m between m' hinfix _ _ hbetween hm hm' hmarker
    refine hnone ⟨m, between, m', hinfix, hm, hm', ?_, fun c hc => by simpa using hbetween c hc,
      hmarker⟩
    -- a marker whose characters meet in the script is none in code
    rintro rfl
    exact isChain_iff_pairs.mp (isChain_labels_scan text) m m' hinfix hm hm' hmarker

/-- **What is left of a script has a comment if and only if a marker is glued.** -/
theorem exists_comment_removeComments_iff (text : List Char) :
    (∃ s ∈ scan true (removeComments text) .code, s.state.isComment = true)
      ↔ GluesMarker text := by
  rw [exists_comment_iff, isChain_removeComments_iff, not_not]

/-- A text in whose code no marker stands has nothing to lose. -/
theorem removeComments_of_isChain {text : List Char}
    (h : (labelsFrom .code text).IsChain NoMarker) : removeComments text = text := by
  calc removeComments text
      = unmark (kept (marks true text .code)) := rfl
    _ = text := by rw [kept_eq_self ((isChain_labelsFrom_iff text).mp h), unmark_marks]

/-! ## §2. The statements of a script. -/

/-- A stretch without line feeds in a trimmed text stands in the text. -/
theorem infix_of_infix_trimmed {ms stretch : List Mark} (hfeed : lineFeed ∉ stretch)
    (hne : stretch ≠ []) (h : stretch <:+: trimmed ms) : stretch <:+: ms := by
  obtain ⟨line, hline, hstretch⟩ := exists_infix_of_infix_intercalate hfeed hne h
  obtain ⟨whole, hwhole, rfl⟩ := List.mem_map.mp hline
  obtain ⟨tail, htail, -⟩ := exists_dropTrailing_append isCodeTail whole
  have hcut : dropTrailing isCodeTail whole <:+: whole := ⟨[], tail, htail.symm⟩
  have hmem : whole ∈ codeLines ms := List.mem_of_mem_filter hwhole
  exact hstretch.trans (hcut.trans (infix_of_mem_splitOnP hmem))

/-- Trimming forms no marker. -/
theorem isChain_trimmed {ms : List Mark} (h : ms.IsChain NoMarker) :
    (trimmed ms).IsChain NoMarker := by
  rw [isChain_iff_pairs] at h ⊢
  intro m m' hpair hm hm' hmarker
  -- a line feed is no half of a marker
  have hfeed : lineFeed ∉ [m, m'] := by
    intro hmem
    rcases List.mem_pair.mp hmem with rfl | rfl
    · simp [startsComment, lineFeed] at hmarker
    · simp [startsComment, lineFeed] at hmarker
  exact h m m' (infix_of_infix_trimmed hfeed (by simp) hpair) hm hm' hmarker

/-- A statement of a script with a comment in it is of a script in which a marker is glued. -/
theorem gluesMarker_of_statement {text statement : List Char} {triggerBlocks : Bool}
    (hmem : statement ∈ splitScript text triggerBlocks)
    (hcomment : ∃ s ∈ scan true statement .code, s.state.isComment = true) :
    GluesMarker text := by
  by_contra hnone
  rw [exists_comment_iff] at hcomment
  apply hcomment
  have hleft := (isChain_removeComments_iff text).mpr hnone
  have htrimmed : (labelsFrom .code (trimLines (removeComments text))).IsChain NoMarker := by
    rw [labelsFrom_trimLines]
    exact isChain_trimmed hleft
  exact htrimmed.infix (labelsFrom_infix_of_mem hmem)

/-- **Exactly when a removed comment forms a new one.**  What is left of a script has a
comment if and only if two characters of code that only comments separate are a comment
marker.  Without such a pair a second removal changes nothing, and a statement has a comment
only in a script with such a pair. -/
theorem removeComments_glued_marker (text : List Char) :
    ((∃ s ∈ scan true (removeComments text) .code, s.state.isComment = true)
        ↔ GluesMarker text)
      ∧ (¬ GluesMarker text → removeComments (removeComments text) = removeComments text)
      ∧ ∀ triggerBlocks, ∀ statement ∈ splitScript text triggerBlocks,
          (∃ s ∈ scan true statement .code, s.state.isComment = true) → GluesMarker text :=
  ⟨exists_comment_removeComments_iff text,
    fun hnone => removeComments_of_isChain ((isChain_removeComments_iff text).mpr hnone),
    fun _ _ => gluesMarker_of_statement⟩

/-- Two minus signs are glued to a marker in the first text, and stay apart in the second: a
literal ends in one of them, a line break stands between others, and one is in a comment. -/
theorem removeComments_glued_marker_minus :
    ("SELECT 1--1".toList ∈ splitScript "SELECT 1-/**/-1; SELECT 2;".toList true
        ∧ GluesMarker "SELECT 1-/**/-1; SELECT 2;".toList)
      ∧ ¬ GluesMarker "'-'/**/-1 -\n-/*-*/2".toList
      ∧ removeComments (removeComments "'-'/**/-1 -\n-/*-*/2".toList)
          = removeComments "'-'/**/-1 -\n-/*-*/2".toList := by
  have hmem : "SELECT 1--1".toList ∈ splitScript "SELECT 1-/**/-1; SELECT 2;".toList true := by
    decide +kernel
  have hcomment : ∃ s ∈ scan true "SELECT 1--1".toList .code, s.state.isComment = true := by
    decide
  obtain ⟨-, -, hstatement⟩ := removeComments_glued_marker "SELECT 1-/**/-1; SELECT 2;".toList
  obtain ⟨hiff, htwice, -⟩ := removeComments_glued_marker "'-'/**/-1 -\n-/*-*/2".toList
  have hnone : ¬ GluesMarker "'-'/**/-1 -\n-/*-*/2".toList := by
    rw [← hiff]
    decide
  exact ⟨⟨hmem, hstatement true _ hmem hcomment⟩, hnone, htwice hnone⟩

end SqlStatements.Script
