/-
  SqlStatements.Proofs.Script.Identifiers
  ───────────────────────────────────────
  **Which identifiers are taken for keywords.**

  An identifier may hold letters, digits, `_`, `$` and every character that is not ASCII.
  The reading of words knows the ASCII ones only: it takes an identifier of those for one
  word, and in any other it finds the words that stand between the other characters.

  A word that is no keyword opens and closes no block, begins no trigger definition, and
  makes none of a statement whose first words are not those of one.  So two readings that
  differ in such words only are alike for the rest of the text (`Alike`), and an identifier
  none of whose words is a keyword can be replaced by any other.  `éEND` cannot: the word
  in it closes a block.

  Main results:

    • `Alike.segments_eq`                  — readings that are alike cut a text alike,
    • `length_splitStatements_identifier`  — replacing an identifier.
-/
import SqlStatements.Proofs.Script.Triggers

namespace SqlStatements.Script

open Lexical Text

/-! ## §1. Identifiers. -/

/-- The characters of an identifier: those of a word, and all that are not ASCII. -/
def isIdentifierChar (c : Char) : Bool :=
  continuesWord c || decide (0x80 ≤ c.toNat)

/-- The words that begin a trigger definition, and those that open or close a block. -/
def keywords : List String :=
  ["CREATE", "TEMP", "TEMPORARY", "TRIGGER", "BEGIN", "CASE", "END"]

/-- `run` stands between `before` and `after` as a longest stretch of identifier characters
in one span of code, and does not begin with a digit or `$`. -/
structure IdentifierRun (before run after : List Char) : Prop where
  chars : ∀ c ∈ run, isIdentifierChar c = true
  first : ∃ c rest, run = c :: rest ∧ c.isDigit = false ∧ c ≠ '$'
  span : ∃ earlier s later left right,
    scan false (before ++ run ++ after) .code = earlier ++ s :: later
      ∧ s.state = .code ∧ s.text = left ++ run ++ right
      ∧ before = earlier.flatMap Span.text ++ left
      ∧ (∀ c ∈ left.getLast?, isIdentifierChar c = false)
      ∧ ∀ c ∈ right.head?, isIdentifierChar c = false

/-- An identifier that is given by the spans around it. -/
theorem IdentifierRun.of_scan {before run after : List Char} {c : Char} {rest : List Char}
    {earlier later : List Span} {s : Span} {left right : List Char}
    (hchars : run.all isIdentifierChar = true)
    (hfirst : run = c :: rest ∧ c.isDigit = false ∧ c ≠ '$')
    (hspan : scan false (before ++ run ++ after) .code = earlier ++ s :: later
      ∧ s.state = .code ∧ s.text = left ++ run ++ right
      ∧ before = earlier.flatMap Span.text ++ left)
    (hlast : left.getLast?.all (!isIdentifierChar ·) = true)
    (hhead : right.head?.all (!isIdentifierChar ·) = true) :
    IdentifierRun before run after where
  chars := List.all_eq_true.mp hchars
  first := ⟨c, rest, hfirst⟩
  span := by
    obtain ⟨hscan, hcode, htext, hbefore⟩ := hspan
    refine ⟨earlier, s, later, left, right, hscan, hcode, htext, hbefore, fun d hd => ?_,
      fun d hd => ?_⟩
    · simpa [Option.mem_def.mp hd] using hlast
    · simpa [Option.mem_def.mp hd] using hhead

theorem continuesWord_eq_false {c : Char} (h : isIdentifierChar c = false) :
    continuesWord c = false := by
  simp only [isIdentifierChar, Bool.or_eq_false_iff] at h
  exact h.1

/-- An identifier is a run of code: it has no quote and no `;` in it. -/
theorem labelsFrom_identifierChars {run : List Char} (h : ∀ c ∈ run, isIdentifierChar c = true) :
    labelsFrom .code run = codeLabels run ∧ stateAfter .code run = .code := by
  have hne : ∀ c ∈ run, ∀ d : Char, isIdentifierChar d = false → c ≠ d := by
    rintro c hc d hd rfl
    exact absurd (h c hc) (by simp [hd])
  exact labelsFrom_codeLabels fun c hc =>
    ⟨hne c hc _ (by decide), hne c hc _ (by decide), hne c hc _ (by decide)⟩

/-- Between two parts of a text an identifier is labelled as code, whichever it is. -/
theorem labelsFrom_around {before run : List Char} (hstate : stateAfter .code before = .code)
    (h : ∀ c ∈ run, isIdentifierChar c = true) (after : List Char) :
    labelsFrom .code (before ++ run ++ after)
      = labelsFrom .code before ++ (codeLabels run ++ labelsFrom .code after) := by
  obtain ⟨hlabels, hafter⟩ := labelsFrom_identifierChars h
  rw [List.append_assoc, labelsFrom_append, hstate, labelsFrom_append, hlabels, hafter]

/-! ## §2. What stands around an identifier. -/

/-- Whether two spans that meet are not both code in which no statement can end. -/
def Separated (s next : Span) : Prop :=
  s.state = .code → s.terminator = false → next.state = .code → next.terminator = true

theorem isChain_separated {comments : Bool} {position : Nat} {text : List Char}
    {spans : List Span} (h : Lexed comments position text spans) : spans.IsChain Separated := by
  induction h with
  | nil => exact .nil
  | @cons s rest spans nonempty wellFormed more ih =>
      refine ih.cons fun next hnext hcode hterminator => ?_
      cases wellFormed with
      | code plain maximal => exact maximal next hnext
      | terminator | lineComment | blockComment | openBlockComment => simp at hcode hterminator
      | literal quote | openLiteral quote => exact absurd hcode (State.quote?_ne_code quote)

/-- A span in which no code goes on has no character of a word in it. -/
theorem inWord_of_mem_labels {s : Span} (h : s.state = .code → s.terminator = true) {m : Mark}
    (hm : m ∈ s.labels) : inWord m = false := by
  obtain ⟨c, -, rfl⟩ := List.mem_map.mp hm
  by_cases hcode : s.state = .code
  · simp [inWord, h hcode]
  · simp [inWord, hcode]

theorem head?_labels {spans : List Span} (hne : ∀ s ∈ spans, s.text ≠ []) {m : Mark}
    (hm : m ∈ (labels spans).head?) : ∃ s ∈ spans.head?, m ∈ s.labels := by
  cases spans with
  | nil => simp [labels] at hm
  | cons s spans =>
      obtain ⟨c, cs, htext⟩ := List.exists_cons_of_ne_nil (hne s List.mem_cons_self)
      refine ⟨s, rfl, ?_⟩
      simp_all [labels, Span.labels]

theorem getLast?_labels {spans : List Span} (hne : ∀ s ∈ spans, s.text ≠ []) {m : Mark}
    (hm : m ∈ (labels spans).getLast?) : ∃ s ∈ spans.getLast?, m ∈ s.labels := by
  rcases List.eq_nil_or_concat spans with rfl | ⟨front, s, rfl⟩
  · simp [labels] at hm
  · rw [List.concat_eq_append] at hm ⊢
    have hlabels : s.labels ≠ [] := by
      simpa [Span.labels] using hne s (by simp)
    have hlast : labels [s] = s.labels := List.append_nil _
    rw [labels_append, hlast, List.getLast?_append_of_ne_nil _ hlabels] at hm
    exact ⟨s, by simp, List.mem_of_getLast? hm⟩

theorem inWord_code {c : Char} (h : isIdentifierChar c = false) :
    inWord ⟨c, .code, false, false⟩ = false := by
  simp [inWord, continuesWord_eq_false h]

/-- Before an identifier: code that it does not go on with, or a span that is no such code. -/
theorem inWord_getLast?_append {spans : List Span} (hne : ∀ s ∈ spans, s.text ≠ [])
    (hspans : ∀ s ∈ spans.getLast?, s.state = .code → s.terminator = true) {left : List Char}
    (hleft : ∀ c ∈ left.getLast?, isIdentifierChar c = false) :
    ∀ m ∈ (labels spans ++ codeLabels left).getLast?, inWord m = false := by
  intro m hm
  rcases List.eq_nil_or_concat left with rfl | ⟨front, c, rfl⟩
  · rw [show codeLabels [] = [] from rfl, List.append_nil] at hm
    obtain ⟨s, hs, hm⟩ := getLast?_labels hne hm
    exact inWord_of_mem_labels (hspans s hs) hm
  · obtain rfl : (⟨c, .code, false, false⟩ : Mark) = m := by simpa [codeLabels] using hm
    exact inWord_code (hleft c (by simp))

/-- Behind an identifier it is the same. -/
theorem inWord_head?_append {spans : List Span} (hne : ∀ s ∈ spans, s.text ≠ [])
    (hspans : ∀ s ∈ spans.head?, s.state = .code → s.terminator = true) {right : List Char}
    (hright : ∀ c ∈ right.head?, isIdentifierChar c = false) :
    ∀ m ∈ (codeLabels right ++ labels spans).head?, inWord m = false := by
  intro m hm
  cases right with
  | nil =>
      obtain ⟨s, hs, hm⟩ := head?_labels hne hm
      exact inWord_of_mem_labels (hspans s hs) hm
  | cons c right =>
      obtain rfl : (⟨c, .code, false, false⟩ : Mark) = m := by simpa [codeLabels] using hm
      exact inWord_code (hright c rfl)

section
variable {before run after : List Char}

/-- The labels of a text before the identifier, of the identifier, and behind it. -/
theorem IdentifierRun.exists_labels (h : IdentifierRun before run after) :
    ∃ ms ms', labelsFrom .code (before ++ run ++ after) = ms ++ (codeLabels run ++ ms')
      ∧ unmark ms = before ∧ (∀ m ∈ ms.getLast?, inWord m = false)
      ∧ ∀ m ∈ ms'.head?, inWord m = false := by
  obtain ⟨c, rest, hrun, -, -⟩ := h.first
  obtain ⟨earlier, s, later, left, right, hscan, hcode, htext, hbefore, hleft, hright⟩ := h.span
  have hlexed := lexed_scan false (before ++ run ++ after)
  rw [hscan] at hlexed
  have hne := hlexed.text_ne_nil
  have hterminator : s.terminator = false := by
    by_contra hterminator
    have hsemi := hlexed.text_of_terminator s (by simp) (by simpa using hterminator)
    have hc : c ∈ s.text := by simp [htext, hrun]
    obtain rfl : c = ';' := by simpa [hsemi] using hc
    exact absurd (h.chars ';' (by simp [hrun])) (by decide)
  -- the span ends where code ends, on both of its sides
  obtain ⟨-, hlater, hearlier⟩ := List.isChain_append.mp (isChain_separated hlexed)
  have hfront : ∀ s' ∈ earlier.getLast?, s'.state = .code → s'.terminator = true := by
    intro s' hs' hcode'
    by_contra hterminator'
    have hs := hearlier s' hs' s rfl hcode' (by simpa using hterminator') hcode
    exact absurd hs (by simp [hterminator])
  have hback : ∀ s' ∈ later.head?, s'.state = .code → s'.terminator = true :=
    fun s' hs' => (List.isChain_cons.mp hlater).1 s' hs' hcode hterminator
  have hlabels : s.labels = codeLabels left ++ (codeLabels run ++ codeLabels right) := by
    simp [Span.labels, codeLabels, htext, hcode, hterminator]
  refine ⟨labels earlier ++ codeLabels left, codeLabels right ++ labels later, ?_, ?_,
    inWord_getLast?_append (fun s' hs' => hne s' (by simp [hs'])) hfront hleft,
    inWord_head?_append (fun s' hs' => hne s' (by simp [hs'])) hback hright⟩
  · have hsplit : labels (s :: later) = s.labels ++ labels later := rfl
    rw [← labels_scan_off, hscan, labels_append, hsplit, hlabels]
    simp only [List.append_assoc]
  · rw [unmark_append, unmark_labels, hbefore]
    simp [unmark, codeLabels, Function.comp_def]

/-- **No word goes on into an identifier or out of it**, and it is read in code. -/
theorem IdentifierRun.boundary (h : IdentifierRun before run after) :
    stateAfter .code before = .code
      ∧ (∀ m ∈ (labelsFrom .code before).getLast?, inWord m = false)
      ∧ ∀ m ∈ (labelsFrom .code after).head?, inWord m = false := by
  obtain ⟨c, rest, hrun, -, -⟩ := h.first
  obtain ⟨ms, ms', hall, hms, hlast, hhead⟩ := h.exists_labels
  have hlength : (labelsFrom .code before).length = ms.length := by
    rw [length_labelsFrom, ← hms, unmark, List.length_map]
  rw [List.append_assoc, labelsFrom_append] at hall
  obtain ⟨hbefore, hrest⟩ := List.append_inj hall hlength
  -- the identifier is labelled as code, so it is read in code
  have hcode : stateAfter .code before = .code := by
    rw [hrun] at hrest
    have hfirst : (stateAfter .code before).label c = ⟨c, .code, false, false⟩ :=
      (List.cons.inj hrest).1
    exact (State.of_label_code (by rw [hfirst])).1
  obtain ⟨hlabels, hafter⟩ := labelsFrom_identifierChars h.chars
  rw [hcode, labelsFrom_append, hlabels, hafter] at hrest
  rw [hbefore, List.append_cancel_left hrest]
  exact ⟨hcode, hlast, hhead⟩

end

/-! ## §3. Readings that are alike. -/

/-- Behind three words the opening is known, and further words do not change it. -/
theorem opensTrigger_append {words : List String} (h : 3 ≤ words.length) (more : List String) :
    opensTrigger (words ++ more) = opensTrigger words := by
  rw [Bool.eq_iff_iff]
  constructor
  · intro htrigger
    have htake := opensTrigger_take htrigger
    rw [List.take_append_of_le_length h] at htake
    exact opensTrigger_mono (List.take_prefix 3 words) htake
  · exact opensTrigger_mono (List.prefix_append words more)

/-- A word is added to the opening, or the opening is known without it. -/
theorem opensTrigger_readWord (r : Reading) (word : String) (more : List String) :
    opensTrigger ((r.readWord word).opening ++ more)
      = opensTrigger (r.opening ++ word :: more) := by
  by_cases hlength : r.opening.length < 3
  · simp [Reading.readWord, hlength]
  · have hknown : 3 ≤ r.opening.length := by omega
    rw [opensTrigger_append hknown]
    simp [Reading.readWord, hlength, opensTrigger_append hknown]

/-- Two readings with the same open blocks, for which the same words to come make the
statement a trigger definition. -/
structure Alike (r r' : Reading) : Prop where
  word : r.word = r'.word
  depth : r.depth = r'.depth
  opening : ∀ words, opensTrigger (r.opening ++ words) = opensTrigger (r'.opening ++ words)

section
variable {r r' : Reading}

theorem Alike.readWord (h : Alike r r') (word : String) :
    Alike (r.readWord word) (r'.readWord word) := by
  have hopening : ∀ words, opensTrigger ((r.readWord word).opening ++ words)
      = opensTrigger ((r'.readWord word).opening ++ words) := by
    intro words
    rw [opensTrigger_readWord, opensTrigger_readWord, h.opening]
  refine ⟨h.word, ?_, hopening⟩
  have hnow := hopening []
  rw [List.append_nil, List.append_nil] at hnow
  cases htrigger : opensTrigger (r.readWord word).opening with
  | true => rw [depth_readWord htrigger, depth_readWord (hnow ▸ htrigger), h.depth]
  | false => rw [depth_readWord_other htrigger, depth_readWord_other (hnow ▸ htrigger), h.depth]

theorem Alike.foldl (h : Alike r r') (words : List String) :
    Alike (words.foldl Reading.readWord r) (words.foldl Reading.readWord r') := by
  induction words generalizing r r' with
  | nil => exact h
  | cons word words ih => exact ih (h.readWord word)

theorem Alike.endWord (h : Alike r r') : Alike r.endWord r'.endWord := by
  have hbare : Alike { r with word := [] } { r' with word := [] } := ⟨rfl, h.depth, h.opening⟩
  rw [r.endWord_eq, r'.endWord_eq, h.word]
  exact hbare.foldl (pendingWord r'.word)

theorem Alike.endsStatement_eq (h : Alike r r') (m : Mark) :
    endsStatement r m = endsStatement r' m := by
  unfold endsStatement
  rw [h.endWord.depth]

theorem Alike.readingAfter (h : Alike r r') (m : Mark) :
    Alike (readingAfter true r m) (readingAfter true r' m) := by
  unfold Script.readingAfter
  rw [h.endsStatement_eq]
  cases endsStatement r' m with
  | true => exact ⟨rfl, h.endWord.depth, fun _ => rfl⟩
  | false =>
      have htakes : r.takes m = r'.takes m := by simp [Reading.takes, h.word]
      show Alike (r.read m) (r'.read m)
      unfold Reading.read
      rw [htakes, h.word]
      cases r'.takes m with
      | true => exact ⟨rfl, h.depth, h.opening⟩
      | false => exact h.endWord

/-- **Readings that are alike cut a text alike.** -/
theorem Alike.segments_eq (h : Alike r r') (ms : List Mark) :
    segments true r ms = segments true r' ms := by
  induction ms generalizing r r' with
  | nil => rfl
  | cons m ms ih =>
      unfold segments
      rw [h.endsStatement_eq, ih (h.readingAfter m)]

end

/-! ## §4. Words that are no keywords. -/

/-- A word that is no keyword opens and closes no block. -/
theorem depth_readWord_of_not_mem {word : String} (h : word ∉ keywords) (r : Reading) :
    (r.readWord word).depth = r.depth := by
  have hne : ∀ keyword ∈ keywords, word ≠ keyword := by
    rintro keyword hmem rfl
    exact h hmem
  cases htrigger : opensTrigger (r.readWord word).opening with
  | false => exact depth_readWord_other htrigger
  | true =>
      rw [depth_readWord htrigger]
      simp [Reading.depthAfter, hne "BEGIN" (by decide), hne "CASE" (by decide),
        hne "END" (by decide)]

/-- A statement with a word that is no keyword among its first ones is a trigger
definition if it was one before. -/
theorem opensTrigger_of_not_mem {word : String} (h : word ∉ keywords)
    (words more : List String) :
    opensTrigger (words ++ word :: more) = opensTrigger words := by
  rw [Bool.eq_iff_iff]
  constructor
  · intro htrigger
    obtain ⟨opening, hmem, hprefix⟩ := opensTrigger_iff.mp htrigger
    refine opensTrigger_iff.mpr ⟨opening, hmem, ?_⟩
    have hsplit : words ++ word :: more = (words ++ [word]) ++ more := by simp
    rw [hsplit] at hprefix
    have hword : word ∉ opening := by
      intro hword
      have hkeywords : ∀ opening ∈ triggerOpenings, ∀ word ∈ opening, word ∈ keywords := by decide
      exact h (hkeywords opening hmem word hword)
    -- a definition's opening has keywords only, so it ends before the word
    rcases List.prefix_or_prefix_of_prefix hprefix (List.prefix_append _ more) with hshort | hlong
    · rcases List.prefix_concat_iff.mp hshort with rfl | hshort
      · exact absurd (by simp) hword
      · exact hshort
    · exact absurd (hlong.subset (by simp)) hword
  · exact opensTrigger_mono (List.prefix_append words _)

theorem opensTrigger_foldl_append (r : Reading) (words more : List String) :
    opensTrigger ((words.foldl Reading.readWord r).opening ++ more)
      = opensTrigger (r.opening ++ (words ++ more)) := by
  induction words generalizing r with
  | nil => rfl
  | cons word words ih =>
      show opensTrigger ((words.foldl Reading.readWord (r.readWord word)).opening ++ more) = _
      rw [ih, opensTrigger_readWord]
      rfl

theorem depth_foldl_of_not_mem {words : List String} (h : ∀ word ∈ words, word ∉ keywords)
    (r : Reading) : (words.foldl Reading.readWord r).depth = r.depth := by
  induction words generalizing r with
  | nil => rfl
  | cons word words ih =>
      obtain ⟨hword, hwords⟩ := List.forall_mem_cons.mp h
      show (words.foldl Reading.readWord (r.readWord word)).depth = _
      rw [ih hwords, depth_readWord_of_not_mem hword]

/-- **Words that are no keywords, however many and whichever, are read alike.** -/
theorem alike_foldl {words words' : List String} (h : ∀ word ∈ words, word ∉ keywords)
    (h' : ∀ word ∈ words', word ∉ keywords) {r : Reading}
    (hopening : 3 ≤ r.opening.length ∨ words ≠ [] ∧ words' ≠ []) :
    Alike (words.foldl Reading.readWord r) (words'.foldl Reading.readWord r) := by
  refine ⟨by rw [word_foldl, word_foldl], ?_, fun more => ?_⟩
  · rw [depth_foldl_of_not_mem h, depth_foldl_of_not_mem h']
  · rw [opensTrigger_foldl_append, opensTrigger_foldl_append]
    rcases hopening with hlength | ⟨hne, hne'⟩
    · rw [opensTrigger_append hlength, opensTrigger_append hlength]
    · obtain ⟨word, words, rfl⟩ := List.exists_cons_of_ne_nil hne
      obtain ⟨word', words', rfl⟩ := List.exists_cons_of_ne_nil hne'
      rw [List.cons_append, List.cons_append, opensTrigger_of_not_mem (h word List.mem_cons_self),
        opensTrigger_of_not_mem (h' word' List.mem_cons_self)]

/-! ## §5. Replacing an identifier. -/

/-- Behind a mark that stands in no word no word is being read. -/
theorem word_readAll {ms : List Mark} (h : ∀ m ∈ ms.getLast?, inWord m = false) :
    (readAll true {} ms).word = [] := by
  rcases List.eq_nil_or_concat ms with rfl | ⟨front, m, rfl⟩
  · rfl
  · rw [List.concat_eq_append] at h ⊢
    have hm : inWord m = false := h m (by simp)
    rw [readAll_append]
    show (readingAfter true (readAll true {} front) m).word = []
    unfold readingAfter
    split
    · rfl
    · simp only [if_true, Reading.read, Reading.takes_eq_false hm]
      cases hword : (readAll true {} front).word <;> simp [Reading.endWord, hword]

/-- What is read of an identifier are its words. -/
theorem endWord_readAll_codeLabels {r : Reading} (hr : r.word = []) (run : List Char) :
    (readAll true r (codeLabels run)).endWord
      = ((wordsFrom false run).map inCapitals).foldl Reading.readWord r := by
  have huncut : Uncut true r (codeLabels run) :=
    uncut_of_none (fun m hm => by obtain ⟨c, -, rfl⟩ := List.mem_map.mp hm; rfl) r
  rw [huncut.endWord_readAll, hr, (wordsRead_codeLabels run).1, Reading.with_word r hr]

/-- Before a mark that stands in no word, the word that is being read may as well be over. -/
theorem segments_endWord {ms : List Mark} (h : ∀ m ∈ ms.head?, inWord m = false) (r : Reading) :
    segments true r ms = segments true r.endWord ms := by
  cases ms with
  | nil => rfl
  | cons m ms =>
      have hm : inWord m = false := h m rfl
      have hends : endsStatement r m = endsStatement r.endWord m := by
        unfold endsStatement
        rw [r.endWord_endWord]
      have hafter : readingAfter true r m = readingAfter true r.endWord m := by
        unfold readingAfter Reading.read
        rw [hends, Reading.takes_eq_false hm, Reading.takes_eq_false hm, r.endWord_endWord]
        rfl
      unfold segments
      rw [hends, hafter]

/-- The statements of a text in which an identifier stands: those before it, the one with
it, and those behind it. -/
theorem exists_statements_around {ms ms' : List Mark} (hms : ∀ m ∈ ms.getLast?, inWord m = false)
    (hms' : ∀ m ∈ ms'.head?, inWord m = false) (r : Reading) :
    ∃ earlier front back later, ∀ run,
      Alike (((wordsFrom false run).map inCapitals).foldl Reading.readWord (readAll true {} ms)) r →
      segments true {} (ms ++ (codeLabels run ++ ms'))
        = earlier ++ (front ++ (run ++ back)) :: later := by
  obtain ⟨earlier, last, -, -, happend⟩ := exists_segments_append true {} ms
  obtain ⟨back, later, hback⟩ := List.exists_cons_of_ne_nil (segments_ne_nil true r ms')
  refine ⟨earlier, unmark last, back, later, fun run halike => ?_⟩
  have hrest : segments true (readAll true (readAll true {} ms) (codeLabels run)) ms'
      = back :: later := by
    rw [segments_endWord hms', endWord_readAll_codeLabels (word_readAll hms),
      halike.segments_eq, hback]
  have hrun : unmark (codeLabels run) = run := by
    simp [unmark, codeLabels, Function.comp_def]
  have hnone : ∀ m ∈ codeLabels run, m.terminator = false := by
    intro m hm
    obtain ⟨c, -, rfl⟩ := List.mem_map.mp hm
    rfl
  have hwith := segments_append_of_none true hnone hrest
  rw [hrun] at hwith
  exact happend _ _ _ hwith

/-- A segment that is not blank is one statement. -/
theorem length_statementsOf_singleton {segment : List Char}
    (h : ∃ c ∈ segment, isBlank c = false) : (statementsOf [segment]).length = 1 := by
  have hne : strip segment ≠ [] := by
    rw [Ne, strip_eq_nil_iff]
    obtain ⟨c, hc, hblank⟩ := h
    intro hall
    exact absurd (hall c hc) (by simp [hblank])
  rw [statementsOf_singleton, if_neg hne]
  rfl

section
variable {before run after : List Char}

/-- **Identifiers that are read alike can be replaced by each other**, as long as neither is
blank. -/
theorem IdentifierRun.length_eq (h : IdentifierRun before run after) {run' : List Char}
    (hchars : ∀ c ∈ run', isIdentifierChar c = true)
    (halike : Alike
      (((wordsFrom false run).map inCapitals).foldl Reading.readWord
        (readAll true {} (labelsFrom .code before)))
      (((wordsFrom false run').map inCapitals).foldl Reading.readWord
        (readAll true {} (labelsFrom .code before))))
    (hrun : ∃ c ∈ run, isBlank c = false) (hrun' : ∃ c ∈ run', isBlank c = false) :
    (splitStatements (before ++ run ++ after) true).length
      = (splitStatements (before ++ run' ++ after) true).length := by
  obtain ⟨hstate, hlast, hhead⟩ := h.boundary
  obtain ⟨earlier, front, back, later, hsegments⟩ := exists_statements_around hlast hhead
    (((wordsFrom false run').map inCapitals).foldl Reading.readWord
      (readAll true {} (labelsFrom .code before)))
  have hcount : ∀ run, (∃ c ∈ run, isBlank c = false) →
      (statementsOf (earlier ++ (front ++ (run ++ back)) :: later)).length
        = (statementsOf earlier).length + 1 + (statementsOf later).length := by
    rintro run ⟨c, hc, hblank⟩
    have hsplit : earlier ++ (front ++ (run ++ back)) :: later
        = earlier ++ ([front ++ (run ++ back)] ++ later) := by simp
    rw [hsplit, statementsOf_append, statementsOf_append, List.length_append, List.length_append,
      length_statementsOf_singleton ⟨c, by simp [hc], hblank⟩]
    omega
  rw [splitStatements_eq, splitStatements_eq, labelsFrom_around hstate h.chars,
    labelsFrom_around hstate hchars, hsegments run halike,
    hsegments run' ⟨rfl, rfl, fun _ => rfl⟩, hcount run hrun, hcount run' hrun']

/-- Where there is a word, there is a character that begins it. -/
theorem exists_startsWord {inside : Bool} (h : wordsFrom inside run ≠ []) :
    ∃ c ∈ run, startsWord c = true := by
  induction run generalizing inside with
  | nil => exact absurd rfl h
  | cons c run ih =>
      cases hc : startsWord c with
      | true => exact ⟨c, List.mem_cons_self, hc⟩
      | false =>
          unfold wordsFrom at h
          rw [hc] at h
          split at h
          · obtain ⟨d, hd, hstarts⟩ := ih h
            exact ⟨d, List.mem_cons_of_mem c hd, hstarts⟩
          · obtain ⟨d, hd, hstarts⟩ := ih h
            exact ⟨d, List.mem_cons_of_mem c hd, hstarts⟩

theorem not_blank_of_startsWord {c : Char} (h : startsWord c = true) : isBlank c = false := by
  cases hblank : isBlank c with
  | false => rfl
  | true =>
      have hword := continuesWord_of_startsWord h
      simp [continuesWord_of_blank hblank] at hword

theorem wordsFrom_inside (h : ∀ c ∈ run, continuesWord c = true) : wordsFrom true run = [] := by
  induction run with
  | nil => rfl
  | cons c run ih =>
      obtain ⟨hc, hrun⟩ := List.forall_mem_cons.mp h
      simp [wordsFrom, hc, ih hrun]

/-- **An identifier of ASCII characters is one word.** -/
theorem IdentifierRun.wordsFrom_eq (h : IdentifierRun before run after)
    (hascii : ∀ c ∈ run, c.toNat < 0x80) : wordsFrom false run = [run] := by
  have hcontinues : ∀ c ∈ run, continuesWord c = true := by
    intro c hc
    have hchar := h.chars c hc
    have hsmall := hascii c hc
    simp only [isIdentifierChar, Bool.or_eq_true, decide_eq_true_eq] at hchar
    exact hchar.resolve_right (by omega)
  obtain ⟨c, rest, rfl, hdigit, hdollar⟩ := h.first
  obtain ⟨hc, hrest⟩ := List.forall_mem_cons.mp hcontinues
  have hstarts : startsWord c = true := by
    simp only [continuesWord, Char.isAlphanum, Bool.or_eq_true, beq_iff_eq] at hc
    simp only [startsWord, Bool.or_eq_true, beq_iff_eq]
    rcases hc with ((halpha | hdigit') | hline) | hdollar'
    · exact .inl halpha
    · simp [hdigit] at hdigit'
    · exact .inr hline
    · exact absurd hdollar' hdollar
  have htake : rest.takeWhile continuesWord = rest := List.takeWhile_eq_self_iff.mpr hrest
  simp [wordsFrom, hstarts, htake, wordsFrom_inside hrest]

/-- **An identifier can be replaced by `x` if none of its words is a keyword.**  One of
ASCII characters is a single word, so that it must not be a keyword is all there is to it;
of one with other characters it is asked of every word that they leave in it.  If they leave
none, the first words of its statement must have been read before it. -/
theorem length_splitStatements_identifier (h : IdentifierRun before run after) :
    ((∀ c ∈ run, c.toNat < 0x80) → inCapitals run ∉ keywords →
        (splitStatements (before ++ run ++ after) true).length
          = (splitStatements (before ++ ['x'] ++ after) true).length)
      ∧ ((∀ word ∈ wordsFrom false run, inCapitals word ∉ keywords) →
          (wordsFrom false run ≠ []
            ∨ 3 ≤ (readAll true {} (marks false before .code)).opening.length
              ∧ ∃ c ∈ run, isBlank c = false) →
          (splitStatements (before ++ run ++ after) true).length
            = (splitStatements (before ++ ['x'] ++ after) true).length) := by
  have hreading : readAll true {} (marks false before .code)
      = readAll true {} (labelsFrom .code before) := by
    rw [← label_marksFrom_off before rfl true, readAll_map_label]
    rfl
  have hx : (wordsFrom false ['x']).map inCapitals = ["X"] := by decide
  have hwords : (∀ word ∈ wordsFrom false run, inCapitals word ∉ keywords) →
      (wordsFrom false run ≠ []
        ∨ 3 ≤ (readAll true {} (marks false before .code)).opening.length
          ∧ ∃ c ∈ run, isBlank c = false) →
      (splitStatements (before ++ run ++ after) true).length
        = (splitStatements (before ++ ['x'] ++ after) true).length := by
    intro hnone hsome
    have hnone' : ∀ word ∈ (wordsFrom false run).map inCapitals, word ∉ keywords := by
      intro word hword
      obtain ⟨characters, hmem, rfl⟩ := List.mem_map.mp hword
      exact hnone characters hmem
    have hblank : ∃ c ∈ run, isBlank c = false := by
      rcases hsome with hne | ⟨-, hblank⟩
      · obtain ⟨c, hc, hstarts⟩ := exists_startsWord hne
        exact ⟨c, hc, not_blank_of_startsWord hstarts⟩
      · exact hblank
    refine h.length_eq (by simp [isIdentifierChar, continuesWord]) ?_ hblank
      ⟨'x', List.mem_singleton.mpr rfl, rfl⟩
    rw [hx]
    refine alike_foldl hnone' (by decide) ?_
    rcases hsome with hne | ⟨hlength, -⟩
    · exact .inr ⟨by simpa using hne, by simp⟩
    · exact .inl (hreading ▸ hlength)
  refine ⟨fun hascii hkeyword => ?_, hwords⟩
  have hsingle := h.wordsFrom_eq hascii
  refine hwords ?_ (.inl (by simp [hsingle]))
  rw [hsingle]
  simpa using hkeyword

end

/-- In the body of a trigger `begin_at` opens no block, the `t` in `été` is no keyword, and
behind the first words of the statement `é` may stand for anything. -/
theorem length_splitStatements_identifier_begin_at :
    IdentifierRun "create trigger été begin set ".toList "begin_at".toList " = é; end; a".toList
      ∧ IdentifierRun "create trigger ".toList "été".toList
        " begin set begin_at = é; end; a".toList
      ∧ IdentifierRun "create trigger été begin set begin_at = ".toList "é".toList
        "; end; a".toList
      ∧ (splitStatements ("create trigger été begin set ".toList ++ ['x']
          ++ " = é; end; a".toList) true).length = 2
      ∧ (splitStatements ("create trigger ".toList ++ ['x']
          ++ " begin set begin_at = é; end; a".toList) true).length = 2
      ∧ (splitStatements ("create trigger été begin set begin_at = ".toList ++ ['x']
          ++ "; end; a".toList) true).length = 2 := by
  -- all three stand in the first span of the text
  have hbegin : IdentifierRun "create trigger été begin set ".toList "begin_at".toList
      " = é; end; a".toList :=
    @IdentifierRun.of_scan _ _ _ 'b' "egin_at".toList []
      (scan false "create trigger été begin set begin_at = é; end; a".toList .code).tail
      ⟨.code, 0, "create trigger été begin set begin_at = é".toList, false⟩
      "create trigger été begin set ".toList " = é".toList (by decide) (by decide)
      (by decide +kernel) (by decide) (by decide)
  have hword : IdentifierRun "create trigger ".toList "été".toList
      " begin set begin_at = é; end; a".toList :=
    @IdentifierRun.of_scan _ _ _ 'é' "té".toList []
      (scan false "create trigger été begin set begin_at = é; end; a".toList .code).tail
      ⟨.code, 0, "create trigger été begin set begin_at = é".toList, false⟩
      "create trigger ".toList " begin set begin_at = é".toList (by decide) (by decide)
      (by decide +kernel) (by decide) (by decide)
  have hsign : IdentifierRun "create trigger été begin set begin_at = ".toList "é".toList
      "; end; a".toList :=
    @IdentifierRun.of_scan _ _ _ 'é' [] []
      (scan false "create trigger été begin set begin_at = é; end; a".toList .code).tail
      ⟨.code, 0, "create trigger été begin set begin_at = é".toList, false⟩
      "create trigger été begin set begin_at = ".toList [] (by decide) (by decide)
      (by decide +kernel) (by decide) (by decide)
  obtain ⟨happly, -⟩ := length_splitStatements_identifier hbegin
  obtain ⟨-, happly'⟩ := length_splitStatements_identifier hword
  obtain ⟨-, happly''⟩ := length_splitStatements_identifier hsign
  have hascii : ∀ c ∈ "begin_at".toList, c.toNat < 0x80 := by simp
  refine ⟨hbegin, hword, hsign, ?_, ?_, ?_⟩
  · rw [← happly hascii (by decide)]
    decide +kernel
  · rw [← happly' (by decide) (.inl (by decide))]
    decide +kernel
  · rw [← happly'' (by decide) (.inr ⟨by decide +kernel, 'é', by decide, by decide⟩)]
    decide +kernel

/-- The word in `éEND` is a keyword.  It closes the block of the trigger, and the two
statements behind it in the block are cut off; with `x` in its place they are not. -/
theorem length_splitStatements_keyword_in_identifier :
    IdentifierRun "create trigger t begin a; ".toList "éEND".toList "; b; end; c".toList
      ∧ inCapitals "éEND".toList ∉ keywords
      ∧ (splitStatements "create trigger t begin a; éEND; b; end; c".toList true).length = 4
      ∧ (splitStatements "create trigger t begin a; x; b; end; c".toList true).length = 2 := by
  refine ⟨?_, by decide, by decide +kernel, by decide +kernel⟩
  exact @IdentifierRun.of_scan _ _ _ 'é' "END".toList
    ((scan false "create trigger t begin a; éEND; b; end; c".toList .code).take 2)
    ((scan false "create trigger t begin a; éEND; b; end; c".toList .code).drop 3)
    ⟨.code, 25, " éEND".toList, false⟩ [' '] [] (by decide) (by decide) (by decide +kernel)
    (by decide) (by decide)

end SqlStatements.Script
