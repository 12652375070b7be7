/-
  SqlStatements.Proofs.Script.Words
  ─────────────────────────────────
  **The words of a text, and that the reading finds exactly them.**

  A word begins at a letter or `_` that belongs to no word before it and goes on as long
  as it can; it never leaves its span of code.  `codeWords` says this of the spans of a
  text, in capitals.  The reading sees one character after the other and knows nothing of
  spans; it finds the same words (`codeWords_eq`), because what stands between two spans of
  code is in no word.

  As long as no statement ends, all that is remembered of a text follows from its words:
  its opening is the first three of them, and the depth is what they open and close.

  Main results:

    • `wordsRead_append`, `codeWords_eq` — the words of a text in parts, and from its labels,
    • `endWord_readAll`                  — the reading of an uncut text, from its words.
-/
import SqlStatements.Proofs.Lexical.Grammar
import SqlStatements.Proofs.Script.Pieces

namespace SqlStatements.Script

open Lexical Text

/-! ## §1. Words. -/

/-- The words that begin in a run of code.  `inside` says that the characters before the
run belong to a word, which goes on as long as it can. -/
def wordsFrom (inside : Bool) : List Char → List (List Char)
  | [] => []
  | c :: rest =>
      if inside && continuesWord c then wordsFrom true rest
      else if startsWord c then (c :: rest.takeWhile continuesWord) :: wordsFrom true rest
      else wordsFrom false rest

/-- A word in capitals. -/
def inCapitals (word : List Char) : String :=
  String.ofList (word.map Char.toUpper)

/-- The words in the code of a text without comments, in capitals. -/
def codeWords (text : List Char) : List String :=
  (scan false text .code).flatMap fun s =>
    if s.state = .code then (wordsFrom false s.text).map inCapitals else []

/-! ## §2. The words that a reading finds. -/

/-- The word that ends with the characters read so far, if any. -/
def pendingWord : List Char → List String
  | [] => []
  | word => [String.ofList word.reverse]

/-- The words that are found in marks, with the characters of a word read before them. -/
def wordsRead (word : List Char) : List Mark → List String
  | [] => pendingWord word
  | m :: ms =>
      if ({ word := word } : Reading).takes m then wordsRead (m.char.toUpper :: word) ms
      else pendingWord word ++ wordsRead [] ms

theorem wordsRead_of_takes {word : List Char} {m : Mark}
    (h : ({ word := word } : Reading).takes m = true) (ms : List Mark) :
    wordsRead word (m :: ms) = wordsRead (m.char.toUpper :: word) ms := by
  simp [wordsRead, h]

theorem wordsRead_of_not_takes {word : List Char} {m : Mark}
    (h : ({ word := word } : Reading).takes m = false) (ms : List Mark) :
    wordsRead word (m :: ms) = pendingWord word ++ wordsRead [] ms := by
  simp [wordsRead, h]

/-- Before a mark that stands in no word a text is read by itself. -/
theorem wordsRead_append {ys : List Mark} (h : ∀ m ∈ ys.head?, inWord m = false)
    (xs : List Mark) (word : List Char) :
    wordsRead word (xs ++ ys) = wordsRead word xs ++ wordsRead [] ys := by
  induction xs generalizing word with
  | nil =>
      cases ys with
      | nil => simp [wordsRead, pendingWord]
      | cons m ys =>
          have hm : inWord m = false := h m rfl
          rw [List.nil_append, wordsRead_of_not_takes (Reading.takes_eq_false hm _),
            wordsRead_of_not_takes (Reading.takes_eq_false hm _)]
          rfl
  | cons m xs ih =>
      rw [List.cons_append]
      cases hm : ({ word := word } : Reading).takes m with
      | true => rw [wordsRead_of_takes hm, wordsRead_of_takes hm, ih]
      | false =>
          rw [wordsRead_of_not_takes hm, wordsRead_of_not_takes hm, ih, List.append_assoc]

/-- Marks in no word hold no words. -/
theorem wordsRead_skip {xs : List Mark} (h : ∀ m ∈ xs, inWord m = false) (ys : List Mark) :
    wordsRead [] (xs ++ ys) = wordsRead [] ys := by
  induction xs with
  | nil => rfl
  | cons m xs ih =>
      rw [List.cons_append,
        wordsRead_of_not_takes (Reading.takes_eq_false (h m List.mem_cons_self) _),
        ih fun m' hm' => h m' (List.mem_cons_of_mem m hm')]
      rfl

/-! ## §3. The words of a span. -/

/-- The labels of a run of code. -/
def codeLabels (run : List Char) : List Mark :=
  run.map (⟨·, .code, false, false⟩)

/-- Without quotes and `;` a text is a run of code. -/
theorem labelsFrom_codeLabels {run : List Char} (h : ∀ c ∈ run, c ≠ ';' ∧ c ≠ '\'' ∧ c ≠ '"') :
    labelsFrom .code run = codeLabels run ∧ stateAfter .code run = .code := by
  induction run with
  | nil => exact ⟨rfl, rfl⟩
  | cons c run ih =>
      obtain ⟨⟨hsemi, hsingle, hdouble⟩, hrun⟩ := List.forall_mem_cons.mp h
      obtain ⟨ihLabels, ihAfter⟩ := ih hrun
      have hopened : State.opened c = .code := State.opened_plain hsingle hdouble
      have hlabel : State.code.label c = ⟨c, .code, false, false⟩ := by
        simp [State.label, hopened, hsemi]
      have hafter : State.code.after c = .code := by simp [State.after, hopened]
      refine ⟨?_, ?_⟩
      · rw [labelsFrom, hlabel, hafter, ihLabels]
        rfl
      · show stateAfter (State.code.after c) run = .code
        rw [hafter, ihAfter]

theorem takes_code (word : List Char) (c : Char) :
    ({ word := word } : Reading).takes ⟨c, .code, false, false⟩
      = if word.isEmpty then startsWord c else continuesWord c := by
  simp [Reading.takes]

/-- **The reading finds the words of a run of code**, also behind the beginning of one. -/
theorem wordsRead_codeLabels (run : List Char) :
    wordsRead [] (codeLabels run) = (wordsFrom false run).map inCapitals
      ∧ ∀ c word, wordsRead (c :: word) (codeLabels run)
          = String.ofList ((c :: word).reverse ++ (run.takeWhile continuesWord).map Char.toUpper)
            :: (wordsFrom true run).map inCapitals := by
  induction run with
  | nil => exact ⟨rfl, fun c word => by simp [codeLabels, wordsRead, pendingWord, wordsFrom]⟩
  | cons d run ih =>
      obtain ⟨ihStart, ihInside⟩ := ih
      -- a character that begins a word, read at the beginning of one
      have hstart : startsWord d = true → wordsRead [] (codeLabels (d :: run))
          = inCapitals (d :: run.takeWhile continuesWord)
            :: (wordsFrom true run).map inCapitals := by
        intro hd
        show wordsRead [] (⟨d, .code, false, false⟩ :: codeLabels run) = _
        rw [wordsRead_of_takes (by rw [takes_code]; exact hd), ihInside]
        simp [inCapitals]
      have hskip : startsWord d = false → wordsRead [] (codeLabels (d :: run))
          = (wordsFrom false run).map inCapitals := by
        intro hd
        show wordsRead [] (⟨d, .code, false, false⟩ :: codeLabels run) = _
        rw [wordsRead_of_not_takes (by rw [takes_code]; exact hd), ihStart]
        rfl
      refine ⟨?_, fun c word => ?_⟩
      · cases hd : startsWord d with
        | true => rw [hstart hd]; simp [wordsFrom, hd]
        | false => rw [hskip hd]; simp [wordsFrom, hd]
      · show wordsRead (c :: word) (⟨d, .code, false, false⟩ :: codeLabels run) = _
        cases hd : continuesWord d with
        | true =>
            rw [wordsRead_of_takes (by rw [takes_code]; exact hd), ihInside]
            simp [wordsFrom, hd]
        | false =>
            have hbegins : startsWord d = false := by
              cases hb : startsWord d with
              | false => rfl
              | true => rw [← hd, continuesWord_of_startsWord hb]
            rw [wordsRead_of_not_takes (by rw [takes_code]; exact hd), ihStart]
            simp [wordsFrom, hd, hbegins, pendingWord]

/-! ## §4. The words of a text. -/

/-- Behind a run of code the next span is in no word. -/
theorem inWord_head?_labels {comments : Bool} {position : Nat} {text : List Char}
    {spans : List Span} (h : Lexed comments position text spans)
    (hnext : ∀ s ∈ spans.head?, s.state = .code → s.terminator = true) :
    ∀ m ∈ (labels spans).head?, inWord m = false := by
  intro m hm
  cases h with
  | nil => simp [labels] at hm
  | @cons s rest spans nonempty wellFormed more =>
      obtain ⟨c, cs, htext⟩ := List.exists_cons_of_ne_nil nonempty
      obtain rfl : (⟨c, s.state, s.terminator, false⟩ : Mark) = m := by
        simpa [labels, Span.labels, htext] using hm
      by_cases hcode : s.state = .code
      · simp [inWord, hnext s rfl hcode]
      · simp [inWord, hcode]

/-- The words of spans are found one span after the other. -/
theorem wordsRead_labels {position : Nat} {text : List Char} {spans : List Span}
    (h : Lexed false position text spans) :
    wordsRead [] (labels spans)
      = spans.flatMap fun s =>
          if s.state = .code then (wordsFrom false s.text).map inCapitals else [] := by
  induction h with
  | nil => rfl
  | @cons s rest spans nonempty wellFormed more ih =>
      show wordsRead [] (s.labels ++ labels spans) = _
      rw [List.flatMap_cons, ← ih]
      cases wellFormed with
      | terminator => exact wordsRead_skip (by simp [Span.labels, inWord]) _
      | @code start run _ _ plain maximal =>
          show wordsRead [] (codeLabels run ++ labels spans) = _
          rw [wordsRead_append (inWord_head?_labels more maximal), (wordsRead_codeLabels run).1]
          rfl
      | lineComment on | blockComment on | openBlockComment on => exact absurd on (by decide)
      | literal quote | openLiteral quote =>
          have hcode := State.quote?_ne_code quote
          rw [if_neg hcode]
          exact wordsRead_skip (by simp [Span.labels, inWord, hcode]) _

/-- **The words of a text can be read off its labels.** -/
theorem codeWords_eq (text : List Char) :
    codeWords text = wordsRead [] (labelsFrom .code text) := by
  unfold codeWords
  rw [← wordsRead_labels (lexed_scan false text), labels_scan_off]

/-- Stripping a text takes no word from it. -/
theorem codeWords_strip (text : List Char) : codeWords (strip text) = codeWords text := by
  obtain ⟨before, behind, hbefore, hbehind, hlabels⟩ := exists_labelsFrom_strip text
  have hlast : wordsRead [] behind = [] := by
    rw [← List.append_nil behind, wordsRead_skip fun m hm => (hbehind.inert m hm).1]
    rfl
  have hbreak : ∀ m ∈ behind.head?, inWord m = false :=
    fun m hm => (hbehind.inert m (List.mem_of_mem_head? hm)).1
  rw [codeWords_eq, codeWords_eq, hlabels, wordsRead_append hbreak, hlast, List.append_nil,
    wordsRead_skip fun m hm => (hbefore.inert m hm).1]

/-! ## §5. Reading a text from its words. -/

theorem Reading.endWord_eq (r : Reading) :
    r.endWord = (pendingWord r.word).foldl Reading.readWord { r with word := [] } := by
  obtain ⟨opening, depth, word⟩ := r
  cases word <;> rfl

/-- **As long as no statement ends, the words say what is remembered.** -/
theorem Uncut.endWord_readAll {ms : List Mark} {r : Reading} (h : Uncut true r ms) :
    (readAll true r ms).endWord
      = (wordsRead r.word ms).foldl Reading.readWord { r with word := [] } := by
  induction ms generalizing r with
  | nil => exact r.endWord_eq
  | cons m ms ih =>
      obtain ⟨hm, hms⟩ := (uncut_cons true).mp h
      have hstep : readingAfter true r m = r.read m := by simp [readingAfter, hm]
      rw [hstep] at hms
      show (readAll true (readingAfter true r m) ms).endWord = _
      rw [hstep, ih hms]
      cases htakes : r.takes m with
      | true =>
          -- the word grows by the character and is not finished yet
          rw [wordsRead_of_takes htakes]
          simp [Reading.read, htakes]
      | false =>
          -- the word ends before the character, and reading goes on without one
          have hread : r.read m = r.endWord := by simp [Reading.read, htakes]
          have hword : r.endWord.word = [] := by
            cases hword : r.word <;> simp [Reading.endWord, hword]
          rw [wordsRead_of_not_takes htakes, List.foldl_append, hread, hword, ← r.endWord_eq,
            ← hword]

end SqlStatements.Script
