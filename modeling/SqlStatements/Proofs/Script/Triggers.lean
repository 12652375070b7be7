/-
  SqlStatements.Proofs.Script.Triggers
  ────────────────────────────────────
  **A well-formed trigger is one statement, and nothing behind it is swallowed.**

  All that decides whether a terminator ends a statement are the words before it.  They
  open no block unless the statement begins as a trigger definition does.  The first
  `BEGIN` of a trigger opens its body; from there on every `BEGIN` and `CASE` opens a
  block and every `END` closes one, so as long as the words of the body are balanced at
  least one block is open, and none of its terminators ends the statement.  The `END`
  behind the body closes the last block.

  Main results:

    • `opensTrigger_of_blockDepth` — blocks are open in trigger definitions only,
    • `uncut_of_blockDepth`        — a text is uncut if a block is open at each terminator,
    • `depth_balanced`             — the depth in the body of a trigger,
    • `splitStatements_trigger`    — a trigger is the first statement of a script that
                                     begins with it.
-/
import Mathlib.Data.List.Infix
import SqlStatements.Proofs.Lexical.Seam
import SqlStatements.Proofs.Script.Words

namespace SqlStatements.Script

open Lexical Text

/-- The terminators of a text are those of its spans. -/
theorem exists_terminator_iff (text : List Char) :
    (∃ s ∈ scan false text .code, s.terminator = true)
      ↔ ∃ m ∈ labelsFrom .code text, m.terminator = true := by
  rw [← labels_scan_off]
  constructor
  · rintro ⟨s, hs, hterminator⟩
    -- the span of a terminator has a single character, so it has a label
    have htext := (lexed_scan false text).text_of_terminator s hs hterminator
    exact ⟨⟨';', s.state, s.terminator, false⟩,
      List.mem_flatMap.mpr ⟨s, hs, by simp [Span.labels, htext]⟩, hterminator⟩
  · rintro ⟨m, hm, hterminator⟩
    obtain ⟨s, hs, hm⟩ := List.mem_flatMap.mp hm
    obtain ⟨c, -, rfl⟩ := List.mem_map.mp hm
    exact ⟨s, hs, hterminator⟩

/-! ## §1. How a statement begins. -/

/-- Whether the words of a text begin as those of a trigger definition do. -/
def DefinesTrigger (text : List Char) : Prop :=
  ∃ opening ∈ triggerOpenings, opening <+: codeWords text

instance (text : List Char) : Decidable (DefinesTrigger text) :=
  inferInstanceAs (Decidable (∃ opening ∈ triggerOpenings, opening <+: codeWords text))

theorem opensTrigger_iff {words : List String} :
    opensTrigger words = true ↔ ∃ opening ∈ triggerOpenings, opening <+: words := by
  simp [opensTrigger]

/-- More words do not change how a statement began. -/
theorem opensTrigger_mono {words words' : List String} (h : words <+: words')
    (htrigger : opensTrigger words = true) : opensTrigger words' = true := by
  obtain ⟨opening, hmem, hbegins⟩ := opensTrigger_iff.mp htrigger
  exact opensTrigger_iff.mpr ⟨opening, hmem, hbegins.trans h⟩

/-- A trigger definition is told by its first three words. -/
theorem opensTrigger_take {words : List String} (h : opensTrigger words = true) :
    opensTrigger (words.take 3) = true := by
  obtain ⟨opening, hmem, hbegins⟩ := opensTrigger_iff.mp h
  have hlength : ∀ opening ∈ triggerOpenings, opening.length ≤ 3 := by decide
  exact opensTrigger_iff.mpr
    ⟨opening, hmem, List.prefix_take_iff.mpr ⟨hbegins, hlength opening hmem⟩⟩

/-- The opening that is remembered is the beginning of the words. -/
theorem opening_foldl {r : Reading} (h : r.opening.length ≤ 3) (words : List String) :
    (words.foldl Reading.readWord r).opening = (r.opening ++ words).take 3 := by
  induction words generalizing r with
  | nil => simp [List.take_of_length_le h]
  | cons word words ih =>
      show (words.foldl Reading.readWord (r.readWord word)).opening = _
      by_cases hlength : r.opening.length < 3
      · have hopening : (r.readWord word).opening = r.opening ++ [word] := by
          simp [Reading.readWord, hlength]
        have hle : (r.readWord word).opening.length ≤ 3 := by
          rw [hopening, List.length_append, List.length_singleton]
          omega
        rw [ih hle, hopening, List.append_assoc, List.singleton_append]
      · have hopening : (r.readWord word).opening = r.opening := by
          simp [Reading.readWord, hlength]
        rw [ih (by rw [hopening]; exact h), hopening, List.take_append_of_le_length (by omega),
          List.take_append_of_le_length (by omega)]

/-! ## §2. Blocks. -/

/-- The number of blocks that are open behind the first words of a statement. -/
def blockDepth (words : List String) : Nat :=
  (words.foldl Reading.readWord {}).depth

theorem Reading.with_word (r : Reading) (h : r.word = []) : { r with word := [] } = r := by
  obtain ⟨opening, depth, word⟩ := r
  obtain rfl : word = [] := h
  rfl

theorem word_foldl (r : Reading) (words : List String) :
    (words.foldl Reading.readWord r).word = r.word := by
  induction words generalizing r with
  | nil => rfl
  | cons word words ih => exact ih (r.readWord word)

theorem opening_readWord (r : Reading) (word : String) :
    r.opening <+: (r.readWord word).opening := by
  unfold Reading.readWord
  dsimp only
  split
  · exact List.prefix_append r.opening [word]
  · exact List.prefix_refl r.opening

theorem isPrefix_opening_foldl (r : Reading) (words : List String) :
    r.opening <+: (words.foldl Reading.readWord r).opening := by
  induction words generalizing r with
  | nil => exact List.prefix_refl _
  | cons word words ih => exact (opening_readWord r word).trans (ih (r.readWord word))

/-- In a trigger definition a word changes the depth. -/
theorem depth_readWord {r : Reading} {word : String}
    (h : opensTrigger (r.readWord word).opening = true) :
    (r.readWord word).depth = Reading.depthAfter r.depth word := by
  unfold Reading.readWord at h ⊢
  dsimp only at h ⊢
  rw [if_pos h]

/-- In any other statement no word does. -/
theorem depth_readWord_other {r : Reading} {word : String}
    (h : opensTrigger (r.readWord word).opening = false) : (r.readWord word).depth = r.depth := by
  unfold Reading.readWord at h ⊢
  dsimp only at h ⊢
  rw [h]
  rfl

/-- Reading more words keeps it so that blocks are open in trigger definitions only. -/
theorem opensTrigger_foldl {r : Reading} (h : r.depth ≠ 0 → opensTrigger r.opening = true)
    (words : List String) :
    (words.foldl Reading.readWord r).depth ≠ 0 →
      opensTrigger (words.foldl Reading.readWord r).opening = true := by
  induction words generalizing r with
  | nil => exact h
  | cons word words ih =>
      apply ih
      intro hdepth
      cases htrigger : opensTrigger (r.readWord word).opening with
      | true => rfl
      | false =>
          rw [depth_readWord_other htrigger] at hdepth
          rw [← htrigger, opensTrigger_mono (opening_readWord r word) (h hdepth)]

/-- **Blocks are open in trigger definitions only.** -/
theorem opensTrigger_of_blockDepth {words : List String} (h : blockDepth words ≠ 0) :
    opensTrigger words = true := by
  have hopening := opening_foldl (r := {}) (by decide) words
  have htrigger := opensTrigger_foldl (r := {}) (fun h => absurd rfl h) words h
  rw [hopening] at htrigger
  exact opensTrigger_mono (List.take_prefix 3 _) htrigger

/-- **A text is uncut if a block is open at each of its terminators.**  The induction is
on the text from its end, since what is known at a terminator is what stands before it. -/
theorem uncut_of_depth {r : Reading} (ms : List Mark)
    (h : ∀ before m, before ++ [m] <+: ms → m.terminator = true →
      ((wordsRead r.word before).foldl Reading.readWord { r with word := [] }).depth ≠ 0) :
    Uncut true r ms := by
  induction ms using List.reverseRecOn with
  | nil => exact uncut_nil true r
  | append_singleton ms m ih =>
      have hms := ih fun before m' hbefore =>
        h before m' (hbefore.trans (List.prefix_append ms [m]))
      refine (uncut_append true).mpr ⟨hms, (uncut_cons true).mpr ⟨?_, uncut_nil true _⟩⟩
      cases hm : m.terminator with
      | false => exact endsStatement_of_not_terminator hm _
      | true =>
          have hdepth := h ms m (List.prefix_refl _) hm
          rw [← hms.endWord_readAll] at hdepth
          simp [endsStatement, hdepth]

/-- At a terminator that ends no statement a block is open. -/
theorem Uncut.blockDepth_ne_zero {before after : List Mark} {m : Mark}
    (h : Uncut true {} (before ++ m :: after)) (hm : m.terminator = true) :
    blockDepth (wordsRead [] before) ≠ 0 := by
  obtain ⟨hbefore, hrest⟩ := (uncut_append true).mp h
  have hends := ((uncut_cons true).mp hrest).1
  intro hdepth
  have hread : (readAll true {} before).endWord.depth = 0 := by
    rw [hbefore.endWord_readAll]
    exact hdepth
  simp [endsStatement, hm, hread] at hends

/-! ## §3. The body of a trigger. -/

/-- What a word adds to the number of open blocks inside a block. -/
def blockStep (word : String) : Int :=
  if word = "BEGIN" ∨ word = "CASE" then 1 else if word = "END" then -1 else 0

/-- What words add to the number of open blocks inside a block. -/
def blockBalance : List String → Int
  | [] => 0
  | word :: words => blockStep word + blockBalance words

/-- Whether words close every block that they open, and no other. -/
def Balanced (words : List String) : Prop :=
  (∀ initial ∈ words.inits, 0 ≤ blockBalance initial) ∧ blockBalance words = 0

instance (words : List String) : Decidable (Balanced words) :=
  inferInstanceAs (Decidable (_ ∧ _))

/-- Inside a block a word adds what its step says. -/
theorem depthAfter_inside {depth : Nat} (h : 0 < depth) (word : String) :
    (Reading.depthAfter depth word : Int) = depth + blockStep word := by
  unfold Reading.depthAfter blockStep
  by_cases hbegin : word = "BEGIN"
  · simp [hbegin]
  · by_cases hcase : word = "CASE"
    · simp [hcase, h]
    · by_cases hend : word = "END"
      · simp [hend]
        omega
      · simp [hbegin, hcase, hend]

/-- **As long as a block stays open, the depth of a trigger is its sum of steps.** -/
theorem depth_balanced {r : Reading} (htrigger : opensTrigger r.opening = true)
    (hopen : 0 < r.depth) (words : List String)
    (h : ∀ initial, initial <+: words → 0 < r.depth + blockBalance initial) :
    ((words.foldl Reading.readWord r).depth : Int) = r.depth + blockBalance words := by
  induction words generalizing r with
  | nil => simp [blockBalance]
  | cons word words ih =>
      have htrigger' : opensTrigger (r.readWord word).opening = true :=
        opensTrigger_mono (opening_readWord r word) htrigger
      have hdepth : ((r.readWord word).depth : Int) = r.depth + blockStep word := by
        rw [depth_readWord htrigger', depthAfter_inside hopen word]
      have hopen' : 0 < (r.readWord word).depth := by
        have hfirst := h [word] (by simp)
        simp only [blockBalance] at hfirst
        omega
      show ((words.foldl Reading.readWord (r.readWord word)).depth : Int) = _
      rw [ih htrigger' hopen', hdepth, blockBalance, Int.add_assoc]
      intro initial hinitial
      have hnext := h (word :: initial) ((List.prefix_cons_inj word).mpr hinitial)
      simp only [blockBalance] at hnext
      omega

/-- Words without `BEGIN` open no first block. -/
theorem depth_eq_zero {words : List String} (h : "BEGIN" ∉ words) {r : Reading}
    (hdepth : r.depth = 0) : (words.foldl Reading.readWord r).depth = 0 := by
  induction words generalizing r with
  | nil => exact hdepth
  | cons word words ih =>
      have hword : word ≠ "BEGIN" := fun hword => h (by simp [hword])
      refine ih (fun hmem => h (List.mem_cons_of_mem word hmem)) ?_
      simp [Reading.readWord, Reading.depthAfter, hdepth, hword]

/-! ## §4. A trigger. -/

/-- The word that opens the body of a trigger, and the one that closes it. -/
theorem terminator_keywords :
    (∀ m ∈ labelsFrom .code " BEGIN".toList, m.terminator = false)
      ∧ ∀ m ∈ labelsFrom .code " END".toList, m.terminator = false := by
  decide

section
variable {head body : List Char} (hhead : endState false head = .code)
include hhead

theorem labelsFrom_head :
    labelsFrom .code (head ++ " BEGIN ".toList)
      = labelsFrom .code head ++ labelsFrom .code " BEGIN".toList
        ++ [⟨' ', .code, false, false⟩] := by
  rw [labelsFrom_append, ← endState_off, hhead, List.append_assoc]
  rfl

theorem labelsFrom_trigger (hbody : endState false body = .code) (tail : List Char) :
    labelsFrom .code (head ++ " BEGIN ".toList ++ body ++ " END".toList ++ tail)
      = labelsFrom .code (head ++ " BEGIN ".toList)
        ++ (labelsFrom .code body ++ labelsFrom .code " END".toList) ++ labelsFrom .code tail := by
  have hbegin : stateAfter .code (head ++ " BEGIN ".toList) = .code := by
    rw [stateAfter_append, ← endState_off, hhead]
    rfl
  have hend : stateAfter .code (body ++ " END".toList) = .code := by
    rw [stateAfter_append, ← endState_off, hbody]
    rfl
  have hlast : stateAfter .code (head ++ " BEGIN ".toList ++ (body ++ " END".toList)) = .code := by
    rw [stateAfter_append, hbegin, hend]
  rw [List.append_assoc _ body, labelsFrom_append, hlast, labelsFrom_append .code (head ++ _),
    hbegin, labelsFrom_append .code body, ← endState_off body, hbody]

section
variable (hnone : ∀ m ∈ labelsFrom .code head, m.terminator = false)
include hnone

theorem terminator_head : ∀ m ∈ labelsFrom .code (head ++ " BEGIN ".toList),
    m.terminator = false := by
  rw [labelsFrom_head hhead]
  simp only [List.mem_append, List.mem_singleton]
  rintro m ((hm | hm) | rfl)
  · exact hnone m hm
  · exact terminator_keywords.1 m hm
  · rfl

/-- Where the body of a trigger begins, the words before it have been read. -/
theorem readAll_head : readAll true {} (labelsFrom .code (head ++ " BEGIN ".toList))
    = (codeWords head ++ ["BEGIN"]).foldl Reading.readWord {} := by
  have huncut : Uncut true {} (labelsFrom .code head ++ labelsFrom .code " BEGIN".toList) := by
    have hall : Uncut true {} (labelsFrom .code (head ++ " BEGIN ".toList)) :=
      uncut_of_none (terminator_head hhead hnone) {}
    rw [labelsFrom_head hhead] at hall
    exact ((uncut_append true).mp hall).1
  have hspace : Inert [⟨' ', .code, false, false⟩] := by
    intro m hm
    obtain rfl := List.mem_singleton.mp hm
    exact ⟨rfl, rfl⟩
  -- the space behind `BEGIN` ends the word
  rw [labelsFrom_head hhead, readAll_append, readAll_inert hspace (List.cons_ne_nil _ _),
    if_pos rfl, huncut.endWord_readAll, wordsRead_append (by decide), ← codeWords_eq]
  rfl

end

end

/-- Behind the head of a trigger one block is open. -/
theorem reading_head {words : List String} (htrigger : opensTrigger words = true)
    (hnone : "BEGIN" ∉ words) :
    ∃ r, (words ++ ["BEGIN"]).foldl Reading.readWord {} = r
      ∧ opensTrigger r.opening = true ∧ r.depth = 1 ∧ r.word = [] := by
  have hopening : opensTrigger ((words ++ ["BEGIN"]).foldl Reading.readWord {}).opening = true := by
    rw [opening_foldl (by decide)]
    exact opensTrigger_take (opensTrigger_mono (List.prefix_append words ["BEGIN"]) htrigger)
  refine ⟨_, rfl, hopening, ?_, word_foldl {} _⟩
  rw [List.foldl_append] at hopening ⊢
  rw [List.foldl_cons, List.foldl_nil] at hopening ⊢
  rw [depth_readWord hopening, depth_eq_zero hnone rfl]
  rfl

section
variable {r : Reading} (htrigger : opensTrigger r.opening = true) (hdepth : r.depth = 1)
  (hword : r.word = []) {body : List Char} (hbalanced : Balanced (codeWords body))
include htrigger hdepth hbalanced

/-- In the body of a trigger a block stays open behind all words up to some point. -/
theorem depth_body {words : List String} (h : words <+: codeWords body) :
    ((words.foldl Reading.readWord r).depth : Int) = 1 + blockBalance words := by
  have hopen : 0 < r.depth := by omega
  rw [depth_balanced htrigger hopen words, hdepth]
  · rfl
  · intro initial hinitial
    have hsum := hbalanced.1 initial ((List.mem_inits _ _).mpr (hinitial.trans h))
    rw [hdepth]
    omega

include hword

/-- **No terminator in the body of a trigger ends the statement.** -/
theorem uncut_body : Uncut true r (labelsFrom .code body) := by
  refine uncut_of_depth _ fun before m hbefore hm => ?_
  -- the words before the terminator are the first words of the body
  have hwords : wordsRead [] before <+: codeWords body := by
    obtain ⟨after, hafter⟩ := hbefore
    have hbreak : inWord m = false := by simp [inWord, hm]
    rw [codeWords_eq, ← hafter, List.append_assoc, wordsRead_append (by simpa using hbreak)]
    exact List.prefix_append _ _
  have hsum := hbalanced.1 _ ((List.mem_inits _ _).mpr hwords)
  have hopen := depth_body htrigger hdepth hbalanced hwords
  rw [hword, r.with_word hword]
  omega

theorem uncut_trigger :
    Uncut true r (labelsFrom .code body ++ labelsFrom .code " END".toList) :=
  (uncut_append true).mpr ⟨uncut_body htrigger hdepth hword hbalanced,
    uncut_of_none terminator_keywords.2 _⟩

/-- Behind the `END` of a trigger no block is open, so a statement ends there. -/
theorem endsStatement_trigger :
    endsStatement (readAll true r (labelsFrom .code body ++ labelsFrom .code " END".toList))
      semicolon = true := by
  have hwords : wordsRead [] (labelsFrom .code body ++ labelsFrom .code " END".toList)
      = codeWords body ++ ["END"] := by
    rw [wordsRead_append (by decide), ← codeWords_eq]
    rfl
  have htrigger' : opensTrigger (((codeWords body).foldl Reading.readWord r).readWord
      "END").opening = true :=
    opensTrigger_mono ((isPrefix_opening_foldl r _).trans (opening_readWord _ _)) htrigger
  have hopen := depth_body htrigger hdepth hbalanced (List.prefix_refl (codeWords body))
  rw [hbalanced.2] at hopen
  have hclosed : (readAll true r (labelsFrom .code body
      ++ labelsFrom .code " END".toList)).endWord.depth = 0 := by
    rw [(uncut_trigger htrigger hdepth hword hbalanced).endWord_readAll, hword, hwords,
      r.with_word hword, List.foldl_append, List.foldl_cons, List.foldl_nil,
      depth_readWord htrigger']
    show ((codeWords body).foldl Reading.readWord r).depth - 1 = 0
    omega
  unfold endsStatement
  rw [hclosed]
  rfl

end

/-- **A well-formed trigger is one statement, and nothing behind it is swallowed.** -/
theorem splitStatements_trigger {head body : List Char} (hhead : endState false head = .code)
    (hbody : endState false body = .code)
    (hnone : ∀ s ∈ scan false head .code, s.terminator = false)
    (htrigger : DefinesTrigger head) (hbegin : "BEGIN" ∉ codeWords head)
    (hbalanced : Balanced (codeWords body)) (rest : List Char) :
    splitStatements (head ++ " BEGIN ".toList ++ body ++ " END;".toList ++ rest) true
      = strip (head ++ " BEGIN ".toList ++ body ++ " END".toList) :: splitStatements rest true := by
  have hnone' : ∀ m ∈ labelsFrom .code head, m.terminator = false := by
    intro m hm
    by_contra hterminator
    obtain ⟨s, hs, hs'⟩ := (exists_terminator_iff head).mpr ⟨m, hm, by simpa using hterminator⟩
    rw [hnone s hs] at hs'
    exact Bool.noConfusion hs'
  obtain ⟨r, hr, hopening, hdepth, hword⟩ := reading_head (opensTrigger_iff.mpr htrigger) hbegin
  have hread : readAll true {} (labelsFrom .code (head ++ " BEGIN ".toList)) = r := by
    rw [readAll_head hhead hnone', hr]
  -- no statement ends up to the last terminator, and one ends there
  have huncut : Uncut true {} (labelsFrom .code (head ++ " BEGIN ".toList)
      ++ (labelsFrom .code body ++ labelsFrom .code " END".toList)) := by
    refine (uncut_append true).mpr ⟨uncut_of_none (terminator_head hhead hnone') {}, ?_⟩
    rw [hread]
    exact uncut_trigger hopening hdepth hword hbalanced
  have hends : endsStatement (readAll true {} (labelsFrom .code (head ++ " BEGIN ".toList)
      ++ (labelsFrom .code body ++ labelsFrom .code " END".toList))) semicolon = true := by
    rw [readAll_append, hread]
    exact endsStatement_trigger hopening hdepth hword hbalanced
  have htext : unmark (labelsFrom .code (head ++ " BEGIN ".toList)
      ++ (labelsFrom .code body ++ labelsFrom .code " END".toList))
      = head ++ " BEGIN ".toList ++ body ++ " END".toList := by
    simp [unmark_labelsFrom]
  have hnotBlank : strip (head ++ " BEGIN ".toList ++ body ++ " END".toList) ≠ [] := by
    intro hnil
    have hblank := strip_eq_nil_iff.mp hnil 'E' (by simp)
    exact absurd hblank (by decide)
  have hlabels := labelsFrom_trigger hhead hbody (';' :: rest)
  have hsplit : head ++ " BEGIN ".toList ++ body ++ " END;".toList ++ rest
      = head ++ " BEGIN ".toList ++ body ++ " END".toList ++ ';' :: rest := by
    simp
  rw [splitStatements_eq, hsplit, hlabels]
  show statementsOf (segments true {} (_ ++ semicolon :: labelsFrom .code rest)) = _
  rw [segments_append_of_ends hends, statementsOf_append, huncut.segments_eq, htext,
    statementsOf_singleton, if_neg hnotBlank, splitStatements_eq]
  rfl

/-- A trigger with `CASE` and `END` in its condition, and with a nested `CASE`, an `END` in a
literal and a terminator in its body. -/
theorem splitStatements_trigger_nested :
    endState false "create temp trigger t when case 1 end".toList = .code
      ∧ endState false "select case 'END;' when 1 then 2 end;".toList = .code
      ∧ (∀ s ∈ scan false "create temp trigger t when case 1 end".toList .code,
          s.terminator = false)
      ∧ DefinesTrigger "create temp trigger t when case 1 end".toList
      ∧ "BEGIN" ∉ codeWords "create temp trigger t when case 1 end".toList
      ∧ Balanced (codeWords "select case 'END;' when 1 then 2 end;".toList)
      ∧ splitStatements ("create temp trigger t when case 1 end".toList ++ " BEGIN ".toList
          ++ "select case 'END;' when 1 then 2 end;".toList ++ " END;".toList ++ "b;c".toList) true
        = strip ("create temp trigger t when case 1 end".toList ++ " BEGIN ".toList
            ++ "select case 'END;' when 1 then 2 end;".toList ++ " END".toList)
          :: splitStatements "b;c".toList true := by
  have hhead : endState false "create temp trigger t when case 1 end".toList = .code := by
    decide +kernel
  have hbody : endState false "select case 'END;' when 1 then 2 end;".toList = .code := by
    decide +kernel
  have hnone : ∀ s ∈ scan false "create temp trigger t when case 1 end".toList .code,
      s.terminator = false := by decide +kernel
  have htrigger : DefinesTrigger "create temp trigger t when case 1 end".toList := by
    decide +kernel
  have hbegin : "BEGIN" ∉ codeWords "create temp trigger t when case 1 end".toList := by
    decide +kernel
  have hbalanced : Balanced (codeWords "select case 'END;' when 1 then 2 end;".toList) := by
    decide +kernel
  exact ⟨hhead, hbody, hnone, htrigger, hbegin, hbalanced,
    splitStatements_trigger hhead hbody hnone htrigger hbegin hbalanced _⟩

end SqlStatements.Script
