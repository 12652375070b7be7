/-
  SqlStatements.Proofs.Console.Markup
  ───────────────────────────────────
  **What marking up takes from a text.**

  Tags, the backslashes in front of them and some control characters are not shown, and
  nothing is added: what is shown of a text is the text with characters left out.  So a
  text is shown as it is exactly if none of these is in it, for each of them costs at least
  one character.

  Main results:

    • `piecesFrom_first`         — the pieces of a text up to the first tag,
    • `shown_piecesFrom_sublist` — the pieces of a text show nothing that is not in it,
    • `shown_piecesFrom_eq_iff`  — and they show all of it exactly if nothing is markup,
    • `render_shown`             — what is shown of a text is what its pieces show,
    • `render_of_not_holdsTag`   — and a text without tags is rendered as a single run.
-/
import SqlStatements.Console.Screen
import SqlStatements.Proofs.Text.Cutting

namespace SqlStatements.Console

open Text

/-! ## §1. Tags. -/

/-- Whether a text is the content of a tag and its closing bracket. -/
def ClosesTag (text : List Char) : Prop :=
  ∃ first body, startsTag first = true ∧ (∀ c ∈ body, c ≠ ']' ∧ c ≠ '[')
    ∧ text = first :: (body ++ [']'])

/-- Whether a tag stands anywhere in a text, behind backslashes or not. -/
def HoldsTag (text : List Char) : Prop :=
  ∃ inner, ClosesTag inner ∧ '[' :: inner <:+: text

/-- Whether nothing in a text is markup: neither a tag nor a backslash before a bracket. -/
def Inert (text : List Char) : Prop :=
  ¬ HoldsTag text ∧ ¬ ['\\', '['] <:+: text

/-- A text without opening brackets holds no markup. -/
theorem inert_of_not_mem {text : List Char} (h : '[' ∉ text) : Inert text :=
  ⟨fun ⟨_, _, hstands⟩ => h (hstands.subset List.mem_cons_self),
    fun hstands => h (hstands.subset (by simp))⟩

/-- What is read as the content of a tag is one, and is followed by a closing bracket. -/
theorem of_tagContent? {text content after : List Char}
    (h : tagContent? text = some (content, after)) :
    ClosesTag (content ++ [']']) ∧ text = content ++ ']' :: after := by
  cases text with
  | nil => simp [tagContent?] at h
  | cons first rest =>
      have hbody : ∀ c ∈ rest.takeWhile fun c => c != ']' && c != '[', c ≠ ']' ∧ c ≠ '[' :=
        fun c hc => by simpa using List.mem_takeWhile_imp hc
      have hrest := List.takeWhile_append_dropWhile (p := fun c => c != ']' && c != '[') (l := rest)
      simp only [tagContent?, drop_length_takeWhile] at h
      split at h
      · rename_i closed hdrop
        obtain ⟨hfirst, rfl, rfl⟩ : startsTag first = true ∧ _ ∧ _ := by simpa using h
        rw [hdrop] at hrest
        exact ⟨⟨first, _, hfirst, hbody, rfl⟩, congrArg (first :: ·) hrest.symm⟩
      · simp at h

/-- The content of a tag is read as such. -/
theorem tagContent?_of_closesTag {inner : List Char} (h : ClosesTag inner) (after : List Char) :
    ∃ content, inner = content ++ [']'] ∧ tagContent? (inner ++ after) = some (content, after) := by
  obtain ⟨first, body, hfirst, hbody, rfl⟩ := h
  have hstop : (body ++ ']' :: after).takeWhile (fun c => c != ']' && c != '[') = body := by
    rw [List.takeWhile_append_of_pos (by simpa using hbody)]
    simp
  refine ⟨first :: body, rfl, ?_⟩
  simp [tagContent?, hstop, hfirst]

theorem ClosesTag.holdsTag {inner : List Char} (h : ClosesTag inner) (before after : List Char) :
    HoldsTag (before ++ '[' :: (inner ++ after)) :=
  ⟨inner, h, before, after, by simp⟩

/-- A tag whose bracket is not in the first part of a text stands in the second. -/
theorem HoldsTag.of_append {xs ys : List Char} (h : HoldsTag (xs ++ ys)) (hxs : '[' ∉ xs) :
    HoldsTag ys := by
  obtain ⟨inner, hinner, hstands⟩ := h
  exact ⟨inner, hinner, infix_of_infix_append_left hxs hstands⟩

theorem HoldsTag.append_left {ys : List Char} (h : HoldsTag ys) (xs : List Char) :
    HoldsTag (xs ++ ys) := by
  obtain ⟨inner, hinner, hstands⟩ := h
  exact ⟨inner, hinner, hstands.trans (List.suffix_append xs ys).isInfix⟩

/-- Words without brackets and backslashes in front of a text make no markup of it. -/
theorem inert_append_iff {words text : List Char} (hopen : '[' ∉ words) (hslash : '\\' ∉ words) :
    Inert (words ++ text) ↔ Inert text := by
  have hstands : ['\\', '['] <:+: words ++ text ↔ ['\\', '['] <:+: text :=
    ⟨infix_of_infix_append_left hslash, fun h => h.trans (List.suffix_append words text).isInfix⟩
  have htag : HoldsTag (words ++ text) ↔ HoldsTag text :=
    ⟨fun h => h.of_append hopen, fun h => h.append_left words⟩
  rw [Inert, hstands, htag, Inert]

/-- A bracket that opens no tag is text. -/
theorem HoldsTag.of_bracket {rest : List Char} (h : HoldsTag ('[' :: rest))
    (hnone : tagContent? rest = none) : HoldsTag rest := by
  obtain ⟨inner, hinner, hstands⟩ := h
  rcases List.infix_cons_iff.mp hstands with ⟨after, hbegins⟩ | hrest
  · obtain ⟨content, -, hcontent⟩ := tagContent?_of_closesTag hinner after
    obtain rfl : inner ++ after = rest := by simpa using hbegins
    rw [hcontent] at hnone
    exact absurd hnone (by simp)
  · exact ⟨inner, hinner, hrest⟩

/-! ## §2. What runs of text show. -/

/-- Only a backslash before a bracket is dropped. -/
theorem unescapeBrackets_cons_of_ne {c d : Char} (h : ¬ (c = '\\' ∧ d = '[')) (rest : List Char) :
    unescapeBrackets (c :: d :: rest) = c :: unescapeBrackets (d :: rest) := by
  rw [unescapeBrackets]
  rintro _ rfl hd
  exact h ⟨rfl, (List.cons.inj hd).1⟩

/-- Words without backslashes are kept. -/
theorem unescapeBrackets_append {words : List Char} (hslash : '\\' ∉ words) (rest : List Char) :
    unescapeBrackets (words ++ rest) = words ++ unescapeBrackets rest := by
  induction words with
  | nil => rfl
  | cons c words ih =>
      obtain ⟨hc, hwords⟩ : '\\' ≠ c ∧ '\\' ∉ words := by simpa using hslash
      have hkept : unescapeBrackets (c :: (words ++ rest))
          = c :: unescapeBrackets (words ++ rest) := by
        rw [unescapeBrackets]
        rintro _ rfl
        exact absurd rfl hc
      rw [List.cons_append, hkept, ih hwords, List.cons_append]

theorem unescapeBrackets_sublist :
    ∀ chars : List Char, (unescapeBrackets chars).Sublist chars
  | [] => .slnil
  | [c] => by simp [unescapeBrackets]
  | c :: d :: rest => by
      by_cases h : c = '\\' ∧ d = '['
      · obtain ⟨rfl, rfl⟩ := h
        exact ((unescapeBrackets_sublist rest).cons_cons '[').cons '\\'
      · rw [unescapeBrackets_cons_of_ne h]
        exact (unescapeBrackets_sublist (d :: rest)).cons_cons c

theorem unescapeBrackets_eq_self_iff :
    ∀ {chars : List Char}, unescapeBrackets chars = chars ↔ ¬ ['\\', '['] <:+: chars
  | [] => by simp [unescapeBrackets]
  | [c] => by simp [unescapeBrackets, List.infix_cons_iff]
  | c :: d :: rest => by
      by_cases h : c = '\\' ∧ d = '['
      · obtain ⟨rfl, rfl⟩ := h
        have hstands : ['\\', '['] <:+: '\\' :: '[' :: rest := ⟨[], rest, rfl⟩
        simp [unescapeBrackets, hstands]
      · have hbegins : ¬ ['\\', '['] <+: c :: d :: rest := by
          rw [List.cons_prefix_cons, List.cons_prefix_cons]
          rintro ⟨hc, hd, -⟩
          exact h ⟨hc.symm, hd.symm⟩
        have hstands : ['\\', '['] <:+: c :: d :: rest ↔ ['\\', '['] <:+: d :: rest :=
          List.infix_cons_iff.trans (or_iff_right hbegins)
        rw [unescapeBrackets_cons_of_ne h, List.cons_inj_right, unescapeBrackets_eq_self_iff,
          hstands]

/-- What is shown of a run of text is the run with characters left out. -/
theorem shownText_sublist (chars : List Char) : (shownText chars).Sublist chars :=
  List.filter_sublist.trans (unescapeBrackets_sublist chars)

/-- Words without backslashes are shown by themselves. -/
theorem shownText_append {words : List Char} (hslash : '\\' ∉ words) (rest : List Char) :
    shownText (words ++ rest) = shownText words ++ shownText rest := by
  have hwords : unescapeBrackets words = words := by
    simpa [unescapeBrackets] using unescapeBrackets_append hslash []
  rw [shownText, unescapeBrackets_append hslash, List.filter_append, shownText, hwords, shownText]

/-- A run of text is shown as it is exactly if it has no backslash before a bracket and no
character that is never printed. -/
theorem shownText_eq_self_iff {chars : List Char} :
    shownText chars = chars
      ↔ ¬ ['\\', '['] <:+: chars ∧ ∀ c ∈ chars, isSilent c = false := by
  rw [← unescapeBrackets_eq_self_iff]
  unfold shownText
  constructor
  · intro h
    -- what is left after the second step was there after the first one
    have hunescaped : unescapeBrackets chars = chars := by
      refine (unescapeBrackets_sublist chars).antisymm ?_
      conv => lhs; rw [← h]
      exact List.filter_sublist
    rw [hunescaped] at h
    exact ⟨hunescaped, fun c hc => by simpa using List.filter_eq_self.mp h c hc⟩
  · rintro ⟨hunescaped, hsilent⟩
    rw [hunescaped]
    exact List.filter_eq_self.mpr fun c hc => by simp [hsilent c hc]

/-! ## §3. What pieces show. -/

/-- What is shown of a piece. -/
def Piece.shown : Piece → List Char
  | .text chars => shownText chars
  | .tag _ _ => []

@[simp] theorem Piece.shown_text (chars : List Char) :
    (Piece.text chars).shown = shownText chars := rfl

/-- The content of the tag that a text begins with, and the text after it. -/
def tagAt? : List Char → Option (List Char × List Char)
  | '[' :: inner => tagContent? inner
  | _ => none

theorem of_tagAt? {text content after : List Char} (h : tagAt? text = some (content, after)) :
    ClosesTag (content ++ [']']) ∧ text = '[' :: (content ++ [']'] ++ after) := by
  unfold tagAt? at h
  split at h
  · obtain ⟨hcloses, rfl⟩ := of_tagContent? h
    exact ⟨hcloses, by simp⟩
  · simp at h

/-- A step, given the backslashes that a text begins with and the text behind them. -/
theorem piecesFrom_eq (steps position : Nat) (plain : List Char) {c : Char}
    {rest slashes behind : List Char} (hslashes : (c :: rest).takeWhile (· == '\\') = slashes)
    (hbehind : (c :: rest).dropWhile (· == '\\') = behind) :
    piecesFrom (steps + 1) position plain (c :: rest) =
      match tagAt? behind with
      | none =>
          let count := max slashes.length 1
          piecesFrom steps (position + count) (((c :: rest).take count).reverse ++ plain)
            ((c :: rest).drop count)
      | some (content, after) =>
          let bracketed := '[' :: (content ++ [']'])
          let last := if slashes.length % 2 = 1 then .text bracketed
            else .tag (position + slashes.length) (.ofContent content)
          .text plain.reverse :: .text (List.replicate (slashes.length / 2) '\\') :: last
            :: piecesFrom steps (position + slashes.length + bracketed.length) [] after := by
  rw [piecesFrom]
  simp only [← hbehind, ← drop_length_takeWhile, hslashes]
  show (match tagAt? ((c :: rest).drop slashes.length) with
    | none => _
    | some (content, after) => _) = _
  cases tagAt? ((c :: rest).drop slashes.length) with
  | none => rfl
  | some found =>
    dsimp only
    split_ifs <;> rfl

/-- **A step of the reading** either moves some text to the run before it, in which no tag
begins, or takes a tag and the backslashes in front of it, of which it shows a half and,
if their number is odd, the tag.  Which of them it is does not depend on the run. -/
theorem piecesFrom_cons (steps position : Nat) (c : Char) (rest : List Char) :
    (∃ moved later position', moved ≠ [] ∧ c :: rest = moved ++ later
        ∧ (HoldsTag (c :: rest) → HoldsTag later)
        ∧ ∀ plain, piecesFrom (steps + 1) position plain (c :: rest)
            = piecesFrom steps position' (moved.reverse ++ plain) later)
    ∨ ∃ slashes inner after position' last, ClosesTag inner
        ∧ c :: rest = List.replicate slashes '\\' ++ '[' :: (inner ++ after)
        ∧ (last.shown = [] ∨ slashes % 2 = 1 ∧ last = .text ('[' :: inner))
        ∧ ∀ plain, piecesFrom (steps + 1) position plain (c :: rest)
            = .text plain.reverse :: .text (List.replicate (slashes / 2) '\\') :: last
              :: piecesFrom steps position' [] after := by
  have hall : ∀ d ∈ (c :: rest).takeWhile (· == '\\'), d = '\\' :=
    fun d hd => by simpa using List.mem_takeWhile_imp hd
  have htext := List.takeWhile_append_dropWhile (p := (· == '\\')) (l := c :: rest)
  generalize hslashes : (c :: rest).takeWhile (· == '\\') = slashes at *
  generalize hbehind : (c :: rest).dropWhile (· == '\\') = behind at *
  have hstep := fun plain => piecesFrom_eq steps position plain hslashes hbehind
  cases hfound : tagAt? behind with
  | none =>
      left
      simp only [hfound] at hstep
      cases slashes with
      | nil =>
          obtain rfl : behind = c :: rest := by simpa using htext
          refine ⟨[c], rest, position + 1, by simp, rfl, fun h => ?_, hstep⟩
          by_cases hc : c = '['
          · subst hc
            exact h.of_bracket hfound
          · exact HoldsTag.of_append (show HoldsTag ([c] ++ rest) from h)
              (by simpa using Ne.symm hc)
      | cons d slashes =>
          have hcount : max (d :: slashes).length 1 = (d :: slashes).length := by simp
          rw [hcount, ← htext] at hstep
          simp only [List.take_left, List.drop_left] at hstep
          refine ⟨d :: slashes, behind, position + (d :: slashes).length, by simp, htext.symm,
            fun h => ?_, htext ▸ hstep⟩
          rw [← htext] at h
          refine h.of_append fun hbracket => ?_
          exact absurd (hall '[' hbracket) (by decide)
  | some found =>
      right
      obtain ⟨content, after⟩ := found
      simp only [hfound] at hstep
      obtain ⟨hcloses, rfl⟩ := of_tagAt? hfound
      rw [List.eq_replicate_of_mem hall] at htext
      refine ⟨slashes.length, content ++ [']'], after, _, _, hcloses, htext.symm, ?_, hstep⟩
      by_cases hodd : slashes.length % 2 = 1
      · exact .inr ⟨hodd, if_pos hodd⟩
      · exact .inl (by rw [if_neg hodd]; rfl)

/-- Words that hold neither a bracket nor a backslash are moved to the run before them. -/
theorem piecesFrom_append {words : List Char} (hopen : '[' ∉ words) (hslash : '\\' ∉ words)
    (steps position : Nat) (plain text : List Char) :
    piecesFrom (words.length + steps) position plain (words ++ text)
      = piecesFrom steps (position + words.length) (words.reverse ++ plain) text := by
  induction words generalizing position plain with
  | nil => simp
  | cons c words ih =>
      obtain ⟨hc, hopen⟩ : '[' ≠ c ∧ '[' ∉ words := by simpa using hopen
      obtain ⟨hc', hslash⟩ : '\\' ≠ c ∧ '\\' ∉ words := by simpa using hslash
      have hnone : tagAt? (c :: (words ++ text)) = none := by
        unfold tagAt?
        split
        · rename_i heq
          exact absurd (List.cons.inj heq).1.symm hc
        · rfl
      have hbehind : (c :: (words ++ text)).dropWhile (· == '\\') = c :: (words ++ text) := by
        simp [Ne.symm hc']
      have hslashes : (c :: (words ++ text)).takeWhile (· == '\\') = [] := by
        simp [Ne.symm hc']
      have hsteps : (c :: words).length + steps = words.length + steps + 1 := by
        simp only [List.length_cons]
        omega
      rw [hsteps, List.cons_append, piecesFrom_eq _ _ _ hslashes hbehind, hnone]
      have hnext := ih hopen hslash (position + 1) (c :: plain)
      simp only [List.length_cons, List.reverse_cons, List.append_assoc, List.singleton_append]
      rw [show position + (words.length + 1) = position + 1 + words.length by omega]
      exact hnext

/-- A tag that no backslash precedes is a piece. -/
theorem piecesFrom_tag {content : List Char} (h : ClosesTag (content ++ [']']))
    (steps position : Nat) (plain after : List Char) :
    piecesFrom (steps + 1) position plain ('[' :: (content ++ [']'] ++ after))
      = .text plain.reverse :: .text [] :: .tag position (.ofContent content)
        :: piecesFrom steps (position + (content.length + 2)) [] after := by
  obtain ⟨content', hcontent, hfound⟩ := tagContent?_of_closesTag h after
  obtain rfl : content = content' := by simpa using hcontent
  have htag : tagAt? ('[' :: (content ++ [']'] ++ after)) = some (content, after) := hfound
  have hslashes : ('[' :: (content ++ [']'] ++ after)).takeWhile (· == '\\') = [] := rfl
  have hbehind : ('[' :: (content ++ [']'] ++ after)).dropWhile (· == '\\')
      = '[' :: (content ++ [']'] ++ after) := rfl
  rw [piecesFrom_eq steps position plain hslashes hbehind, htag]
  simp

theorem not_holdsTag_nil : ¬ HoldsTag [] := by
  rintro ⟨inner, -, hstands⟩
  simp at hstands

/-- **The pieces of a text up to the first tag**: without a tag the text is a single piece,
and otherwise the run before the first tag is one.  Which of the two it is, and where the
tag stands, does not depend on the run before the text. -/
theorem piecesFrom_first {steps : Nat} (position : Nat) {text : List Char}
    (hsteps : text.length ≤ steps) :
    (¬ HoldsTag text
        ∧ ∀ plain, piecesFrom steps position plain text = [.text (plain.reverse ++ text)])
    ∨ ∃ before slashes inner after last steps' position', ClosesTag inner
        ∧ text = before ++ (List.replicate slashes '\\' ++ '[' :: (inner ++ after))
        ∧ (last.shown = [] ∨ slashes % 2 = 1 ∧ last = .text ('[' :: inner))
        ∧ after.length ≤ steps' ∧ steps' < steps
        ∧ ∀ plain, piecesFrom steps position plain text
            = .text (plain.reverse ++ before) :: .text (List.replicate (slashes / 2) '\\') :: last
              :: piecesFrom steps' position' [] after := by
  induction steps generalizing position text with
  | zero =>
      obtain rfl : text = [] := by simpa using hsteps
      exact .inl ⟨not_holdsTag_nil, fun plain => rfl⟩
  | succ steps ih =>
      cases text with
      | nil => exact .inl ⟨not_holdsTag_nil, fun plain => by simp [piecesFrom]⟩
      | cons c rest =>
          have hlength : rest.length ≤ steps := by simpa using hsteps
          rcases piecesFrom_cons steps position c rest with
            ⟨moved, later, position', hmoved, htext, hheld, hstep⟩
            | ⟨slashes, inner, after, position', last, hinner, htext, hlast, hstep⟩
          · have hshorter : later.length ≤ steps := by
              have := congrArg List.length htext
              have := List.length_pos_iff.mpr hmoved
              simp only [List.length_append, List.length_cons] at *
              omega
            rcases ih position' hshorter with ⟨hnone, hlater⟩
              | ⟨before, slashes, inner, after, last, steps', position', hinner, rfl, hlast,
                  hafter, hfewer, hlater⟩
            · refine .inl ⟨fun h => hnone (hheld h), fun plain => ?_⟩
              rw [hstep, hlater, htext]
              simp
            · refine .inr ⟨moved ++ before, slashes, inner, after, last, steps', position', hinner,
                by rw [htext, List.append_assoc], hlast, hafter, by omega, fun plain => ?_⟩
              rw [hstep, hlater]
              simp
          · refine .inr ⟨[], slashes, inner, after, last, steps, position', hinner, htext, hlast,
              ?_, by omega, fun plain => by rw [hstep, List.append_nil]⟩
            have := congrArg List.length htext
            simp only [List.length_append, List.length_cons] at this
            omega

/-- The run before a text is the beginning of its first piece, and is in no other. -/
theorem piecesFrom_plain {steps : Nat} (position : Nat) {text : List Char}
    (hsteps : text.length ≤ steps) :
    ∃ first rest, ∀ plain,
      piecesFrom steps position plain text = .text (plain.reverse ++ first) :: rest := by
  rcases piecesFrom_first position hsteps with ⟨-, hpieces⟩
    | ⟨before, slashes, inner, after, last, steps', position', -, -, -, -, -, hpieces⟩
  · exact ⟨text, [], hpieces⟩
  · exact ⟨before, _, hpieces⟩

/-- A text without tags is a single piece. -/
theorem piecesFrom_of_not_holdsTag {steps : Nat} (position : Nat) (plain : List Char)
    {text : List Char} (hsteps : text.length ≤ steps) (h : ¬ HoldsTag text) :
    piecesFrom steps position plain text = [.text (plain.reverse ++ text)] := by
  rcases piecesFrom_first position hsteps with ⟨-, hpieces⟩
    | ⟨before, slashes, inner, after, last, steps', position', hinner, rfl, -⟩
  · exact hpieces plain
  · rw [← List.append_assoc] at h
    exact absurd (hinner.holdsTag _ after) h

/-- What a taken tag and the backslashes in front of it show is less than they are. -/
theorem shown_tag {slashes : Nat} {inner : List Char} {last : Piece}
    (hlast : last.shown = [] ∨ slashes % 2 = 1 ∧ last = .text ('[' :: inner)) :
    (shownText (List.replicate (slashes / 2) '\\') ++ last.shown).Sublist
        (List.replicate slashes '\\' ++ '[' :: inner)
      ∧ (shownText (List.replicate (slashes / 2) '\\') ++ last.shown).length
        < (List.replicate slashes '\\' ++ '[' :: inner).length := by
  have hhalf : (shownText (List.replicate (slashes / 2) '\\')).Sublist
      (List.replicate slashes '\\') :=
    (shownText_sublist _).trans (List.replicate_sublist_replicate _ |>.mpr (by omega))
  have hcount : (shownText (List.replicate (slashes / 2) '\\')).length ≤ slashes / 2 := by
    simpa using (shownText_sublist (List.replicate (slashes / 2) '\\')).length_le
  simp only [List.length_append, List.length_replicate, List.length_cons]
  rcases hlast with hnone | ⟨hodd, rfl⟩
  · rw [hnone]
    refine ⟨hhalf.append (List.nil_sublist _), ?_⟩
    simp only [List.length_nil]
    omega
  · have hbracketed : (Piece.text ('[' :: inner)).shown.length ≤ inner.length + 1 := by
      simpa using (shownText_sublist ('[' :: inner)).length_le
    exact ⟨hhalf.append (shownText_sublist _), by omega⟩

/-- The pieces of a text show nothing that is not in it. -/
theorem shown_piecesFrom_sublist {steps : Nat} (position : Nat) (plain : List Char)
    {text : List Char} (hsteps : text.length ≤ steps) :
    ((piecesFrom steps position plain text).flatMap Piece.shown).Sublist
      (plain.reverse ++ text) := by
  -- the induction is tag by tag
  induction steps using Nat.strongRecOn generalizing position plain text with
  | ind steps ih =>
      rcases piecesFrom_first position hsteps with ⟨-, hpieces⟩
        | ⟨before, slashes, inner, after, last, steps', position', -, rfl, hlast, hafter, hfewer,
            hpieces⟩
      · rw [hpieces]
        simpa using shownText_sublist (plain.reverse ++ text)
      · rw [hpieces]
        have hrest := ih steps' hfewer position' [] hafter
        have htag := (shown_tag hlast).1.append hrest
        simpa using (shownText_sublist (plain.reverse ++ before)).append htag

/-- Words without backslashes in front of a text are shown in front of what its pieces show. -/
theorem shown_piecesFrom_append {steps : Nat} (position : Nat) {words text : List Char}
    (hslash : '\\' ∉ words) (hsteps : text.length ≤ steps) :
    (piecesFrom steps position words.reverse text).flatMap Piece.shown
      = shownText words ++ (piecesFrom steps position [] text).flatMap Piece.shown := by
  obtain ⟨first, rest, hpieces⟩ := piecesFrom_plain position hsteps
  rw [hpieces, hpieces]
  simp [shownText_append hslash]

/-- **The pieces of a text show all of it exactly if nothing in it is markup.** -/
theorem shown_piecesFrom_eq_iff {steps : Nat} (position : Nat) {text : List Char}
    (hsteps : text.length ≤ steps) :
    (piecesFrom steps position [] text).flatMap Piece.shown = text
      ↔ ¬ HoldsTag text ∧ shownText text = text := by
  rcases piecesFrom_first position hsteps with ⟨hnone, hpieces⟩
    | ⟨before, slashes, inner, after, last, steps', position', hinner, rfl, hlast, hafter, -,
        hpieces⟩
  · rw [hpieces]
    simp [hnone]
  · -- a tag costs characters, so the pieces are too short to show everything
    refine iff_of_false (fun hall => ?_) fun ⟨hnone, _⟩ => hnone ?_
    · rw [hpieces] at hall
      have hlength := congrArg List.length hall
      have hbefore := (shownText_sublist before).length_le
      have htag := (shown_tag hlast).2
      have hrest := (shown_piecesFrom_sublist position' [] hafter).length_le
      simp only [Piece.shown_text, List.flatMap_cons, List.length_append, List.length_cons,
        List.reverse_nil, List.nil_append] at *
      omega
    · rw [← List.append_assoc]
      exact hinner.holdsTag _ after

/-! ## §4. What is rendered. -/

namespace Rendering

theorem shown_openTag {r r' : Rendering} {tag : Tag} (h : r.openTag tag = .ok r') :
    r'.shown = r.shown := by
  simp only [openTag, bind, Except.bind] at h
  split at h
  · simp at h
  · cases h
    rfl

theorem shown_closeTag {r r' : Rendering} {tag : OpenTag} {rest : List OpenTag}
    (h : r.closeTag tag rest = .ok r') : r'.shown = r.shown := by
  simp only [closeTag, bind, Except.bind] at h
  split at h
  · simp at h
  · cases h
    rfl

theorem shown_closeLatest {r r' : Rendering} {position : Nat}
    (h : r.closeLatest position = .ok r') : r'.shown = r.shown := by
  unfold closeLatest at h
  split at h
  · simp at h
  · exact shown_closeTag h

theorem shown_closeNamed {r r' : Rendering} {position : Nat} {tag : Tag} {name : List Char}
    (h : r.closeNamed position tag name = .ok r') : r'.shown = r.shown := by
  simp only [closeNamed, bind, Except.bind] at h
  split at h
  · simp at h
  · split at h
    · simp [throw, throwThe, MonadExceptOf.throw] at h
    · exact shown_closeTag h

/-- Tags leave what has been shown, and text is added to it. -/
theorem shown_add {r r' : Rendering} {piece : Piece} (h : r.add piece = .ok r') :
    r'.shown = r.shown ++ piece.shown := by
  cases piece with
  | text chars =>
      cases h
      rfl
  | tag position tag =>
      suffices hkept : r'.shown = r.shown by simp [hkept, Piece.shown]
      simp only [add] at h
      split at h
      · split at h
        · exact shown_closeLatest h
        · exact shown_closeNamed h
      · exact shown_openTag h

theorem shown_foldlM_add {pieces : List Piece} {r r' : Rendering}
    (h : pieces.foldlM add r = .ok r') : r'.shown = r.shown ++ pieces.flatMap Piece.shown := by
  induction pieces generalizing r with
  | nil =>
      cases h
      simp
  | cons piece pieces ih =>
      rw [List.foldlM_cons] at h
      cases hadd : r.add piece with
      | error fault =>
          rw [hadd] at h
          cases h
      | ok added =>
          rw [hadd] at h
          simp [ih h, shown_add hadd]

end Rendering

/-- What is shown of a text is what its pieces show. -/
theorem render_shown {text shown : List Char} (h : render text = .ok shown) :
    shown = (pieces text).flatMap Piece.shown := by
  simp only [render, bind, Except.bind] at h
  split at h
  · simp at h
  · rename_i r hr
    split at h
    · simp at h
    · cases h
      simpa using Rendering.shown_foldlM_add hr

/-- What is rendered of a text is the text with characters left out. -/
theorem render_sublist {text shown : List Char} (h : render text = .ok shown) :
    shown.Sublist text := by
  rw [render_shown h, pieces]
  simpa using shown_piecesFrom_sublist 0 [] (le_refl text.length)

/-- Words in front of a text stand in front of what is rendered of it. -/
theorem render_words {words text shown : List Char} (hopen : '[' ∉ words)
    (hslash : '\\' ∉ words) (h : render (words ++ text) = .ok shown) :
    ∃ part : List Char, part.Sublist text ∧ shown = shownText words ++ part := by
  have hshown := render_shown h
  rw [pieces, List.length_append, piecesFrom_append hopen hslash, List.append_nil,
    shown_piecesFrom_append _ hslash (le_refl _)] at hshown
  exact ⟨_, by simpa using shown_piecesFrom_sublist (0 + words.length) [] (le_refl _), hshown⟩

/-- Only a text without markup is rendered as it is. -/
theorem inert_of_render {text : List Char} (h : render text = .ok text) : Inert text := by
  obtain ⟨hnone, htext⟩ := (shown_piecesFrom_eq_iff 0 (le_refl _)).mp (render_shown h).symm
  exact ⟨hnone, (shownText_eq_self_iff.mp htext).1⟩

/-- A text without tags is rendered as the run of text that it is. -/
theorem render_of_not_holdsTag {text : List Char} (h : ¬ HoldsTag text) :
    render text = .ok (shownText text) := by
  rw [render, pieces, piecesFrom_of_not_holdsTag 0 [] (le_refl _) h]
  rfl

/-! ## §5. What is seen. -/

/-- A text without tabs is seen as it is. -/
theorem visible_eq_self {text : List Char} (h : '\t' ∉ text) : visible text = text := by
  have hline : ∀ line ∈ lines text, expandTabs line = line := by
    intro line hmem
    rw [lines, List.splitOn_eq_splitOnP] at hmem
    have htab : '\t' ∉ line := fun hc => h (mem_of_mem_splitOnP hmem hc)
    rw [expandTabs, List.splitOn_eq_singleton htab]
    rfl
  have hlines : (lines text).map expandTabs = lines text := by
    simpa using List.map_congr_left hline
  rw [visible, hlines, lines, List.intercalate_splitOn]

end SqlStatements.Console
