/-
  SqlStatements.Proofs.Text.Cutting
  ─────────────────────────────────
  **Cutting at marks and cutting off ends: how both act on texts in parts.**

  `dropTrailing` is the library's `rdropWhile`, and `strip` may cut either end first.
  What only blank characters tell apart is the same after stripping.  Leaving elements out
  brings those together that stood on the two sides of them (`isChain_filter_iff`).
-/
import Mathlib.Data.List.Chain
import Mathlib.Data.List.DropRight
import SqlStatements.Text.Blank

namespace SqlStatements.Text

variable {α β : Type}

/-! ## §1. Cutting at marks. -/

theorem splitOnP_map (f : α → β) (p : β → Bool) (l : List α) :
    (l.map f).splitOnP p = (l.splitOnP (p ∘ f)).map (List.map f) := by
  induction l with
  | nil => rfl
  | cons a l ih =>
      obtain ⟨x, xs, hx⟩ := List.exists_cons_of_ne_nil (List.splitOnP_ne_nil (p ∘ f) l)
      rw [List.map_cons, List.splitOnP_cons_eq_if_modifyHead, ih,
        List.splitOnP_cons_eq_if_modifyHead, hx]
      by_cases ha : p (f a) = true <;> simp [ha]

/-- Elements may be left out before or after the cuts, if none of them is a mark. -/
theorem splitOnP_filter {p q : α → Bool} {l : List α} (h : ∀ a ∈ l, p a = true → q a = true) :
    (l.filter q).splitOnP p = (l.splitOnP p).map (List.filter q) := by
  induction l with
  | nil => rfl
  | cons a l ih =>
      have ih' := ih fun b hb => h b (List.mem_cons_of_mem a hb)
      obtain ⟨x, xs, hx⟩ := List.exists_cons_of_ne_nil (List.splitOnP_ne_nil p l)
      rw [List.splitOnP_cons_eq_if_modifyHead, hx]
      by_cases hp : p a = true
      · have hq : q a = true := h a List.mem_cons_self hp
        rw [List.filter_cons_of_pos hq, List.splitOnP_cons_eq_if_modifyHead, ih', hx]
        simp [hp]
      · by_cases hq : q a = true
        · rw [List.filter_cons_of_pos hq, List.splitOnP_cons_eq_if_modifyHead, ih', hx]
          simp [hp, hq]
        · rw [List.filter_cons_of_neg hq, ih', hx]
          simp [hp, hq]

/-- Only the marks are lost when a list is cut at them. -/
theorem flatten_splitOnP (p : α → Bool) (l : List α) : (l.splitOnP p).flatten = l.filter (!p ·) := by
  induction l with
  | nil => rfl
  | cons a l ih =>
      obtain ⟨x, xs, hx⟩ := List.exists_cons_of_ne_nil (List.splitOnP_ne_nil p l)
      rw [hx] at ih
      rw [List.splitOnP_cons_eq_if_modifyHead, hx]
      by_cases ha : p a = true
      · simpa [ha] using ih
      · simpa [ha] using congrArg (a :: ·) ih

/-- What is made of the two sides of a mark by themselves can be made of the pieces. -/
theorem flatMap_splitOnP {p : α → Bool} {f : List α → List β}
    (h : ∀ xs a ys, p a = true → f (xs ++ a :: ys) = f xs ++ f ys) (l : List α) :
    (l.splitOnP p).flatMap f = f l := by
  -- the first piece may go on from something before the list
  have key : ∀ l pre first others, l.splitOnP p = first :: others →
      f (pre ++ first) ++ others.flatMap f = f (pre ++ l) := by
    intro l
    induction l with
    | nil =>
        intro pre first others hl
        obtain ⟨rfl, rfl⟩ : first = [] ∧ others = [] := by simpa [eq_comm] using hl
        simp
    | cons a l ih =>
        intro pre first others hl
        obtain ⟨x, xs, hx⟩ := List.exists_cons_of_ne_nil (List.splitOnP_ne_nil p l)
        rw [List.splitOnP_cons_eq_if_modifyHead, hx] at hl
        by_cases ha : p a = true
        · obtain ⟨rfl, rfl⟩ : first = [] ∧ others = x :: xs := by simpa [ha, eq_comm] using hl
          have ih := ih [] x xs hx
          rw [List.append_nil, h pre a l ha, List.flatMap_cons]
          simpa using ih
        · obtain ⟨rfl, rfl⟩ : first = a :: x ∧ others = xs := by simpa [ha, eq_comm] using hl
          simpa using ih (pre ++ [a]) x others hx
  obtain ⟨x, xs, hx⟩ := List.exists_cons_of_ne_nil (List.splitOnP_ne_nil p l)
  rw [hx, List.flatMap_cons]
  exact key l [] x xs hx

/-- A stretch without marks belongs to the first piece of what follows it. -/
theorem splitOnP_append_of_none {p : α → Bool} {xs : List α} (h : ∀ a ∈ xs, p a = false)
    {ys first : List α} {after : List (List α)} (hys : ys.splitOnP p = first :: after) :
    (xs ++ ys).splitOnP p = (xs ++ first) :: after := by
  induction xs with
  | nil => exact hys
  | cons a xs ih =>
      have ha : p a = false := h a List.mem_cons_self
      rw [List.cons_append, List.splitOnP_cons_eq_if_modifyHead,
        ih fun b hb => h b (List.mem_cons_of_mem a hb)]
      simp [ha]

/-- A list has no mark, or a last one. -/
theorem none_or_exists_last (p : α → Bool) (xs : List α) :
    (∀ a ∈ xs, p a = false)
      ∨ ∃ front mark last, xs = front ++ mark :: last ∧ p mark = true
          ∧ ∀ a ∈ last, p a = false := by
  induction xs with
  | nil => exact .inl (by simp)
  | cons a xs ih =>
      rcases ih with hnone | ⟨front, mark, last, rfl, hmark, hlast⟩
      · cases ha : p a with
        | true => exact .inr ⟨[], a, xs, rfl, ha, hnone⟩
        | false => exact .inl (by simpa [ha] using hnone)
      · exact .inr ⟨a :: front, mark, last, rfl, hmark, hlast⟩

/-- The last piece of one list and the first piece of the next are one piece.  The last
piece begins with the list or behind a mark. -/
theorem exists_splitOnP_append (p : α → Bool) (xs : List α) :
    ∃ before last, xs.splitOnP p = before ++ [last]
      ∧ (xs = last ∨ ∃ front mark, p mark = true ∧ xs = front ++ mark :: last)
      ∧ ∀ ys first after, ys.splitOnP p = first :: after →
          (xs ++ ys).splitOnP p = before ++ (last ++ first) :: after := by
  -- without a mark the list is its last piece; else that stands behind the last mark
  rcases none_or_exists_last p xs with hnone | ⟨front, mark, last, rfl, hmark, hlast⟩
  · exact ⟨[], xs, List.splitOnP_eq_singleton hnone, .inl rfl,
      fun ys first after hys => splitOnP_append_of_none hnone hys⟩
  · refine ⟨front.splitOnP p, last, ?_, .inr ⟨front, mark, hmark, rfl⟩, ?_⟩
    · rw [List.splitOnP_append_cons _ _ hmark, List.splitOnP_eq_singleton hlast]
    · intro ys first after hys
      rw [List.append_assoc, List.cons_append, List.splitOnP_append_cons _ _ hmark,
        splitOnP_append_of_none hlast hys]

/-- The first piece ends with the list or at a mark. -/
theorem first_of_splitOnP {p : α → Bool} {l first : List α} {others : List (List α)}
    (h : l.splitOnP p = first :: others) :
    l = first ∨ ∃ mark rest, p mark = true ∧ l = first ++ mark :: rest := by
  induction l generalizing first others with
  | nil => exact .inl (List.cons.inj h).1
  | cons a l ih =>
      obtain ⟨x, xs, hx⟩ := List.exists_cons_of_ne_nil (List.splitOnP_ne_nil p l)
      rw [List.splitOnP_cons_eq_if_modifyHead, hx] at h
      by_cases ha : p a = true
      · obtain ⟨rfl, -⟩ : [] = first ∧ x :: xs = others := by simpa [ha] using h
        exact .inr ⟨a, l, ha, rfl⟩
      · obtain ⟨rfl, -⟩ : a :: x = first ∧ xs = others := by simpa [ha] using h
        rcases ih hx with rfl | ⟨mark, rest, hmark, rfl⟩
        · exact .inl rfl
        · exact .inr ⟨mark, rest, hmark, rfl⟩

/-- A piece is a stretch of the list. -/
theorem infix_of_mem_splitOnP {p : α → Bool} {l piece : List α} (h : piece ∈ l.splitOnP p) :
    piece <:+: l := by
  induction l generalizing piece with
  | nil =>
      obtain rfl : piece = [] := by simpa using h
      exact List.nil_infix
  | cons a l ih =>
      obtain ⟨x, xs, hx⟩ := List.exists_cons_of_ne_nil (List.splitOnP_ne_nil p l)
      rw [List.splitOnP_cons_eq_if_modifyHead, hx] at h
      rw [hx] at ih
      by_cases ha : p a = true
      · obtain rfl | hpiece : piece = [] ∨ piece ∈ x :: xs := by simpa [ha] using h
        · exact List.nil_infix
        · exact (ih hpiece).trans (List.infix_cons (List.infix_refl l))
      · obtain rfl | hpiece : piece = a :: x ∨ piece ∈ xs := by simpa [ha] using h
        · -- the first piece goes on from the first element
          have hprefix : x <+: l := by
            rcases first_of_splitOnP hx with rfl | ⟨mark, rest, -, rfl⟩
            · exact List.prefix_refl l
            · exact List.prefix_append x _
          exact (List.cons_prefix_cons.mpr ⟨rfl, hprefix⟩).isInfix
        · exact (ih (List.mem_cons_of_mem x hpiece)).trans (List.infix_cons (List.infix_refl l))

theorem mem_of_mem_splitOnP {p : α → Bool} {l piece : List α} (h : piece ∈ l.splitOnP p) {a : α}
    (ha : a ∈ piece) : a ∈ l :=
  (infix_of_mem_splitOnP h).subset ha

/-- No piece holds a mark. -/
theorem not_of_mem_splitOnP {p : α → Bool} {l piece : List α} (h : piece ∈ l.splitOnP p) :
    ∀ a ∈ piece, p a = false := by
  induction l generalizing piece with
  | nil =>
      obtain rfl : piece = [] := by simpa using h
      simp
  | cons a l ih =>
      obtain ⟨x, xs, hx⟩ := List.exists_cons_of_ne_nil (List.splitOnP_ne_nil p l)
      rw [List.splitOnP_cons_eq_if_modifyHead, hx] at h
      rw [hx] at ih
      by_cases ha : p a = true
      · obtain rfl | hpiece : piece = [] ∨ piece ∈ x :: xs := by simpa [ha] using h
        · simp
        · exact ih hpiece
      · obtain rfl | hpiece : piece = a :: x ∨ piece ∈ xs := by simpa [ha] using h
        · exact List.forall_mem_cons.mpr ⟨by simpa using ha, ih List.mem_cons_self⟩
        · exact ih (List.mem_cons_of_mem x hpiece)

/-- A list without its longest first stretch inside a set. -/
theorem drop_length_takeWhile (p : α → Bool) (l : List α) :
    l.drop (l.takeWhile p).length = l.dropWhile p := by
  induction l with
  | nil => rfl
  | cons a l ih =>
      by_cases ha : p a = true
      · simpa [ha] using ih
      · simp [ha]

/-! ## §2. Joining with a separator. -/

/-- Lines may be joined in two parts that share a line. -/
theorem intercalate_append_glued (sep xs ys : List α) (after : List (List α)) :
    ∀ before : List (List α),
      List.intercalate sep (before ++ (xs ++ ys) :: after)
        = List.intercalate sep (before ++ [xs]) ++ List.intercalate sep (ys :: after)
  | [] => by
      cases after <;> simp [List.intercalate_cons_cons]
  | line :: before => by
      have ih := intercalate_append_glued sep xs ys after before
      rw [List.cons_append, List.cons_append, List.intercalate_cons_of_ne_nil (by simp),
        List.intercalate_cons_of_ne_nil (by simp), ih]
      simp

theorem intercalate_append_last (sep last : List α) (lines : List (List α)) :
    List.intercalate sep (lines ++ [last]) = lines.flatMap (· ++ sep) ++ last := by
  induction lines with
  | nil => simp
  | cons line lines ih =>
      rw [List.cons_append, List.intercalate_cons_of_ne_nil (by simp), ih]
      simp

theorem map_intercalate (f : α → β) (sep : List α) (lines : List (List α)) :
    (List.intercalate sep lines).map f
      = List.intercalate (sep.map f) (lines.map (List.map f)) := by
  induction lines with
  | nil => rfl
  | cons line lines ih =>
      cases lines with
      | nil => simp
      | cons next more =>
          rw [List.intercalate_cons_cons, List.map_append, List.map_append, ih]
          simp [List.intercalate_cons_cons]

theorem mem_intercalate {sep : List α} {lines : List (List α)} {a : α}
    (h : a ∈ List.intercalate sep lines) : a ∈ sep ∨ ∃ line ∈ lines, a ∈ line := by
  induction lines with
  | nil => simp at h
  | cons line lines ih =>
      by_cases hlines : lines = []
      · subst hlines
        exact .inr ⟨line, List.mem_cons_self, by simpa using h⟩
      · rw [List.intercalate_cons_of_ne_nil hlines, List.mem_append, List.mem_append] at h
        rcases h with (h | h) | h
        · exact .inr ⟨line, List.mem_cons_self, h⟩
        · exact .inl h
        · rcases ih h with h | ⟨line', hline', h⟩
          · exact .inl h
          · exact .inr ⟨line', List.mem_cons_of_mem line hline', h⟩

/-! ## §3. Stretches. -/

/-- A stretch without a mark stands before the mark or behind it. -/
theorem infix_of_infix_append_cons {a : α} {l xs ys : List α} (ha : a ∉ l)
    (h : l <:+: xs ++ a :: ys) : l <:+: xs ∨ l <:+: ys := by
  have hnil : ∀ {l' : List α}, a ∉ l' → l' <+: a :: ys → l' = [] := by
    rintro (_ | ⟨b, l'⟩) hb hprefix
    · rfl
    · exact absurd (List.cons_prefix_cons.mp hprefix).1.symm (List.ne_of_not_mem_cons hb)
  rcases List.infix_append_iff.mp h with hxs | hys | ⟨l₁, l₂, rfl, hxs, hys⟩
  · exact .inl hxs
  · rcases List.infix_cons_iff.mp hys with hprefix | hys
    · exact .inl (hnil ha hprefix ▸ List.nil_infix)
    · exact .inr hys
  · rw [hnil (fun hmem => ha (List.mem_append_right l₁ hmem)) hys, List.append_nil]
    exact .inl hxs.isInfix

/-- A stretch stands behind everything that its first element is not in. -/
theorem infix_of_infix_append_left {a : α} {l xs ys : List α} (ha : a ∉ xs)
    (h : a :: l <:+: xs ++ ys) : a :: l <:+: ys := by
  rcases List.infix_append_iff.mp h with hxs | hys | ⟨l₁, l₂, hl, hxs, hys⟩
  · exact absurd (hxs.subset List.mem_cons_self) ha
  · exact hys
  · cases l₁ with
    | nil => exact hl ▸ hys.isInfix
    | cons b l₁ =>
        obtain ⟨rfl, -⟩ := List.cons.inj hl
        exact absurd (hxs.subset List.mem_cons_self) ha

/-- A stretch stands before everything that its last element is not in. -/
theorem infix_of_infix_append_right {a : α} {l xs ys : List α} (ha : a ∉ ys)
    (h : l ++ [a] <:+: xs ++ ys) : l ++ [a] <:+: xs := by
  rw [← List.reverse_infix, List.reverse_append, List.reverse_append] at h
  have hxs := infix_of_infix_append_left (by simpa using ha) h
  rwa [← List.reverse_infix, List.reverse_append]

/-- A stretch without the separator stands in one of the joined lines. -/
theorem exists_infix_of_infix_intercalate {a : α} {l : List α} (ha : a ∉ l) (hl : l ≠ [])
    {lines : List (List α)} (h : l <:+: List.intercalate [a] lines) :
    ∃ line ∈ lines, l <:+: line := by
  induction lines with
  | nil => exact absurd (List.infix_nil.mp h) hl
  | cons line lines ih =>
      by_cases hlines : lines = []
      · subst hlines
        exact ⟨line, List.mem_cons_self, by simpa using h⟩
      · rw [List.intercalate_cons_of_ne_nil hlines, List.append_assoc, List.singleton_append] at h
        rcases infix_of_infix_append_cons ha h with hline | hrest
        · exact ⟨line, List.mem_cons_self, hline⟩
        · obtain ⟨line', hmem, hline'⟩ := ih hrest
          exact ⟨line', List.mem_cons_of_mem line hmem, hline'⟩

/-- Two elements come to stand next to each other if all that stands between them is left
out. -/
theorem pair_infix_filter_iff {q : α → Bool} {l : List α} {a b : α} :
    [a, b] <:+: l.filter q ↔ q a = true ∧ q b = true
      ∧ ∃ between, a :: (between ++ [b]) <:+: l ∧ ∀ x ∈ between, q x = false := by
  constructor
  · rintro ⟨xs, ys, h⟩
    rw [List.append_assoc] at h
    obtain ⟨front, rest, rfl, -, hrest⟩ := List.filter_eq_append_iff.mp h.symm
    obtain ⟨skipped, rest, rfl, -, ha, hrest⟩ := List.filter_eq_cons_iff.mp hrest
    obtain ⟨between, rest, rfl, hbetween, hb, -⟩ := List.filter_eq_cons_iff.mp hrest
    refine ⟨ha, hb, between, ⟨front ++ skipped, rest, by simp⟩, fun x hx => ?_⟩
    simpa using hbetween x hx
  · rintro ⟨ha, hb, between, ⟨xs, ys, rfl⟩, hbetween⟩
    have hnone : between.filter q = [] :=
      List.filter_eq_nil_iff.mpr fun x hx => by simp [hbetween x hx]
    refine ⟨xs.filter q, ys.filter q, ?_⟩
    simp [List.filter_append, hnone, ha, hb]

/-- A list is a chain if and only if it is one wherever two of its elements meet. -/
theorem isChain_iff_pairs {r : α → α → Prop} {l : List α} :
    l.IsChain r ↔ ∀ a b, [a, b] <:+: l → r a b := by
  rw [List.isChain_iff_forall_rel_of_append_cons_cons]
  constructor
  · rintro hchain a b ⟨xs, ys, hl⟩
    exact hchain (by simpa using hl.symm)
  · rintro hpairs a b xs ys rfl
    exact hpairs a b ⟨xs, ys, by simp⟩

/-- What is left of a list is a chain if and only if the elements are related between which
everything is left out. -/
theorem isChain_filter_iff {r : α → α → Prop} {q : α → Bool} {l : List α} :
    (l.filter q).IsChain r ↔ ∀ a between b, a :: (between ++ [b]) <:+: l →
      q a = true → q b = true → (∀ x ∈ between, q x = false) → r a b := by
  rw [isChain_iff_pairs]
  constructor
  · intro hpairs a between b hinfix ha hb hbetween
    exact hpairs a b (pair_infix_filter_iff.mpr ⟨ha, hb, between, hinfix, hbetween⟩)
  · intro hrelated a b hpair
    obtain ⟨ha, hb, between, hinfix, hbetween⟩ := pair_infix_filter_iff.mp hpair
    exact hrelated a between b hinfix ha hb hbetween

/-! ## §4. Cutting off the end. -/

theorem dropTrailing_cons (p : α → Bool) (a : α) (l : List α) :
    dropTrailing p (a :: l)
      = if dropTrailing p l = [] then (if p a then [] else [a]) else a :: dropTrailing p l := by
  conv => lhs; unfold dropTrailing
  cases dropTrailing p l <;> simp

theorem dropTrailing_eq_rdropWhile (p : α → Bool) (l : List α) :
    dropTrailing p l = l.rdropWhile p := by
  induction l with
  | nil => rfl
  | cons a l ih =>
      rw [dropTrailing_cons, ih]
      simp only [List.rdropWhile, List.reverse_cons, List.dropWhile_append]
      by_cases hl : l.reverse.dropWhile p = []
      · by_cases ha : p a = true <;> simp [hl, ha]
      · simp [hl]

theorem dropTrailing_map (f : α → β) (p : β → Bool) (l : List α) :
    dropTrailing p (l.map f) = (dropTrailing (p ∘ f) l).map f := by
  induction l with
  | nil => rfl
  | cons a l ih =>
      rw [List.map_cons, dropTrailing_cons, dropTrailing_cons, ih]
      by_cases hl : dropTrailing (p ∘ f) l = []
      · by_cases ha : p (f a) = true <;> simp [hl, ha]
      · simp [hl]

/-- Cutting off the end leaves what stands before an element that stays. -/
theorem dropTrailing_append_cons {p : α → Bool} {a : α} (h : p a = false) (xs ys : List α) :
    dropTrailing p (xs ++ a :: ys) = xs ++ a :: dropTrailing p ys := by
  induction xs with
  | nil =>
      rw [List.nil_append, dropTrailing_cons]
      by_cases hys : dropTrailing p ys = [] <;> simp [hys, h]
  | cons x xs ih =>
      rw [List.cons_append, dropTrailing_cons, ih]
      simp

theorem dropTrailing_append_all {p : α → Bool} (xs : List α) {ys : List α}
    (h : ∀ a ∈ ys, p a = true) : dropTrailing p (xs ++ ys) = dropTrailing p xs := by
  rw [dropTrailing_eq_rdropWhile, dropTrailing_eq_rdropWhile, List.rdropWhile,
    List.reverse_append, List.dropWhile_append_of_pos (by simpa using h)]
  rfl

/-- What is cut off lies inside the set. -/
theorem exists_dropTrailing_append (p : α → Bool) (l : List α) :
    ∃ tail, l = dropTrailing p l ++ tail ∧ ∀ a ∈ tail, p a = true := by
  rw [dropTrailing_eq_rdropWhile]
  exact ⟨l.rtakeWhile p, List.rdropWhile_append_rtakeWhile.symm,
    fun a ha => List.mem_rtakeWhile_imp ha⟩

theorem mem_of_mem_dropTrailing {p : α → Bool} {l : List α} {a : α} (h : a ∈ dropTrailing p l) :
    a ∈ l := by
  obtain ⟨tail, hl, -⟩ := exists_dropTrailing_append p l
  rw [hl]
  exact List.mem_append_left tail h

theorem getLast?_dropTrailing (p : α → Bool) (l : List α) :
    ∀ a ∈ (dropTrailing p l).getLast?, p a = false := by
  intro a ha
  rw [dropTrailing_eq_rdropWhile] at ha
  have hne : l.rdropWhile p ≠ [] := by
    intro hnil
    simp [hnil] at ha
  obtain rfl : (l.rdropWhile p).getLast hne = a :=
    Option.some.inj ((List.getLast?_eq_some_getLast hne).symm.trans ha)
  simpa using List.rdropWhile_last_not p l hne

/-- A list that ends outside the set loses nothing at its end. -/
theorem dropTrailing_of_getLast? {p : α → Bool} {l : List α} (h : ∀ a ∈ l.getLast?, p a = false) :
    dropTrailing p l = l := by
  rw [dropTrailing_eq_rdropWhile, List.rdropWhile_eq_self_iff]
  intro hne
  rw [h _ (List.getLast?_eq_some_getLast hne)]
  exact Bool.false_ne_true

/-! ## §5. Cutting off both ends. -/

theorem dropTrailing_dropWhile (p : α → Bool) (l : List α) :
    dropTrailing p (l.dropWhile p) = (dropTrailing p l).dropWhile p := by
  induction l with
  | nil => rfl
  | cons a l ih =>
      rw [dropTrailing_cons]
      by_cases ha : p a = true
      · rw [List.dropWhile_cons_of_pos ha, ih]
        by_cases hl : dropTrailing p l = [] <;> simp [hl, ha]
      · rw [List.dropWhile_cons_of_neg ha, dropTrailing_cons]
        by_cases hl : dropTrailing p l = [] <;> simp [hl, ha]

/-- A text may as well be stripped from its end first. -/
theorem strip_eq (text : List Char) :
    strip text = (dropTrailing isBlank text).dropWhile isBlank :=
  dropTrailing_dropWhile isBlank text

/-- What is stripped off is blank. -/
theorem exists_strip_append (text : List Char) :
    ∃ left right, text = left ++ strip text ++ right
      ∧ (∀ c ∈ left, isBlank c = true) ∧ ∀ c ∈ right, isBlank c = true := by
  obtain ⟨right, hright, hblank⟩ := exists_dropTrailing_append isBlank (text.dropWhile isBlank)
  refine ⟨text.takeWhile isBlank, right, ?_, fun c hc => List.mem_takeWhile_imp hc, hblank⟩
  rw [List.append_assoc]
  show text = text.takeWhile isBlank ++ (dropTrailing isBlank (text.dropWhile isBlank) ++ right)
  rw [← hright, List.takeWhile_append_dropWhile]

theorem strip_blank_append {blank : List Char} (h : ∀ c ∈ blank, isBlank c = true)
    (text : List Char) : strip (blank ++ text) = strip text := by
  unfold strip
  rw [List.dropWhile_append_of_pos h]

theorem strip_append_blank (text : List Char) {blank : List Char}
    (h : ∀ c ∈ blank, isBlank c = true) : strip (text ++ blank) = strip text := by
  rw [strip_eq, strip_eq, dropTrailing_append_all text h]

/-- Nothing is left of a blank text, and of no other. -/
theorem strip_eq_nil_iff {text : List Char} : strip text = [] ↔ ∀ c ∈ text, isBlank c = true := by
  constructor
  · intro hnil
    obtain ⟨left, right, htext, hleft, hright⟩ := exists_strip_append text
    rw [hnil, List.append_nil] at htext
    rw [htext]
    exact List.forall_mem_append.mpr ⟨hleft, hright⟩
  · intro hblank
    exact strip_append_blank [] hblank

theorem strip_strip (text : List Char) : strip (strip text) = strip text := by
  have hend : ∀ l : List Char, dropTrailing isBlank (dropTrailing isBlank l)
      = dropTrailing isBlank l := by
    intro l
    rw [dropTrailing_eq_rdropWhile, dropTrailing_eq_rdropWhile, List.rdropWhile_idempotent]
  unfold strip
  rw [dropTrailing_dropWhile, hend, ← dropTrailing_dropWhile, List.dropWhile_idempotent]

theorem head?_strip (text : List Char) : ∀ c ∈ (strip text).head?, isBlank c = false := by
  intro c hc
  have hfirst := List.head?_dropWhile_not isBlank (dropTrailing isBlank text)
  rwa [← strip_eq, hc] at hfirst

theorem getLast?_strip (text : List Char) : ∀ c ∈ (strip text).getLast?, isBlank c = false :=
  getLast?_dropTrailing isBlank _

/-- Around a stretch that begins and ends outside the set, both sides are cut off. -/
theorem dropTrailing_dropWhile_around {p : α → Bool} {before inner after : List α}
    (hbefore : ∀ a ∈ before, p a = true) (hafter : ∀ a ∈ after, p a = true)
    (hfirst : ∀ a ∈ inner.head?, p a = false) (hlast : ∀ a ∈ inner.getLast?, p a = false) :
    dropTrailing p ((before ++ inner ++ after).dropWhile p) = inner := by
  rw [dropTrailing_dropWhile, dropTrailing_append_all _ hafter]
  cases inner with
  | nil =>
      have hend := dropTrailing_append_all [] hbefore
      simp only [List.nil_append] at hend
      rw [List.append_nil, hend]
      rfl
  | cons a inner =>
      rw [dropTrailing_of_getLast? (by simpa using hlast), List.dropWhile_append_of_pos hbefore,
        List.dropWhile_cons_of_neg (by simp [hfirst a rfl])]

/-- A text that begins and ends with other characters loses nothing. -/
theorem strip_eq_self {text : List Char} (hfirst : ∀ c ∈ text.head?, isBlank c = false)
    (hlast : ∀ c ∈ text.getLast?, isBlank c = false) : strip text = text := by
  have hfront : text.dropWhile isBlank = text := by
    cases text with
    | nil => rfl
    | cons c rest => exact List.dropWhile_cons_of_neg (by simp [hfirst c rfl])
  unfold strip
  rw [hfront, dropTrailing_of_getLast? hlast]

/-- Around a stretch that begins and ends with characters that stay, only the two sides
are stripped. -/
theorem strip_around {first last : Char} (hfirst : isBlank first = false)
    (hlast : isBlank last = false) (left inner right : List Char) :
    strip (left ++ first :: (inner ++ last :: right))
      = left.dropWhile isBlank
        ++ first :: (inner ++ last :: dropTrailing isBlank right) := by
  have hend := dropTrailing_append_cons hlast (left ++ first :: inner) right
  simp only [List.append_assoc, List.cons_append] at hend
  -- cut off the end first, which the last of the two characters stops
  rw [strip_eq, hend]
  induction left with
  | nil => rw [List.nil_append, List.dropWhile_cons_of_neg (by simp [hfirst])]; rfl
  | cons c left ih =>
      by_cases hc : isBlank c = true
      · rw [List.cons_append, List.dropWhile_cons_of_pos hc, List.dropWhile_cons_of_pos hc]
        apply ih
        have := dropTrailing_append_cons hlast (left ++ first :: inner) right
        simpa using this
      · rw [List.cons_append, List.dropWhile_cons_of_neg hc, List.dropWhile_cons_of_neg hc]
        rfl

end SqlStatements.Text
