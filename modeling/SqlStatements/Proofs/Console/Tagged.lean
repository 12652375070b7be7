/-
  SqlStatements.Proofs.Console.Tagged
  ───────────────────────────────────
  **Words in a style in front of a text.**

  The commands put words of their own in a style and write a text behind them, whose tags
  are read as well.  The tags of the style are closed before the text begins, so they add one
  stretch to what is rendered and move the rest, and nothing that is shown depends on either.

  Main results:

    • `unplaced_piecesFrom`      — the pieces of a text are the same wherever it begins,
    • `Rendering.add_before`     — pieces do not look at the stretches before them,
    • `toOption_render_tagged`   — closed tags around words change nothing that is shown.
-/
import SqlStatements.Proofs.Console.Markup

namespace SqlStatements.Console

open Text

/-! ## §1. Pieces without their positions. -/

/-- A piece without its position. -/
def Piece.unplaced : Piece → Piece
  | .text chars => .text chars
  | .tag _ t => .tag 0 t

theorem length_of_tagAt? {text content after : List Char}
    (h : tagAt? text = some (content, after)) : after.length < text.length := by
  rw [(of_tagAt? h).2]
  simp only [List.length_append, List.length_cons]
  omega

/-- The pieces of a text are the same wherever it begins, whatever bounds the steps. -/
theorem unplaced_piecesFrom {steps steps' : Nat} (position position' : Nat) (plain : List Char)
    {text : List Char} (hsteps : text.length ≤ steps) (hsteps' : text.length ≤ steps') :
    (piecesFrom steps position plain text).map Piece.unplaced
      = (piecesFrom steps' position' plain text).map Piece.unplaced := by
  induction steps generalizing steps' position position' plain text with
  | zero =>
      obtain rfl : text = [] := by simpa using hsteps
      cases steps' <;> simp [piecesFrom]
  | succ steps ih =>
      cases text with
      | nil => cases steps' <;> simp [piecesFrom]
      | cons c rest =>
          cases steps' with
          | zero => simp at hsteps'
          | succ steps' =>
              simp only [List.length_cons] at hsteps hsteps'
              rw [piecesFrom_eq steps position plain rfl rfl,
                piecesFrom_eq steps' position' plain rfl rfl]
              generalize (c :: rest).takeWhile (· == '\\') = slashes
              cases hfound : tagAt? ((c :: rest).dropWhile (· == '\\')) with
              | none =>
                  -- no tag: the slashes, or one other character, are text, and the rest is shorter
                  have hfewer : ((c :: rest).drop (max slashes.length 1)).length
                      ≤ rest.length := by
                    simp only [List.length_drop, List.length_cons]
                    omega
                  exact ih _ _ _ (by omega) (by omega)
              | some found =>
                  obtain ⟨content, after⟩ := found
                  -- what stands behind a tag is shorter, so both readings have steps for it
                  have hbehind := List.dropWhile_sublist (l := c :: rest) (· == '\\')
                  have hfewer : after.length ≤ rest.length :=
                    Nat.le_of_lt_succ
                      (Nat.lt_of_lt_of_le (length_of_tagAt? hfound) hbehind.length_le)
                  have hlater := ih (position + slashes.length + (content.length + 2))
                    (position' + slashes.length + (content.length + 2)) []
                    (show after.length ≤ steps by omega) (show after.length ≤ steps' by omega)
                  by_cases hodd : slashes.length % 2 = 1
                  · simpa [hodd, Piece.unplaced] using hlater
                  · simpa [hodd, Piece.unplaced] using hlater

/-! ## §2. Results up to their errors. -/

theorem eq_ok_of_toOption_eq {ε α : Type} {x y : Except ε α} {a : α}
    (h : x.toOption = y.toOption) (hy : y = .ok a) : x = .ok a := by
  subst hy
  cases x with
  | error fault => exact absurd h (by simp [Except.toOption])
  | ok b => exact congrArg Except.ok (Option.some.inj h)

theorem toOption_bind_congr {ε α β : Type} {x y : Except ε α} {f g : α → Except ε β}
    (h : x.toOption = y.toOption) (hfg : ∀ a, (f a).toOption = (g a).toOption) :
    (x >>= f).toOption = (y >>= g).toOption := by
  cases y with
  | ok a =>
      rw [eq_ok_of_toOption_eq h rfl]
      exact hfg a
  | error fault =>
      cases x with
      | ok a => exact absurd h (by simp [Except.toOption])
      | error fault' => rfl

/-! ## §3. Renderings with more stretches. -/

/-- Stretches whose styles are styles are never at fault. -/
theorem forM_check_append {extra : List Stretch} (h : ∀ s ∈ extra, s.check = .ok ())
    (rest : List Stretch) : (extra ++ rest).forM Stretch.check = rest.forM Stretch.check := by
  induction extra with
  | nil => rfl
  | cons s extra ih =>
      obtain ⟨hs, hextra⟩ := List.forall_mem_cons.mp h
      show (s.check >>= fun _ => (extra ++ rest).forM Stretch.check) = _
      rw [hs]
      exact ih hextra

namespace Rendering

/-- A rendering with some stretches in front of its own. -/
def before (extra : List Stretch) (r : Rendering) : Rendering :=
  { r with stretches := extra ++ r.stretches }

@[simp] theorem opened_before (extra : List Stretch) (r : Rendering) :
    (r.before extra).opened = r.opened := rfl

theorem closeTag_before (extra : List Stretch) (r : Rendering) (tag : OpenTag)
    (rest : List OpenTag) :
    (r.before extra).closeTag tag rest = (r.closeTag tag rest).map (before extra) := by
  simp only [closeTag]
  cases tag.check with
  | error fault => rfl
  | ok _ => simp [bind, Except.bind, pure, Except.pure, Except.map, before]

theorem closeLatest_before (extra : List Stretch) (r : Rendering) (position : Nat) :
    (r.before extra).closeLatest position = (r.closeLatest position).map (before extra) := by
  simp only [closeLatest, opened_before]
  cases r.opened with
  | nil => rfl
  | cons latest rest => exact closeTag_before extra r latest rest

/-- A closing tag with a name that is one closes the latest open tag of that name. -/
theorem closeNamed_eq {name : List Char} {style : String} (h : normalStyle name = .ok style)
    (r : Rendering) (position : Nat) (tag : Tag) :
    r.closeNamed position tag name =
      match r.opened.find? fun t : OpenTag => t.name == style with
      | none => .error (.unmatched tag position)
      | some found => r.closeTag found (r.opened.eraseP fun t : OpenTag => t.name == style) := by
  simp only [closeNamed, h]
  rfl

theorem closeNamed_eq_error {name : List Char} {fault : NumberFault}
    (h : normalStyle name = .error fault) (r : Rendering) (position : Nat) (tag : Tag) :
    r.closeNamed position tag name = .error (.colour fault) := by
  simp only [closeNamed, h]
  rfl

theorem closeNamed_before (extra : List Stretch) (r : Rendering) (position : Nat) (tag : Tag)
    (name : List Char) :
    (r.before extra).closeNamed position tag name
      = (r.closeNamed position tag name).map (before extra) := by
  cases hname : normalStyle name with
  | error fault =>
      rw [closeNamed_eq_error hname, closeNamed_eq_error hname]
      rfl
  | ok style =>
      rw [closeNamed_eq hname, closeNamed_eq hname, opened_before]
      cases r.opened.find? fun t : OpenTag => t.name == style with
      | none => rfl
      | some found => exact closeTag_before extra r found _

/-- Pieces do not look at the stretches of what has been rendered. -/
theorem add_before (extra : List Stretch) (r : Rendering) (piece : Piece) :
    (r.before extra).add piece = (r.add piece).map (before extra) := by
  cases piece with
  | text chars => rfl
  | tag position tag =>
      simp only [add]
      split
      · split
        · exact closeLatest_before extra r position
        · exact closeNamed_before extra r position tag _
      · simp only [openTag]
        cases normalStyle tag.name <;> rfl

theorem foldlM_add_before (extra : List Stretch) (pieces : List Piece) (r : Rendering) :
    pieces.foldlM add (r.before extra) = (pieces.foldlM add r).map (before extra) := by
  induction pieces generalizing r with
  | nil => rfl
  | cons piece pieces ih =>
      rw [List.foldlM_cons, List.foldlM_cons, add_before]
      cases r.add piece with
      | error fault => rfl
      | ok added => exact ih added

theorem toOption_closeLatest (r : Rendering) (position position' : Nat) :
    (r.closeLatest position).toOption = (r.closeLatest position').toOption := by
  unfold closeLatest
  cases r.opened <;> rfl

theorem toOption_closeNamed (r : Rendering) (position position' : Nat) (tag : Tag)
    (name : List Char) :
    (r.closeNamed position tag name).toOption = (r.closeNamed position' tag name).toOption := by
  cases hname : normalStyle name with
  | error fault => rw [closeNamed_eq_error hname, closeNamed_eq_error hname]
  | ok style =>
      rw [closeNamed_eq hname, closeNamed_eq hname]
      cases r.opened.find? fun t : OpenTag => t.name == style <;> rfl

/-- The position of a tag is looked at only where the tag is at fault. -/
theorem toOption_add_unplaced (r : Rendering) (piece : Piece) :
    (r.add piece.unplaced).toOption = (r.add piece).toOption := by
  cases piece with
  | text chars => rfl
  | tag position tag =>
      simp only [Piece.unplaced, add]
      split
      · split
        · exact toOption_closeLatest r 0 position
        · exact toOption_closeNamed r 0 position tag _
      · rfl

theorem toOption_foldlM_unplaced (pieces : List Piece) (r : Rendering) :
    ((pieces.map Piece.unplaced).foldlM add r).toOption = (pieces.foldlM add r).toOption := by
  induction pieces generalizing r with
  | nil => rfl
  | cons piece pieces ih =>
      rw [List.map_cons, List.foldlM_cons, List.foldlM_cons]
      exact toOption_bind_congr (toOption_add_unplaced r piece) ih

/-- The check of the styles that are looked at, and what is shown. -/
def finish (r : Rendering) : Except MarkupError (List Char) := do
  (r.allStretches.filter (·.isUsed r.shown)).forM Stretch.check
  return r.shown

theorem finish_before {extra : List Stretch} (h : ∀ s ∈ extra, s.check = .ok ())
    (r : Rendering) : (r.before extra).finish = r.finish := by
  have hextra : ∀ s ∈ extra.filter (·.isUsed r.shown), s.check = .ok () :=
    fun s hs => h s (List.mem_of_mem_filter hs)
  have hstretches : (r.before extra).allStretches = extra ++ r.allStretches := by
    simp [allStretches, before]
  have hchecked := forM_check_append hextra (r.allStretches.filter (·.isUsed r.shown))
  rw [finish, hstretches, List.filter_append]
  exact congrArg (· >>= fun _ => pure r.shown) hchecked

end Rendering

/-! ## §4. Words in a style. -/

/-- The styles that texts are put in by the commands. -/
def styleNames : List String := ["red", "green"]

/-- Words between the tags of a style. -/
def tagged (style words : List Char) : List Char :=
  '[' :: style ++ ']' :: words ++ '[' :: '/' :: style ++ [']']

/-- The pieces of words in a style. -/
def taggedPieces (style words : List Char) : List Piece :=
  [.text [], .text [], .tag 0 ⟨style, none⟩, .text words, .text [], .tag 0 ⟨'/' :: style, none⟩]

theorem closesTag_style {style : String} (hstyle : style ∈ styleNames) :
    ClosesTag (style.toList ++ [']']) ∧ ClosesTag ('/' :: style.toList ++ [']']) := by
  have hplain : ∀ s ∈ styleNames, (s.toList.all fun c => c != ']' && c != '[') = true := by decide
  have hstarts : ∀ s ∈ styleNames, s.toList.head?.any startsTag = true := by decide
  have hbody : ∀ c ∈ style.toList, c ≠ ']' ∧ c ≠ '[' := by simpa using hplain style hstyle
  obtain ⟨first, hhead, hfirst⟩ := Option.any_eq_true _ _ |>.mp (hstarts style hstyle)
  obtain ⟨body, hname⟩ := List.head?_eq_some_iff.mp hhead
  refine ⟨⟨first, body, hfirst, fun c hc => hbody c ?_, by rw [hname]; rfl⟩,
    ⟨'/', style.toList, by decide, hbody, rfl⟩⟩
  rw [hname]
  exact List.mem_cons_of_mem _ hc

theorem ofContent_style {style : String} (hstyle : style ∈ styleNames) :
    Tag.ofContent style.toList = ⟨style.toList, none⟩
      ∧ Tag.ofContent ('/' :: style.toList) = ⟨'/' :: style.toList, none⟩ := by
  have hall : ∀ s ∈ styleNames, Tag.ofContent s.toList = ⟨s.toList, none⟩
      ∧ Tag.ofContent ('/' :: s.toList) = ⟨'/' :: s.toList, none⟩ := by decide
  exact hall style hstyle

theorem pieces_tagged {style : String} (hstyle : style ∈ styleNames) {words : List Char}
    (hopen : '[' ∉ words) (hslash : '\\' ∉ words) (text : List Char) :
    ∃ steps position, text.length ≤ steps
      ∧ (pieces (tagged style.toList words ++ text)).map Piece.unplaced
        = taggedPieces style.toList words
          ++ (piecesFrom steps position [] text).map Piece.unplaced := by
  obtain ⟨hopens, hcloses⟩ := closesTag_style hstyle
  obtain ⟨hname, hclosing⟩ := ofContent_style hstyle
  have htext : tagged style.toList words ++ text = '[' :: (style.toList ++ [']']
      ++ (words ++ '[' :: ('/' :: style.toList ++ [']'] ++ text))) := by
    simp [tagged]
  have hlength : (tagged style.toList words ++ text).length
      = words.length + (text.length + (2 * style.toList.length + 3) + 1) + 1 := by
    rw [htext]
    simp only [List.length_append, List.length_cons, List.length_nil]
    omega
  refine ⟨text.length + (2 * style.toList.length + 3),
    0 + (style.toList.length + 2) + words.length + (('/' :: style.toList).length + 2), by omega, ?_⟩
  rw [pieces, hlength, htext, piecesFrom_tag hopens, piecesFrom_append hopen hslash,
    piecesFrom_tag hcloses, hname, hclosing]
  simp [taggedPieces, Piece.unplaced]

theorem add_styleTag {style : String} (hstyle : style ∈ styleNames) :
    Rendering.add {} (.tag 0 ⟨style.toList, none⟩) = .ok { opened := [⟨style, none, 0⟩] } := by
  have hall : ∀ s ∈ styleNames,
      Rendering.add {} (.tag 0 ⟨s.toList, none⟩) = .ok { opened := [⟨s, none, 0⟩] } := by decide
  exact hall style hstyle

theorem add_styleEnd {style : String} (hstyle : style ∈ styleNames) (shown : List Char) :
    Rendering.add { shown, opened := [⟨style, none, 0⟩] } (.tag 0 ⟨'/' :: style.toList, none⟩)
      = .ok (({ shown } : Rendering).before [⟨0, shown.length, style.toList⟩]) := by
  obtain rfl | rfl : style = "red" ∨ style = "green" := by simpa [styleNames] using hstyle
  · rfl
  · rfl

theorem check_style {style : String} (hstyle : style ∈ styleNames) (stop : Nat) :
    (⟨0, stop, style.toList⟩ : Stretch).check = .ok () := by
  obtain rfl | rfl : style = "red" ∨ style = "green" := by simpa [styleNames] using hstyle
  · rfl
  · rfl

/-- Words in a style are rendered as the words, with a stretch of the style. -/
theorem foldlM_taggedPieces {style : String} (hstyle : style ∈ styleNames) (words : List Char) :
    (taggedPieces style.toList words).foldlM Rendering.add {}
      = .ok ((({} : Rendering).append words).before
          [⟨0, (shownText words).length, style.toList⟩]) := by
  show (Rendering.add {} (.tag 0 ⟨style.toList, none⟩) >>= fun r =>
    [.text words, .text [], .tag 0 ⟨'/' :: style.toList, none⟩].foldlM Rendering.add r) = _
  rw [add_styleTag hstyle]
  show (Rendering.add { shown := shownText words ++ [], opened := [⟨style, none, 0⟩] }
    (.tag 0 ⟨'/' :: style.toList, none⟩) >>= pure) = _
  rw [List.append_nil, add_styleEnd hstyle]
  rfl

/-- **Closed tags of a style around words** change neither what is shown nor whether anything
is. -/
theorem toOption_render_tagged {style : String} (hstyle : style ∈ styleNames)
    {words : List Char} (hopen : '[' ∉ words) (hslash : '\\' ∉ words) (text : List Char) :
    (render (tagged style.toList words ++ text)).toOption = (render (words ++ text)).toOption := by
  let extra : List Stretch := [⟨0, (shownText words).length, style.toList⟩]
  have hstyles : ∀ s ∈ extra, s.check = .ok () := by
    simpa [extra] using check_style hstyle _
  obtain ⟨steps, position, hsteps, hpieces⟩ := pieces_tagged hstyle hopen hslash text
  obtain ⟨first, rest, hfirst⟩ := piecesFrom_plain (0 + words.length) (le_refl text.length)
  -- behind the words the two texts have the same pieces
  have hbehind : (piecesFrom steps position [] text).map Piece.unplaced
      = .text first :: rest.map Piece.unplaced := by
    rw [unplaced_piecesFrom position (0 + words.length) [] hsteps (le_refl _), hfirst]
    rfl
  have hplain : pieces (words ++ text) = .text (words ++ first) :: rest := by
    rw [pieces, List.length_append, piecesFrom_append hopen hslash, hfirst]
    simp
  let folded := (.text (words ++ first) :: rest.map Piece.unplaced).foldlM Rendering.add {}
  have hright : ((pieces (words ++ text)).foldlM Rendering.add {}).toOption = folded.toOption := by
    rw [hplain, ← Rendering.toOption_foldlM_unplaced]
    rfl
  have hleft : ((pieces (tagged style.toList words ++ text)).foldlM Rendering.add {}).toOption
      = (folded.map (Rendering.before extra)).toOption := by
    have hwords : (({} : Rendering).append words).append first
        = ({} : Rendering).append (words ++ first) := by
      simp [Rendering.append, shownText_append hslash]
    rw [← Rendering.toOption_foldlM_unplaced, hpieces, hbehind, List.foldlM_append,
      foldlM_taggedPieces hstyle, ← Rendering.foldlM_add_before]
    exact congrArg (fun r => ((rest.map Piece.unplaced).foldlM Rendering.add
      (r.before extra)).toOption) hwords
  calc (render (tagged style.toList words ++ text)).toOption
      = (folded.map (Rendering.before extra) >>= Rendering.finish).toOption :=
        toOption_bind_congr hleft fun _ => rfl
    _ = (folded >>= Rendering.finish).toOption := by
        cases folded with
        | error fault => rfl
        | ok r => exact congrArg Except.toOption (Rendering.finish_before hstyles r)
    _ = (render (words ++ text)).toOption :=
        toOption_bind_congr hright.symm fun _ => rfl

end SqlStatements.Console
