/-
  SqlStatements.Proofs.Console.Printing
  ─────────────────────────────────────
  **What is relied on of a console.**

  A program knows of its printer only that it can show a text.  Of how tags are read, what
  is proved of the commands rests on the laws stated here: tags and the backslashes in front
  of brackets are not shown, other text is, and a few words in a style are shown as the
  words.  The laws are about texts that a screen shows character by character, which have no
  control characters and no names of pictures and fit on a line.

  Main results:

    • `Printer.ReadsMarkup.marked_eq_self_iff` — a text is shown as it is exactly if nothing in
      it is markup,
    • `Printer.standard_readsMarkup`, `Printer.standard_showsStyled` — the standard printer
      obeys the laws, on any screen.
-/
import SqlStatements.Proofs.Console.Tagged

namespace SqlStatements.Console

open Text

/-! ## §1. Screens. -/

/-- A screen: the columns of a line, how many of them a text takes, and the names that are
shown as pictures when they stand between colons. -/
structure Screen where
  width : Nat
  columns : List Char → Nat
  isPicture : List Char → Bool

/-- The control characters: those below the space, and those from the delete character on
to the no-break space. -/
def isControl (c : Char) : Bool :=
  c.toNat < 0x20 || (0x7F ≤ c.toNat && c.toNat < 0xA0)

/-- Whether a screen shows a text character by character, on one line. -/
structure Screen.Shows (screen : Screen) (text : String) : Prop where
  noControl : ∀ c ∈ text.toList, isControl c = false
  noPicture : ∀ name, ':' :: (name ++ [':']) <:+: text.toList → screen.isPicture name = false
  fits : screen.columns text.toList ≤ screen.width

/-- A wide screen without pictures. -/
def Screen.wide : Screen := { width := 4000, columns := textWidth, isPicture := fun _ => false }

/-- What the wide screen shows. -/
theorem Screen.wide_shows {text : String} (hplain : text.toList.all (!isControl ·) = true)
    (hfits : textWidth text.toList ≤ 4000) : Screen.wide.Shows text :=
  ⟨by simpa using hplain, fun _ _ => rfl, hfits⟩

/-! ## §2. Laws of printers. -/

/-- Words between the tags of a style. -/
def inStyle (style words : String) : String :=
  "[" ++ style ++ "]" ++ words ++ "[/" ++ style ++ "]"

/-- Whether words hold nothing that markup is made of. -/
def Plain (words : String) : Prop := '[' ∉ words.toList ∧ '\\' ∉ words.toList

instance (words : String) : Decidable (Plain words) := inferInstanceAs (Decidable (_ ∧ _))

/-- Whether a printer shows every text that has no tags but those around words in a style. -/
def Printer.ShowsStyled (printer : Printer) : Prop :=
  ∀ style words text : String, style ∈ styleNames → Plain words → '[' ∉ text.toList →
    ∃ shown, printer.marked (inStyle style words ++ text) = .ok shown

/-- How a printer reads tags in the texts that its screen shows. -/
structure Printer.ReadsMarkup (printer : Printer) (screen : Screen) : Prop where
  /-- Words in a style are shown as the words. -/
  style {style words text : String} (hstyle : style ∈ styleNames) (hwords : Plain words)
    (hshow : screen.Shows (words ++ text)) :
    (printer.marked (inStyle style words ++ text)).toOption
      = (printer.marked (words ++ text)).toOption
  /-- A text without markup is shown as it is. -/
  inert {text : String} (hshow : screen.Shows text) (hinert : Inert text.toList) :
    printer.marked text = .ok text
  /-- What reads as a tag is not shown, or the backslashes that make it text are not. -/
  tag {text : String} (hshow : screen.Shows text) (htag : HoldsTag text.toList) :
    printer.marked text ≠ .ok text
  /-- A backslash in front of a bracket is not shown. -/
  backslash {text : String} (hshow : screen.Shows text)
    (hstands : ['\\', '['] <:+: text.toList) : printer.marked text ≠ .ok text
  /-- Words in front of a text are shown, and of the text nothing that is not in it. -/
  words {words text shown : String} (hwords : Plain words) (hshow : screen.Shows (words ++ text))
    (hmarked : printer.marked (words ++ text) = .ok shown) :
    ∃ part : String, part.toList.Sublist text.toList ∧ shown = words ++ part

/-- **A text is shown as it is exactly if nothing in it is markup.** -/
theorem Printer.ReadsMarkup.marked_eq_self_iff {printer : Printer} {screen : Screen}
    (h : printer.ReadsMarkup screen) {text : String} (hshow : screen.Shows text) :
    printer.marked text = .ok text ↔ Inert text.toList :=
  ⟨fun hall => ⟨fun htag => h.tag hshow htag hall, fun hstands => h.backslash hshow hstands hall⟩,
    h.inert hshow⟩

/-! ## §3. The standard printer. -/

theorem Printer.standard_marked (text : String) : Printer.standard.marked text = shownMarkup text :=
  rfl

theorem isSilent_of_not_isControl {c : Char} (h : isControl c = false) : isSilent c = false := by
  simp only [isControl, isSilent, Bool.or_eq_false_iff, decide_eq_false_iff_not,
    beq_eq_false_iff_ne, ne_eq] at h ⊢
  omega

theorem Screen.Shows.noTab {screen : Screen} {text : String} (h : screen.Shows text) :
    '\t' ∉ text.toList := fun htab => absurd (h.noControl '\t' htab) (by decide)

/-- Of a text without tabs the console shows what is rendered. -/
theorem shownMarkup_eq_ok_iff {text shown : String} (h : '\t' ∉ text.toList) :
    shownMarkup text = .ok shown ↔ render text.toList = .ok shown.toList := by
  cases hrender : render text.toList with
  | error error => simp [shownMarkup, hrender, Except.map]
  | ok chars =>
      have hvisible : visible chars = chars :=
        visible_eq_self fun htab => h ((render_sublist hrender).subset htab)
      simp only [shownMarkup, hrender, Except.map, hvisible, Except.ok.injEq]
      constructor
      · rintro rfl
        exact String.toList_ofList.symm
      · rintro rfl
        exact String.ofList_toList

theorem toList_inStyle_append (style words text : String) :
    (inStyle style words ++ text).toList
      = tagged style.toList words.toList ++ text.toList := by
  simp [inStyle, tagged]

/-- The tags of a style change nothing that the console shows. -/
theorem toOption_shownMarkup_inStyle {style words : String} (hstyle : style ∈ styleNames)
    (hwords : Plain words) (text : String) :
    (shownMarkup (inStyle style words ++ text)).toOption
      = (shownMarkup (words ++ text)).toOption := by
  have hmap : ∀ marked : String, (shownMarkup marked).toOption
      = (render marked.toList).toOption.map fun chars => String.ofList (visible chars) := by
    intro marked
    unfold shownMarkup
    cases render marked.toList <;> rfl
  rw [hmap, hmap, toList_inStyle_append, toOption_render_tagged hstyle hwords.1 hwords.2,
    String.toList_append]

/-- The standard printer shows every text whose only tags are those around words. -/
theorem Printer.standard_showsStyled : Printer.standard.ShowsStyled := by
  intro style words text hstyle hwords hopen
  have hinert : Inert (words ++ text).toList := by
    refine inert_of_not_mem ?_
    simpa using ⟨hwords.1, hopen⟩
  have hplain : ∃ shown, shownMarkup (words ++ text) = .ok shown := by
    rw [shownMarkup, render_of_not_holdsTag hinert.1]
    exact ⟨_, rfl⟩
  obtain ⟨shown, hshown⟩ := hplain
  rw [Printer.standard_marked]
  exact ⟨shown, eq_ok_of_toOption_eq (toOption_shownMarkup_inStyle hstyle hwords text) hshown⟩

/-- **The standard printer reads tags by the laws**, whatever the screen. -/
theorem Printer.standard_readsMarkup (screen : Screen) : Printer.standard.ReadsMarkup screen where
  style hstyle hwords _ := by
    rw [Printer.standard_marked, Printer.standard_marked]
    exact toOption_shownMarkup_inStyle hstyle hwords _
  inert hshow hinert := by
    rw [Printer.standard_marked, shownMarkup_eq_ok_iff hshow.noTab,
      render_of_not_holdsTag hinert.1, shownText_eq_self_iff.mpr ⟨hinert.2, ?_⟩]
    exact fun c hc => isSilent_of_not_isControl (hshow.noControl c hc)
  tag hshow htag hall := by
    rw [Printer.standard_marked, shownMarkup_eq_ok_iff hshow.noTab] at hall
    exact (inert_of_render hall).1 htag
  backslash hshow hstands hall := by
    rw [Printer.standard_marked, shownMarkup_eq_ok_iff hshow.noTab] at hall
    exact (inert_of_render hall).2 hstands
  words {words text shown} hwords hshow hmarked := by
    have hsilent : ∀ c ∈ words.toList, isSilent c = false := by
      intro c hc
      refine isSilent_of_not_isControl (hshow.noControl c ?_)
      rw [String.toList_append]
      exact List.mem_append_left _ hc
    have hwhole : shownText words.toList = words.toList :=
      shownText_eq_self_iff.mpr ⟨fun hstands => hwords.2 (hstands.subset (by simp)), hsilent⟩
    rw [Printer.standard_marked, shownMarkup_eq_ok_iff hshow.noTab, String.toList_append]
      at hmarked
    obtain ⟨part, hpart, hshown⟩ := render_words hwords.1 hwords.2 hmarked
    rw [hwhole] at hshown
    refine ⟨String.ofList part, by simpa using hpart, String.toList_inj.mp ?_⟩
    simpa using hshown

end SqlStatements.Console
