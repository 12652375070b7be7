/-
  SqlStatements.Proofs.Literal.SelfContained
  ──────────────────────────────────────────
  **Every literal that is written is one self-contained piece of a script.**

  The literal of a number or of null is a word: digits and letters with a point or a sign,
  and no two minus signs meet in it, since a sign stands only in front of the digits and
  behind the `e` of an exponent.  The literals of texts and byte strings are literals of
  the script, that of a byte string with a letter in front of it.

  Main results:

    • `Scalar.selfContained_sqlText` — the literal of any scalar,
    • `scan_textLiteral`             — the literal of a text is one span,
    • `encodes_literal`              — both, for every value that becomes a scalar.
-/
import SqlStatements.Literal.ScalarValue
import SqlStatements.Proofs.Decimal.Shortest
import SqlStatements.Proofs.Script.SelfContained
import SqlStatements.Proofs.Text.Hex

namespace SqlStatements.Literal

open Decimal Lexical Script Text

/-! ## §1. Numbers as words. -/

theorem dash_not_mem_of_isDigit {digits : List Char} (h : ∀ c ∈ digits, c.isDigit = true) :
    '-' ∉ digits := by
  intro hmem
  exact absurd (h '-' hmem) (by decide)

theorem head?_ne_dash_of_isDigit {digits : List Char} (h : ∀ c ∈ digits, c.isDigit = true) :
    digits.head? ≠ some '-' :=
  fun hhead => dash_not_mem_of_isDigit h (List.mem_of_mem_head? hhead)

theorem isPlainChar_of_isDigit {c : Char} (h : c.isDigit = true) : isPlainChar c = true := by
  simp [isPlainChar, Char.isAlphanum, h]

theorem plainWord_of_isDigit {digits : List Char} (h : ∀ c ∈ digits, c.isDigit = true) :
    PlainWord digits :=
  .of_not_mem (fun c hc => isPlainChar_of_isDigit (h c hc)) (dash_not_mem_of_isDigit h)

/-- A sign in front of a word that does not begin with one. -/
theorem plainWord_sign_append (negative : Bool) {body : List Char} (h : PlainWord body)
    (hhead : body.head? ≠ some '-') : PlainWord (sign negative ++ body) := by
  cases negative with
  | false => exact h
  | true => exact .cons rfl hhead h

/-- An exponent holds one sign, in front of its digits. -/
theorem plainWord_exponentText (width : Nat) (e : Int) : PlainWord (exponentText width e) := by
  have hdigits : ∀ c ∈ padLeft width (digitsOf e.natAbs), c.isDigit = true :=
    fun c hc => isDigit_of_mem_padLeft hc
  refine .cons ?_ (head?_ne_dash_of_isDigit hdigits) (plainWord_of_isDigit hdigits)
  split <;> rfl

theorem plainWord_tail (n : Numeral) : PlainWord n.tail := by
  unfold Numeral.tail
  split
  · exact .of_not_mem (by simp) (by simp)
  · -- the `e` may stand in front of a sign
    exact .append (List.all_eq_true.mp (show ['e'].all isPlainChar = true from rfl)) (by decide)
      (plainWord_exponentText _ _)

/-- The point and the digits behind it hold no sign. -/
theorem pointText_word (n : Numeral) :
    (∀ c ∈ n.pointText, isPlainChar c = true) ∧ '-' ∉ n.pointText := by
  unfold Numeral.pointText
  split
  · simp
  · have hdash : '-' ∉ '.' :: n.fraction := by
      rw [List.mem_cons, not_or]
      exact ⟨by decide, dash_not_mem_of_isDigit n.isDigit_fraction⟩
    refine ⟨fun c hc => ?_, hdash⟩
    rcases List.mem_cons.mp hc with rfl | hc
    · rfl
    · exact isPlainChar_of_isDigit (n.isDigit_fraction c hc)

/-- **A numeral is a word**: the only sign in it stands behind its `e`. -/
theorem plainWord_text (n : Numeral) : PlainWord n.text := by
  obtain ⟨hpoint, hdash⟩ := pointText_word n
  exact .append (fun c hc => isPlainChar_of_isDigit (n.isDigit_whole c hc))
    (dash_not_mem_of_isDigit n.isDigit_whole) (.append hpoint hdash (plainWord_tail n))

/-! ## §2. The literals of the classes. -/

/-- The magnitude of a floating point number in its literal. -/
def realBody (x : Binary64) : List Char :=
  if x.isInfinite then "9e999".toList else (shortest x.code).write layout

/-- The literal of a number is its sign and its magnitude. -/
theorem toList_realLiteral {x : Binary64} (h : x.isNaN = false) :
    (realLiteral x).toList = sign x.negative ++ realBody x := by
  unfold realLiteral realBody
  rw [if_neg (by simp [h])]
  by_cases hinfinite : x.isInfinite = true
  · rw [if_pos hinfinite, if_pos hinfinite]
    cases x.negative <;> rfl
  · rw [if_neg hinfinite, if_neg hinfinite]
    exact Binary64.toList_text h (by simpa using hinfinite)

/-- The literal of a byte string is a literal of the script behind an `X`. -/
theorem toList_blobLiteral (bytes : List UInt8) :
    (blobLiteral bytes).toList = ['X'] ++ literal '\'' (Hex.upperBytes bytes) := by
  have hquote : '\'' ∉ Hex.upperBytes bytes := by
    intro hmem
    exact absurd (Hex.isSome_value?_of_mem_upperBytes hmem) (by decide)
  rw [literal, doubled_eq_self hquote]
  simp [blobLiteral]

theorem selfContained_integer (n : Int) : SelfContained (toString n).toList := by
  have hdigits : ∀ c ∈ digitsOf n.natAbs, c.isDigit = true := fun c hc => isDigit_of_mem_digitsOf hc
  rw [toList_toString]
  exact (plainWord_sign_append _ (plainWord_of_isDigit hdigits)
    (head?_ne_dash_of_isDigit hdigits)).selfContained (by simp [digitsOf_ne_nil])

/-- The magnitude of a floating point number is a word that begins with a digit. -/
theorem realBody_word (x : Binary64) :
    PlainWord (realBody x) ∧ ∃ c rest, realBody x = c :: rest ∧ c.isDigit = true := by
  unfold realBody
  split
  · exact ⟨.of_not_mem (List.all_eq_true.mp (by decide)) (by decide), '9', _, rfl, rfl⟩
  · obtain ⟨n, htext, -⟩ := exists_numeral (shortest x.code)
    rw [← htext]
    exact ⟨plainWord_text n, n.exists_text_eq_cons⟩

theorem head?_realBody_ne (x : Binary64) : (realBody x).head? ≠ some '-' := by
  obtain ⟨-, c, rest, hbody, hc⟩ := realBody_word x
  rw [hbody]
  rintro ⟨⟩
  exact absurd hc (by decide)

theorem selfContained_null : SelfContained "NULL".toList :=
  (PlainWord.of_not_mem (List.all_eq_true.mp (by decide)) (by decide)).selfContained (by decide)

theorem selfContained_realLiteral (x : Binary64) : SelfContained (realLiteral x).toList := by
  by_cases hnan : x.isNaN = true
  · rw [realLiteral, if_pos hnan]
    exact selfContained_null
  · obtain ⟨hword, c, rest, hbody, -⟩ := realBody_word x
    rw [toList_realLiteral (by simpa using hnan)]
    exact (plainWord_sign_append _ hword (head?_realBody_ne x)).selfContained (by simp [hbody])

theorem selfContained_textLiteral (s : String) : SelfContained (textLiteral s).toList := by
  have hquote : State.singleQuoted.quote? = some '\'' := rfl
  have hnil : PlainWord [] := .of_not_mem (by simp) (by simp)
  rw [toList_textLiteral]
  exact selfContained_literal hquote hnil s.toList

theorem selfContained_blobLiteral (bytes : List UInt8) :
    SelfContained (blobLiteral bytes).toList := by
  have hquote : State.singleQuoted.quote? = some '\'' := rfl
  have hletter : PlainWord ['X'] := .of_not_mem (List.all_eq_true.mp (by decide)) (by decide)
  rw [toList_blobLiteral]
  exact selfContained_literal hquote hletter (Hex.upperBytes bytes)

/-- **The literal of a scalar is self-contained.** -/
theorem Scalar.selfContained_sqlText (v : Scalar) : SelfContained v.sqlText.toList := by
  cases v with
  | integer n => exact selfContained_integer n.value
  | real x => exact selfContained_realLiteral x
  | text s => exact selfContained_textLiteral s
  | blob bytes => exact selfContained_blobLiteral bytes
  | null => exact selfContained_null

/-- The literal of a text is one span. -/
theorem scan_textLiteral (comments : Bool) (s : String) :
    scan comments (textLiteral s).toList .code
      = [⟨.singleQuoted, 0, (textLiteral s).toList, false⟩] := by
  have hquote : State.singleQuoted.quote? = some '\'' := rfl
  have hwhole : Span.WellFormed comments
      ⟨.singleQuoted, 0, literal '\'' s.toList, false⟩ [] none :=
    .literal hquote (by simp)
  have hlexed := Lexed.cons (List.cons_ne_nil '\'' _) hwhole .nil
  rw [List.append_nil] at hlexed
  rw [toList_textLiteral]
  exact ((lexed_iff_eq_scan comments _ _).mp hlexed).symm

/-! ## §3. The literals of values. -/

/-- A text encodes a scalar as SQL: it is self-contained, and if the scalar is a text, it is
one literal with the scalar between its quotes. -/
structure Encodes (v : Scalar) (l : String) : Prop where
  selfContained : SelfContained l.toList
  span : ∀ s, v = .text s → scan true l.toList .code = [⟨.singleQuoted, 0, l.toList, false⟩]
  content : ∀ s, v = .text s → undoubled '\'' (l.toList.drop 1).dropLast = s.toList

theorem Scalar.encodes_sqlText (v : Scalar) : Encodes v v.sqlText where
  selfContained := v.selfContained_sqlText
  span := by
    rintro s rfl
    exact scan_textLiteral true s
  content := by
    rintro s rfl
    rw [sqlText, toList_textLiteral, undoubled_literal]

/-- What a conversion that succeeds gives is the literal of a value. -/
theorem exists_of_map_eq_ok {α β ε : Type} {f : α → β} {result : Except ε α} {b : β}
    (h : result.map f = .ok b) : ∃ a, f a = b := by
  cases result with
  | error e => exact absurd h (by simp [Except.map])
  | ok a => exact ⟨a, Except.ok.inj h⟩

/-- Every literal is that of a scalar, also where a scalar holds another value. -/
theorem ScalarValue.exists_sqlText_eq {v : ScalarValue} {l : String} (h : v.literal = .ok l) :
    ∃ s : Scalar, s.sqlText = l := by
  cases v with
  | plain s => exact ⟨s, Except.ok.inj h⟩
  | holding holder value =>
      cases holder with
      | real =>
          obtain ⟨x, hx⟩ := exists_of_map_eq_ok h
          exact ⟨.real x, hx⟩
      | text =>
          obtain ⟨s, hs⟩ := exists_of_map_eq_ok h
          exact ⟨.text s, hs⟩
      | blob =>
          obtain ⟨bytes, hbytes⟩ := exists_of_map_eq_ok h
          exact ⟨.blob bytes, hbytes⟩

/-- The literal of a value that becomes a scalar is that of the scalar. -/
theorem HostValue.literal_of_toScalar {v : HostValue} {s : ScalarValue}
    (h : v.toScalar = .ok s) : v.literal = s.literal := by
  unfold HostValue.literal
  rw [h]
  rfl

theorem HostValue.exists_sqlText_eq {v : HostValue} {l : String} (h : v.literal = .ok l) :
    ∃ s : Scalar, s.sqlText = l := by
  cases hscalar : v.toScalar with
  | error refusal =>
      unfold HostValue.literal at h
      rw [hscalar] at h
      exact absurd h (by simp [Except.bind])
  | ok s =>
      rw [HostValue.literal_of_toScalar hscalar] at h
      exact s.exists_sqlText_eq h

/-- **Every literal that is written is one self-contained piece of SQL.**  The literal of
any scalar has no comment and no terminator, ends outside literals and is the one statement
of itself; that of a text is one literal in single quotes that gives back the text.  A value
that becomes a scalar has the literal of this scalar, and no value has a literal that is not
one of a scalar. -/
theorem encodes_literal :
    (∀ v : Scalar, Encodes v v.sqlText)
      ∧ ∀ value : HostValue,
        (∀ v, value.toScalar = .ok (.plain v) → value.literal = .ok v.sqlText)
          ∧ ∀ l, value.literal = .ok l → ∃ v, v.sqlText = l ∧ Encodes v l := by
  refine ⟨Scalar.encodes_sqlText, fun value => ⟨fun v h => ?_, fun l h => ?_⟩⟩
  · exact HostValue.literal_of_toScalar h
  · obtain ⟨v, rfl⟩ := HostValue.exists_sqlText_eq h
    exact ⟨v, rfl, v.encodes_sqlText⟩

/-- The member of an enumeration whose value is a text with a quote, a terminator and a
comment marker in it. -/
theorem encodes_literal_member :
    (HostValue.member .plain "Mark" "odd" (.str "it's; --")).toScalar
        = .ok (.plain (.text "it's; --"))
      ∧ (HostValue.member .plain "Mark" "odd" (.str "it's; --")).literal
        = .ok (Scalar.text "it's; --").sqlText
      ∧ ∃ v, v.sqlText = (Scalar.text "it's; --").sqlText
        ∧ Encodes v (Scalar.text "it's; --").sqlText := by
  have hscalar : (HostValue.member .plain "Mark" "odd" (.str "it's; --")).toScalar
      = .ok (.plain (.text "it's; --")) := rfl
  have hliteral := (encodes_literal.2 _).1 _ hscalar
  exact ⟨hscalar, hliteral, (encodes_literal.2 _).2 _ hliteral⟩

end SqlStatements.Literal
