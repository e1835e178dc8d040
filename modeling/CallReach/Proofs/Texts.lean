import CallReach.Proofs.Emitted

/-!
# Texts of expressions

The text of an expression is the name of a function only if the expression is a name, an attribute of
a name, or a constant that is written like one: the texts of other expressions hold a blank or some
punctuation, or start with a digit or a point.  Constants matter here because a function can be
called `None`, when its name is spelled with other characters that are normalized to these.

Only the first line of a text is shown, but some punctuation stands before its end.

* `Strange` : texts that no function has for a name; `render_strange` : all expressions have strange
  texts, but names, attributes and the constants that are words.
* `Tame` : some punctuation comes before the first end of a line; `render_tame` : so it is in the
  texts of all expressions.
* `text_eq_render` : an expression that is not shown by a strange text is shown by its whole text.
* `spells_of_text`, `attribute_of_text` : the expressions with the texts of functions' names.
-/

namespace CallReach.Source

open CallReach.Decimal (Double Layout)

/-! ### Texts that are no names -/

/-- Blanks and punctuation that stand in no name of a function. -/
def marks : List Char := [' ', '(', '[', '{', '*', '+', '-', '~', ':', '\'', '"']

/-- A text with a blank or punctuation in it, or one that starts with a digit or a point. -/
def Strange (s : String) : Prop :=
  (∃ c ∈ s.toList, c ∈ marks) ∨ ∃ c rest, s.toList = c :: rest ∧ (c.isDigit = true ∨ c = '.')

theorem strange_of_mark {s : String} {c : Char} (hs : c ∈ s.toList) (hc : c ∈ marks) : Strange s :=
  Or.inl ⟨c, hs, hc⟩

theorem isNamePart_of_mem_marks {c : Char} (h : c ∈ marks) :
    c.toNat < 0x80 ∧ Text.isNamePart c = false := by
  have hall : (marks.all fun c => c.toNat < 0x80 && !Text.isNamePart c) = true := by decide
  simpa using List.all_eq_true.1 hall c h

theorem toNat_of_isDigit {c : Char} (h : c.isDigit = true) : 48 ≤ c.toNat ∧ c.toNat ≤ 57 := by
  simp only [Char.isDigit, Bool.and_eq_true, decide_eq_true_eq, ge_iff_le,
    UInt32.le_iff_toNat_le] at h
  exact h

theorem isNameStart_of_isDigit {c : Char} (h : c.isDigit = true ∨ c = '.') :
    c.toNat < 0x80 ∧ Text.isNameStart c = false := by
  rcases h with h | rfl
  · have hcodes : ∀ n ∈ List.range' 48 10, (Char.ofNat n).toNat < 0x80 ∧
        Text.isNameStart (Char.ofNat n) = false := by decide
    have hrange := toNat_of_isDigit h
    have := hcodes c.toNat (List.mem_range'_1.2 ⟨hrange.1, Nat.lt_succ_of_le hrange.2⟩)
    rwa [Char.ofNat_toNat] at this
  · decide

theorem IsWord.not_strange {w : String} (hw : IsWord w) : ¬ Strange w := by
  rintro (⟨c, hc, hmark⟩ | ⟨c, rest, hstart, hc⟩)
  · exact hw.notMem (isNamePart_of_mem_marks hmark) hc
  · exact hw.head (isNameStart_of_isDigit hc) rest hstart

theorem toList_method (owner w : String) :
    (owner ++ "." ++ w).toList = owner.toList ++ '.' :: w.toList := by
  simp

theorem not_strange_method {owner w : String} (ho : IsWord owner) (hw : IsWord w) :
    ¬ Strange (owner ++ "." ++ w) := by
  rintro (⟨c, hc, hmark⟩ | ⟨c, rest, hstart, hc⟩)
  · rw [toList_method, List.mem_append, List.mem_cons] at hc
    have hpart := isNamePart_of_mem_marks hmark
    rcases hc with hc | rfl | hc
    · exact ho.notMem hpart hc
    · revert hmark
      decide
    · exact hw.notMem hpart hc
  · obtain ⟨first, more, hfirst, hname, -⟩ := ho
    rw [toList_method, hfirst, List.cons_append] at hstart
    obtain ⟨rfl, -⟩ := List.cons.inj hstart
    rw [(isNameStart_of_isDigit hc).2] at hname
    cases hname

theorem not_strange_module : ¬ Strange moduleFunction := by
  rintro (⟨c, hc, hmark⟩ | ⟨c, rest, hstart, hc⟩)
  · have hall : (moduleFunction.toList.all fun c => !marks.contains c) = true := by decide
    have := List.all_eq_true.1 hall c hc
    simp [hmark] at this
  · have hfirst : moduleFunction.toList = '<' :: "module>".toList := by decide
    rw [hfirst] at hstart
    obtain ⟨rfl, -⟩ := List.cons.inj hstart
    revert hc
    decide

/-! ### First lines -/

/-- Some blank or punctuation comes before the first end of a line. -/
def Tame : List Char → Prop
  | [] => True
  | c :: cs => c ∈ marks ∨ Text.isLineEnd c = false ∧ Tame cs

section Tame

variable {cs ds : List Char} {c : Char}

theorem tame_of_mark (hc : c ∈ marks) (cs : List Char) : Tame (c :: cs) := Or.inl hc

theorem tame_of_plain (h : ∀ c ∈ cs, Text.isLineEnd c = false) : Tame cs := by
  induction cs with
  | nil => trivial
  | cons c cs ih =>
    rw [List.forall_mem_cons] at h
    exact Or.inr ⟨h.1, ih h.2⟩

theorem tame_of_all (h : (cs.all fun c => !Text.isLineEnd c) = true) : Tame cs :=
  tame_of_plain fun c hc => by simpa using List.all_eq_true.1 h c hc

theorem Tame.append (h : Tame cs) (h' : Tame ds) : Tame (cs ++ ds) := by
  induction cs with
  | nil => exact h'
  | cons c cs ih =>
    rcases h with hc | ⟨hc, h⟩
    · exact Or.inl hc
    · exact Or.inr ⟨hc, ih h⟩

/-- Behind a mark anything may come. -/
theorem Tame.mark (h : Tame cs) (hc : c ∈ marks) (ds : List Char) : Tame (cs ++ c :: ds) :=
  h.append (tame_of_mark hc ds)

theorem isLineEnd_of_mem_marks (h : c ∈ marks) : Text.isLineEnd c = false := by
  have hall : (marks.all fun c => !Text.isLineEnd c) = true := by decide
  simpa using List.all_eq_true.1 hall c h

/-- A first line without marks is the whole text. -/
theorem Tame.firstLine_eq {s : String} (h : Tame s.toList) (hs : ¬ Strange (Text.firstLine s)) :
    Text.firstLine s = s := by
  have key : ∀ cs : List Char, Tame cs →
      (∀ c ∈ cs.takeWhile (!Text.isLineEnd ·), c ∉ marks) →
      cs.takeWhile (!Text.isLineEnd ·) = cs := by
    intro cs hcs hmarks
    induction cs with
    | nil => rfl
    | cons c cs ih =>
      have hline : Text.isLineEnd c = false := hcs.elim isLineEnd_of_mem_marks fun h => h.1
      rw [List.takeWhile_cons, if_pos (by simp [hline]), List.forall_mem_cons] at hmarks
      rw [List.takeWhile_cons, if_pos (by simp [hline]),
        ih (hcs.resolve_left hmarks.1).2 hmarks.2]
  unfold Text.firstLine at hs ⊢
  rw [key s.toList h fun c hc hmark => hs (strange_of_mark (by simpa using hc) hmark),
    String.ofList_toList]

theorem isBlank_of_isLineEnd (h : Text.isLineEnd c = true) : Text.isBlank c = true := by
  simp only [Text.isLineEnd, Text.isBlank, Bool.or_eq_true, Bool.and_eq_true, decide_eq_true_eq,
    beq_iff_eq] at h ⊢
  omega

/-- No word holds the end of a line. -/
theorem IsWord.isLineEnd {w : String} (h : IsWord w) :
    ∀ c ∈ w.toList, Text.isLineEnd c = false := by
  obtain ⟨first, rest, hw, hfirst, hrest⟩ := h
  rw [hw]
  intro c hc
  by_contra hline
  have hblank := isBlank_of_isLineEnd (by simpa using hline)
  rcases List.mem_cons.1 hc with rfl | hc
  · rw [isNameStart_of_isBlank hblank] at hfirst
    cases hfirst
  · have hpart := hrest c hc
    rw [isNamePart_of_isBlank hblank] at hpart
    cases hpart

theorem firstLine_of_plain {s : String} (h : ∀ c ∈ s.toList, Text.isLineEnd c = false) :
    Text.firstLine s = s := by
  rw [Text.firstLine, List.takeWhile_eq_self_iff.2 (by simpa using h), String.ofList_toList]

end Tame

/-! ### Texts of constants -/

/-- A text that starts with a digit. -/
def DigitFirst (s : String) : Prop := ∃ c rest, s.toList = c :: rest ∧ c.isDigit = true

theorem toDigits_eq_cons (n : ℕ) :
    ∃ c rest, Nat.toDigits 10 n = c :: rest ∧ c.isDigit = true := by
  cases h : Nat.toDigits 10 n with
  | nil => exact absurd h Nat.toDigits_ne_nil
  | cons c rest =>
    exact ⟨c, rest, rfl, isDigit_of_mem_toDigits (n := n) (by simp [h])⟩

theorem strange_of_digitFirst {s : String} (h : DigitFirst s) : Strange s := by
  obtain ⟨c, rest, hs, hc⟩ := h
  exact Or.inr ⟨c, rest, hs, Or.inl hc⟩

theorem DigitFirst.append {s : String} (h : DigitFirst s) (t : String) : DigitFirst (s ++ t) := by
  obtain ⟨c, rest, hs, hc⟩ := h
  exact ⟨c, rest ++ t.toList, by simp [hs], hc⟩

theorem isDigit_of_mem_dropZeros {n : ℕ} {c : Char}
    (h : c ∈ Decimal.dropZeros (Nat.toDigits 10 n)) : c.isDigit = true := by
  have hmem := List.mem_reverse.1 h
  exact isDigit_of_mem_toDigits (List.mem_reverse.1 ((List.dropWhile_sublist _).subset hmem))

theorem digitFirst_ofList {cs : List Char} (hne : cs ≠ []) (h : ∀ c ∈ cs, c.isDigit = true) :
    DigitFirst (String.ofList cs) := by
  obtain ⟨c, rest, rfl⟩ := List.exists_cons_of_ne_nil hne
  exact ⟨c, rest, String.toList_ofList, h c List.mem_cons_self⟩

theorem sign_mem_exponentText (e : Int) : ∃ c ∈ (Decimal.exponentText e).toList, c ∈ marks := by
  unfold Decimal.exponentText
  by_cases h : e < 0
  · exact ⟨'-', by simp [h], by decide⟩
  · exact ⟨'+', by simp [h], by decide⟩

/-- A positive number starts with a digit, or is written with the sign of an exponent. -/
theorem writePositive_strange (layout : Layout) (x : Decimal.Scientific) (after : String) :
    Strange (layout.writePositive x ++ after) := by
  unfold Layout.writePositive
  extract_lets all digits point whole wholeZeros fraction head rest
  by_cases hrange : (layout.positionalFrom ≤ point && point ≤ layout.positionalTo) = true
  · rw [if_pos hrange]
    by_cases hpoint : point ≤ 0
    · rw [if_pos hpoint]
      refine strange_of_digitFirst (DigitFirst.append (DigitFirst.append ?_ _) _)
      exact ⟨'0', ['.'], rfl, rfl⟩
    · rw [if_neg hpoint]
      refine strange_of_digitFirst (DigitFirst.append (DigitFirst.append ?_ _) _)
      refine digitFirst_ofList ?_ fun c hc => ?_
      · rw [← List.length_pos_iff, List.length_append, List.length_replicate]
        omega
      · rcases List.mem_append.1 hc with hc | hc
        · exact isDigit_of_mem_dropZeros (List.mem_of_mem_take hc)
        · rw [List.eq_of_mem_replicate hc]
          rfl
  · rw [if_neg hrange]
    obtain ⟨c, hc, hmark⟩ := sign_mem_exponentText (point - 1)
    exact strange_of_mark (by simp only [String.toList_append, List.mem_append, hc]; tauto) hmark

theorem write_strange {layout : Layout} (hinfinity : DigitFirst layout.infinity) {x : Double}
    (hx : x ≠ .nan) (after : String) : Strange (layout.write x ++ after) := by
  have minus : ∀ s : String, Strange ("-" ++ s ++ after) :=
    fun s => strange_of_mark (c := '-') (by simp) (by decide)
  cases x with
  | nan => exact absurd rfl hx
  | infinite negative =>
    cases negative with
    | true => exact minus _
    | false => simpa [Layout.write] using strange_of_digitFirst (hinfinity.append after)
  | finite negative m e =>
    cases negative with
    | true => exact minus _
    | false =>
      simp only [Layout.write, Bool.false_eq_true, if_false, String.empty_append]
      by_cases hm : (m == 0) = true
      · rw [if_pos hm]
        refine strange_of_digitFirst (DigitFirst.append ?_ _)
        split_ifs
        · exact ⟨'0', ['.', '0'], rfl, rfl⟩
        · exact ⟨'0', [], rfl, rfl⟩
      · rw [if_neg hm]
        exact writePositive_strange layout _ after

theorem quoteFor_mem_marks (cs : List Char) : Text.quoteFor cs ∈ marks := by
  unfold Text.quoteFor
  split_ifs
  · decide
  · decide

/-- The characters that numbers are written with. -/
def Numeral (cs : List Char) : Prop := ∀ c ∈ cs, c.isDigit = true ∨ c ∈ ['.', 'e', '+', '-', 'j']

section Numeral

variable {cs ds : List Char}

theorem Numeral.append (h : Numeral cs) (h' : Numeral ds) : Numeral (cs ++ ds) :=
  List.forall_mem_append.2 ⟨h, h'⟩

theorem numeral_of_digits (h : ∀ c ∈ cs, c.isDigit = true) : Numeral cs :=
  fun c hc => Or.inl (h c hc)

theorem numeral_toString (n : ℕ) : Numeral (toString n).toList := by
  rw [toList_toString]
  exact numeral_of_digits fun _ => isDigit_of_mem_toDigits

theorem numeral_zeros (n : ℕ) : Numeral (List.replicate n '0') :=
  numeral_of_digits fun c hc => by
    rw [List.eq_of_mem_replicate hc]
    rfl

theorem Numeral.tame (h : Numeral cs) : Tame cs := by
  refine tame_of_plain fun c hc => ?_
  rcases h c hc with hdigit | hsign
  · have hrange := toNat_of_isDigit hdigit
    simp only [Text.isLineEnd, Bool.or_eq_false_iff, Bool.and_eq_false_iff, decide_eq_false_iff_not,
      beq_eq_false_iff_ne]
    omega
  · have hall : (['.', 'e', '+', '-', 'j'].all fun c => !Text.isLineEnd c) = true := by decide
    simpa using List.all_eq_true.1 hall c hsign

theorem numeral_exponentText (e : Int) : Numeral (Decimal.exponentText e).toList := by
  have hdigits := numeral_toString e.natAbs
  unfold Decimal.exponentText
  rw [String.toList_append]
  refine Numeral.append ?_ ?_
  · split_ifs <;> simp [Numeral]
  · split_ifs
    · rw [String.toList_append]
      exact Numeral.append (by simp [Numeral]) hdigits
    · exact hdigits

theorem numeral_writePositive (layout : Layout) (x : Decimal.Scientific) :
    Numeral (layout.writePositive x).toList := by
  have hpoint : Numeral ".".toList := by simp [Numeral]
  have hexponent : Numeral "e".toList := by simp [Numeral]
  have hnone : Numeral "".toList := by simp [Numeral]
  have hdigits : Numeral (Decimal.dropZeros (Nat.toDigits 10 x.digits)) :=
    numeral_of_digits fun _ => isDigit_of_mem_dropZeros
  unfold Layout.writePositive
  dsimp only
  generalize Decimal.dropZeros (Nat.toDigits 10 x.digits) = digits at hdigits ⊢
  have htake : ∀ n, Numeral (digits.take n) := fun n c hc => hdigits c (List.mem_of_mem_take hc)
  have hdrop : ∀ n, Numeral (digits.drop n) := fun n c hc => hdigits c (List.mem_of_mem_drop hc)
  split_ifs <;> simp only [String.toList_append, String.toList_ofList]
  · exact Numeral.append (by simp [Numeral]) ((numeral_zeros _).append hdigits)
  · exact ((htake _).append (numeral_zeros _)).append (by simp [Numeral])
  · exact ((htake _).append (numeral_zeros _)).append hnone
  · exact ((htake _).append (numeral_zeros _)).append (hpoint.append (hdrop _))
  · exact (((htake _).append hnone).append hexponent).append (numeral_exponentText _)
  · exact (((htake _).append (hpoint.append (hdrop _))).append hexponent).append
      (numeral_exponentText _)

theorem numeral_write {layout : Layout} (hinfinity : Numeral layout.infinity.toList) {x : Double}
    (hx : x ≠ .nan) : Numeral (layout.write x).toList := by
  have hsign : ∀ negative : Bool, Numeral (if negative then "-" else "").toList := by
    intro negative
    cases negative <;> simp [Numeral]
  cases x with
  | nan => exact absurd rfl hx
  | infinite negative =>
    rw [Layout.write, String.toList_append]
    exact (hsign negative).append hinfinity
  | finite negative m e =>
    rw [Layout.write, String.toList_append]
    refine (hsign negative).append ?_
    split_ifs
    · simp [Numeral]
    · simp [Numeral]
    · exact numeral_writePositive layout _

end Numeral

/-- The constants that are written like names. -/
def Constant.IsWordLike (c : Constant) : Prop := c = .none ∨ ∃ b, c = .bool b

theorem infinity_digitFirst : DigitFirst "1e309" := ⟨'1', ['e', '3', '0', '9'], rfl, rfl⟩

theorem infinity_numeral : Numeral "1e309".toList := by simp [Numeral]

/-- No function is named by the text of a constant, but for those that are words. -/
theorem constant_strange {c : Constant} (h : c.Sound) (hword : ¬ c.IsWordLike) :
    Strange c.render := by
  cases c with
  | none => exact absurd (Or.inl rfl) hword
  | bool b => exact absurd (Or.inr ⟨b, rfl⟩) hword
  | ellipsis => exact Or.inr ⟨'.', ['.', '.'], rfl, Or.inr rfl⟩
  | int n =>
    obtain ⟨c, rest, hn, hc⟩ := toDigits_eq_cons n
    exact strange_of_digitFirst ⟨c, rest, (toList_toString n).trans hn, hc⟩
  | float x =>
    have hstrange : Strange (Constant.numberLayout.write x ++ "") :=
      write_strange infinity_digitFirst h ""
    rwa [String.append_empty] at hstrange
  | imaginary x =>
    have hstrange : Strange (Constant.imaginaryLayout.write x ++ "j") :=
      write_strange infinity_digitFirst h "j"
    exact hstrange
  | text marked codes =>
    refine strange_of_mark (c := Text.quoteFor (codes.map Char.ofNat)) ?_ (quoteFor_mem_marks _)
    simp [Constant.render, Text.quotedCodes]
  | bytes bs =>
    refine strange_of_mark (c := Text.quoteFor (bs.map fun b => Char.ofNat b.toNat)) ?_
      (quoteFor_mem_marks _)
    simp [Constant.render, Text.quotedBytes]

/-- Strings stand behind a quote, and no other constant has a second line. -/
theorem constant_tame {c : Constant} (h : c.Sound) : Tame c.render.toList := by
  cases c with
  | none => exact tame_of_all (by decide)
  | bool b => cases b <;> exact tame_of_all (by decide)
  | ellipsis => exact tame_of_all (by decide)
  | int n => exact (numeral_toString n).tame
  | float x => exact (numeral_write infinity_numeral h).tame
  | imaginary x =>
    rw [Constant.render, String.toList_append]
    exact ((numeral_write infinity_numeral h).append (by simp [Numeral])).tame
  | text marked codes =>
    rw [Constant.render, Text.quotedCodes, String.toList_append, String.toList_ofList]
    refine Tame.append ?_ (tame_of_mark (quoteFor_mem_marks _) _)
    split_ifs <;> exact tame_of_all (by decide)
  | bytes bs =>
    rw [Constant.render, Text.quotedBytes, String.toList_ofList]
    exact Or.inr ⟨by decide, tame_of_mark (quoteFor_mem_marks _) _⟩

/-! ### Texts of expressions -/

theorem render_constant (required : Precedence) (c : Constant) :
    (Expr.constant c).render false required = c.render := by
  cases c <;> rfl

theorem mem_parensIf {b : Bool} {s : String} {c : Char} (h : c ∈ s.toList) :
    c ∈ (parensIf b s).toList := by
  unfold parensIf
  split_ifs
  · simp [h]
  · exact h

theorem tame_parensIf {b : Bool} {s : String} (h : Tame s.toList) :
    Tame (parensIf b s).toList := by
  unfold parensIf
  split_ifs
  · rw [String.append_assoc, String.toList_append]
    exact tame_of_mark (c := '(') (by decide) _
  · exact h

/-- A formatted string starts with its mark and a quote. -/
theorem render_joined (plain : Bool) (required : Precedence) (pieces : List Piece) :
    ∃ c ∈ marks, ∃ rest, ((Expr.joined pieces).render plain required).toList = 'f' :: c :: rest := by
  have hmark : ∀ q : Text.Quotes, q.mark ∈ marks := by
    intro q
    unfold Text.Quotes.mark
    split_ifs <;> decide
  have haround : ∀ (q : Text.Quotes) (cs : List Char), ∃ c ∈ marks, ∃ rest,
      q.around cs = c :: rest := by
    intro q cs
    refine ⟨q.mark, hmark q, ?_⟩
    unfold Text.Quotes.around Text.Quotes.chars
    split_ifs <;> exact ⟨_, rfl⟩
  obtain ⟨c, hc, rest, hrest⟩ : ∃ c ∈ marks, ∃ rest,
      (if plain then Text.plainlyQuoted ((renderPieces pieces).flatMap (·.1))
        else Text.jointlyQuoted (renderPieces pieces)) = c :: rest := by
    split_ifs
    · exact haround _ _
    · unfold Text.jointlyQuoted
      split
      · exact haround _ _
      · exact haround _ _
  exact ⟨c, hc, rest, by simp [Expr.render, joinedText, hrest]⟩

/-- **All expressions have strange texts**, but names, attributes and the constants that are
words. -/
theorem render_strange {required : Precedence} (hrequired : Precedence.test ≤ required) :
    (e : Expr) → e.Fits → (∀ w, e ≠ .name w) → (∀ value w, e ≠ .attribute value w) →
      (∀ c : Constant, c.IsWordLike → e ≠ .constant c) → Strange (e.render false required)
  | .name w, _, h, _, _ => absurd rfl (h w)
  | .attribute value w, _, _, h, _ => absurd rfl (h value w)
  | .constant c, hfits, _, _, h => by
    rw [render_constant]
    exact constant_strange hfits fun hword => h c hword rfl
  | .joined pieces, _, _, _, _ => by
    obtain ⟨c, hc, rest, hrender⟩ := render_joined false required pieces
    exact strange_of_mark (by simp [hrender]) hc
  -- the rest holds punctuation of its own, inside of parentheses or not
  | .subscript _ _, _, _, _, _ => by
    unfold Expr.render
    exact strange_of_mark (c := '[') (by simp) (by decide)
  | .call _ _ _ _, _, _, _, _ => strange_of_mark (c := '(') (by simp [Expr.render]) (by decide)
  | .starred _, _, _, _, _ => strange_of_mark (c := '*') (by simp [Expr.render]) (by decide)
  | .tuple _, _, _, _, _ => by
    have htuple : Precedence.tuple < required := lt_of_lt_of_le (by decide) hrequired
    exact strange_of_mark (c := '(') (by simp [Expr.render, parensIf, htuple]) (by decide)
  | .list _, _, _, _, _ => strange_of_mark (c := '[') (by simp [Expr.render]) (by decide)
  | .set _, _, _, _, _ => strange_of_mark (c := '{') (by simp [Expr.render]) (by decide)
  | .dict _, _, _, _, _ => strange_of_mark (c := '{') (by simp [Expr.render]) (by decide)
  | .unary .not _, _, _, _, _ => strange_of_mark (c := ' ') (mem_parensIf (by simp))
      (by decide)
  | .unary .plus _, _, _, _, _ => strange_of_mark (c := '+') (mem_parensIf (by simp))
      (by decide)
  | .unary .minus _, _, _, _, _ => strange_of_mark (c := '-') (mem_parensIf (by simp))
      (by decide)
  | .unary .invert _, _, _, _, _ => strange_of_mark (c := '~') (mem_parensIf (by simp))
      (by decide)
  | .binary _ _ _, _, _, _, _ => strange_of_mark (c := ' ') (mem_parensIf (by simp)) (by decide)
  | .boolean _ (_ :: _ :: _), _, _, _, _ =>
    strange_of_mark (c := ' ') (mem_parensIf (by
      simp [renderRising, String.intercalate_cons_cons])) (by decide)
  | .compare _ (.mk _ _ :: _), _, _, _, _ =>
    strange_of_mark (c := ' ') (mem_parensIf (by simp [renderComparisons])) (by decide)
  | .conditional _ _ _, _, _, _, _ =>
    strange_of_mark (c := ' ') (mem_parensIf (by simp)) (by decide)
  | .lambda _ _, _, _, _, _ => strange_of_mark (c := ':') (mem_parensIf (by simp)) (by decide)
  | .named _ _, _, _, _, _ => strange_of_mark (c := ' ') (mem_parensIf (by simp)) (by decide)
  | .yield _, _, _, _, _ => by
    have hyield : Precedence.yield < required := lt_of_lt_of_le (by decide) hrequired
    exact strange_of_mark (c := '(') (by simp [Expr.render, parensIf, hyield]) (by decide)
  | .yieldFrom _, _, _, _, _ => strange_of_mark (c := ' ') (mem_parensIf (by simp)) (by decide)
  | .await _, _, _, _, _ => strange_of_mark (c := ' ') (mem_parensIf (by simp)) (by decide)
  | .slice _ _ _, _, _, _, _ => strange_of_mark (c := ':') (by simp [Expr.render]) (by decide)
  | .comprehension .list _ _, _, _, _, _ =>
    strange_of_mark (c := '[') (by simp [Expr.render, Collection.surround]) (by decide)
  | .comprehension .set _ _, _, _, _, _ =>
    strange_of_mark (c := '{') (by simp [Expr.render, Collection.surround]) (by decide)
  | .comprehension .generator _ _, _, _, _, _ =>
    strange_of_mark (c := '(') (by simp [Expr.render, Collection.surround]) (by decide)
  | .dictComprehension _ _ _, _, _, _, _ =>
    strange_of_mark (c := '{') (by simp [Expr.render]) (by decide)

/-- The blank that keeps the digits of a whole number from the point of an attribute. -/
def gapAfter (value : Expr) : String := if isWholeConstant value then " " else ""

/-- The text of an attribute. -/
theorem render_attribute (required : Precedence) (value : Expr) (w : String) :
    ((Expr.attribute value w).render false required).toList =
      (value.render false .atom ++ gapAfter value).toList ++ '.' :: w.toList := by
  rw [Expr.render, gapAfter]
  split_ifs <;> simp

/-- The text of an operator between its operands. -/
theorem render_binary (required : Precedence) (op : BinaryOp) (left right : Expr) :
    ∃ p q, Precedence.test ≤ p ∧ (Expr.binary op left right).render false required =
      parensIf (required > op.info.2)
        (left.render false p ++ " " ++ op.text ++ " " ++ right.render false q) := by
  cases op <;> exact ⟨_, _, by decide, rfl⟩

theorem render_boolean (required : Precedence) (op : BoolOp) (operands : List Expr) :
    ∃ p s, Precedence.test ≤ p.next ∧ (Expr.boolean op operands).render false required =
      parensIf (required > op.info.2)
        ((" " ++ s ++ " ").intercalate (renderRising false p operands)) := by
  cases op <;> exact ⟨_, _, by decide, rfl⟩

/-- **Some punctuation comes before the first end of a line** in the text of an expression: only
strings hold an end of a line, and they stand behind a quote.  What an expression starts with is a
smaller one, punctuation, or a word before it. -/
theorem render_tame {required : Precedence} (hrequired : Precedence.test ≤ required) :
    (e : Expr) → e.Proper → Tame (e.render false required).toList
  | .name w, h => tame_of_plain (IsWord.isLineEnd h.fits)
  | .constant c, h => by
    rw [render_constant]
    exact constant_tame h.fits
  | .attribute value w, h => by
    have hvalue := render_tame (show .test ≤ Precedence.atom by decide) value
      (h.parts _ List.mem_cons_self)
    have hgap : Tame (gapAfter value).toList := by
      unfold gapAfter
      split_ifs
      · exact tame_of_mark (c := ' ') (by decide) _
      · trivial
    rw [render_attribute, String.toList_append]
    exact (hvalue.append hgap).append (Or.inr ⟨by decide, tame_of_plain (IsWord.isLineEnd h.fits)⟩)
  | .joined pieces, _ => by
    obtain ⟨c, hc, rest, hrender⟩ := render_joined false required pieces
    rw [hrender]
    exact Or.inr ⟨by decide, tame_of_mark hc rest⟩
  -- a smaller expression, and then punctuation
  | .subscript value _, h => by
    have hvalue := render_tame (show .test ≤ Precedence.atom by decide) value
      (h.parts _ List.mem_cons_self)
    unfold Expr.render
    simpa using hvalue.mark (c := '[') (by decide) _
  | .call _ callee _ _, h => by
    have hcallee := render_tame (show .test ≤ Precedence.atom by decide) callee
      (h.parts _ List.mem_cons_self)
    simpa [Expr.render] using hcallee.mark (c := '(') (by decide) _
  | .binary op left right, h => by
    obtain ⟨p, q, hp, hrender⟩ := render_binary required op left right
    have hleft := render_tame hp left (h.parts _ List.mem_cons_self)
    rw [hrender]
    exact tame_parensIf (by simpa using hleft.mark (c := ' ') (by decide) _)
  | .boolean op (first :: second :: rest), h => by
    obtain ⟨p, s, hp, hrender⟩ := render_boolean required op (first :: second :: rest)
    have hfirst := render_tame hp first (h.parts _ List.mem_cons_self)
    rw [hrender]
    exact tame_parensIf (by
      simpa [renderRising, String.intercalate_cons_cons] using
        hfirst.mark (c := ' ') (by decide) _)
  | .compare first (.mk _ _ :: _), h => by
    have hfirst := render_tame (show .test ≤ Precedence.compare.next by decide) first
      (h.parts _ List.mem_cons_self)
    refine tame_parensIf ?_
    simpa [renderComparisons] using hfirst.mark (c := ' ') (by decide) _
  | .conditional _ body _, h => by
    have hbody := render_tame (show .test ≤ Precedence.or by decide) body
      (h.parts _ (by simp [Expr.parts]))
    refine tame_parensIf ?_
    simpa using hbody.mark (c := ' ') (by decide) _
  | .slice none _ _, _ => by
    simpa [Expr.render, renderAfter] using tame_of_mark (c := ':') (by decide) _
  | .slice (some lower) _ _, h => by
    have hlower := render_tame (le_refl Precedence.test) lower
      (h.parts _ (by simp [Expr.parts]))
    simpa [Expr.render, renderAfter] using hlower.mark (c := ':') (by decide) _
  -- punctuation at the front, or a word and then a blank
  | .starred _, _ => by
    simpa [Expr.render] using tame_of_mark (c := '*') (by decide) _
  | .tuple _, _ => by
    have htuple : Precedence.tuple < required := lt_of_lt_of_le (by decide) hrequired
    simpa [Expr.render, parensIf, htuple] using tame_of_mark (c := '(') (by decide) _
  | .list _, _ => by
    simpa [Expr.render] using tame_of_mark (c := '[') (by decide) _
  | .set _, _ => by
    simpa [Expr.render] using tame_of_mark (c := '{') (by decide) _
  | .dict _, _ => by
    simpa [Expr.render] using tame_of_mark (c := '{') (by decide) _
  | .unary .not _, _ => by
    refine tame_parensIf ?_
    simpa using (show Tame "not".toList from tame_of_all (by decide)).mark (c := ' ') (by decide) _
  | .unary .plus _, _ => by
    refine tame_parensIf ?_
    simpa using tame_of_mark (c := '+') (by decide) _
  | .unary .minus _, _ => by
    refine tame_parensIf ?_
    simpa using tame_of_mark (c := '-') (by decide) _
  | .unary .invert _, _ => by
    refine tame_parensIf ?_
    simpa using tame_of_mark (c := '~') (by decide) _
  | .lambda params _, _ => by
    have hparams : Tame (if (params.render false).isEmpty then ""
        else " " ++ params.render false).toList := by
      split_ifs
      · trivial
      · simpa using tame_of_mark (c := ' ') (by decide) _
    refine tame_parensIf ?_
    simpa using ((show Tame "lambda".toList from tame_of_all (by decide)).append hparams).mark
      (c := ':') (by decide) _
  | .named _ _, _ => by
    have hnamed : Precedence.named < required := lt_of_lt_of_le (by decide) hrequired
    simpa [Expr.render, parensIf, hnamed] using tame_of_mark (c := '(') (by decide) _
  | .yield _, _ => by
    have hyield : Precedence.yield < required := lt_of_lt_of_le (by decide) hrequired
    simpa [Expr.render, parensIf, hyield] using tame_of_mark (c := '(') (by decide) _
  | .yieldFrom _, _ => by
    have hyield : Precedence.yield < required := lt_of_lt_of_le (by decide) hrequired
    simpa [Expr.render, parensIf, hyield] using tame_of_mark (c := '(') (by decide) _
  | .await _, _ => by
    refine tame_parensIf ?_
    simpa using (show Tame "await".toList from tame_of_all (by decide)).mark (c := ' ') (by decide) _
  | .comprehension kind _ _, _ => by
    cases kind
    · simpa [Expr.render, Collection.surround] using tame_of_mark (c := '[') (by decide) _
    · simpa [Expr.render, Collection.surround] using tame_of_mark (c := '{') (by decide) _
    · simpa [Expr.render, Collection.surround] using tame_of_mark (c := '(') (by decide) _
  | .dictComprehension _ _ _, _ => by
    simpa [Expr.render] using tame_of_mark (c := '{') (by decide) _
  | .boolean _ [], h => absurd h.fits (by simp [Expr.Fits])
  | .boolean _ [_], h => absurd h.fits (by simp [Expr.Fits])
  | .compare _ [], h => absurd h.fits (by simp [Expr.Fits])

/-! ### Expressions with the texts of names -/

/-- An expression that is written as a word: a name, or a constant that is written like one. -/
inductive Expr.Spells : Expr → String → Prop
  | name {w : String} : Spells (.name w) w
  | constant {c : Constant} : c.IsWordLike → Spells (.constant c) c.render

section Texts

variable {e : Expr} {required : Precedence}

/-- **An expression is shown by its whole text**, or by a strange one. -/
theorem text_eq_render (he : e.Proper) (hstrange : ¬ Strange e.text) :
    e.text = e.render false .test :=
  (render_tame le_rfl e he).firstLine_eq hstrange

theorem IsWord.dot_notMem {w : String} (h : IsWord w) : '.' ∉ w.toList := h.notMem (by decide)

theorem dot_notMem_constant {c : Constant} (h : c.IsWordLike) : '.' ∉ c.render.toList := by
  rcases h with rfl | ⟨b, rfl⟩
  · decide
  · cases b <;> decide

theorem word_or_attribute (hfits : e.Fits) (hrequired : Precedence.test ≤ required)
    (hstrange : ¬ Strange (e.render false required)) :
    e.Spells (e.render false required) ∨ ∃ value w, e = .attribute value w := by
  by_contra hneither
  push Not at hneither
  refine hstrange (render_strange hrequired e hfits (fun w he => hneither.1 ?_) hneither.2
    fun c hc he => hneither.1 ?_)
  · subst he
    exact .name
  · subst he
    rw [render_constant]
    exact .constant hc

/-- A text without a point that is not strange belongs to a word only. -/
theorem spells_of_render (he : e.Proper) (hrequired : Precedence.test ≤ required)
    (hstrange : ¬ Strange (e.render false required))
    (hdot : '.' ∉ (e.render false required).toList) : e.Spells (e.render false required) := by
  rcases word_or_attribute he.fits hrequired hstrange with h | ⟨value, w, rfl⟩
  · exact h
  · exact absurd (by simp [render_attribute]) hdot

/-- The expressions that are shown by a word. -/
theorem spells_of_text {w : String} (he : e.Proper) (hw : IsWord w) (h : e.text = w) :
    e.Spells w := by
  have htext := text_eq_render he (h ▸ hw.not_strange)
  rw [h] at htext
  rw [htext] at hw ⊢
  exact spells_of_render he le_rfl hw.not_strange hw.dot_notMem

/-- The text of a method belongs to an attribute of a name only, or of the constant `None`. -/
theorem attribute_of_text {owner w : String} (he : e.Proper) (ho : IsWord owner)
    (hw : IsWord w) (h : e.text = owner ++ "." ++ w) :
    e = .attribute (.name owner) w ∨ owner = "None" ∧ e = .attribute (.constant .none) w := by
  have hstrange : ¬ Strange e.text := h ▸ not_strange_method ho hw
  have htext := text_eq_render he hstrange
  rw [h] at htext
  rw [h, htext] at hstrange
  rcases word_or_attribute he.fits le_rfl hstrange with hword | ⟨value, v, rfl⟩
  · -- a word has no point
    have hdot : '.' ∈ (e.render false .test).toList := by simp [← htext]
    generalize e.render false .test = s at hword hdot
    cases hword with
    | name => exact absurd hdot (IsWord.dot_notMem he.fits)
    | constant hc => exact absurd hdot (dot_notMem_constant hc)
  · -- both texts are cut at their last points
    have hsplit := (render_attribute .test value v).symm.trans
      ((congrArg String.toList htext.symm).trans (toList_method owner w))
    obtain rfl := String.toList_injective
      (eq_of_dot_append (IsWord.dot_notMem he.fits) hw.dot_notMem hsplit)
    have howner : value.render false .atom ++ gapAfter value = owner :=
      String.toList_injective (List.append_cancel_right hsplit)
    have hgap : gapAfter value = "" := by
      unfold gapAfter at howner ⊢
      split_ifs at howner ⊢
      · exact absurd (strange_of_mark (c := ' ') (by simp [← howner]) (by decide)) ho.not_strange
      · rfl
    rw [hgap, String.append_empty] at howner
    subst howner
    have hvalue := spells_of_render (he.parts _ List.mem_cons_self) (by decide) ho.not_strange
      ho.dot_notMem
    generalize value.render false .atom = s at hvalue
    cases hvalue with
    | name => exact Or.inl rfl
    | constant hc =>
      rcases hc with rfl | ⟨b, rfl⟩
      · exact Or.inr ⟨rfl, rfl⟩
      · -- truth values count as whole numbers, behind which there is a blank
        simp [gapAfter, isWholeConstant, Constant.isWhole] at hgap

/-- No expression is shown by the text that stands for the statements outside of definitions. -/
theorem text_ne_module (he : e.Proper) : e.text ≠ moduleFunction := by
  intro h
  have hstrange : ¬ Strange e.text := h ▸ not_strange_module
  have htext := text_eq_render he hstrange
  rw [htext] at h hstrange
  have hword := spells_of_render he le_rfl hstrange (by rw [h]; decide)
  have hangle : '<' ∈ (e.render false .test).toList := by rw [h]; decide
  generalize e.render false .test = s at hword hangle
  cases hword with
  | name => exact IsWord.notMem he.fits (by decide) hangle
  | constant hc =>
    rcases hc with rfl | ⟨b, rfl⟩
    · exact absurd hangle (by decide)
    · exact absurd hangle (by cases b <;> decide)

/-! Conversely, these expressions are shown by the texts of names. -/

theorem text_name {w : String} (h : IsWord w) : (Expr.name w).text = w :=
  firstLine_of_plain h.isLineEnd

theorem text_constant {c : Constant} (h : c.IsWordLike) : (Expr.constant c).text = c.render := by
  rcases h with rfl | ⟨b, rfl⟩
  · decide +kernel
  · cases b <;> decide +kernel

theorem firstLine_method {owner w : String} (ho : IsWord owner) (hw : IsWord w) :
    Text.firstLine (owner ++ "." ++ w) = owner ++ "." ++ w := by
  refine firstLine_of_plain fun c hc => ?_
  rw [toList_method, List.mem_append, List.mem_cons] at hc
  rcases hc with hc | rfl | hc
  · exact ho.isLineEnd c hc
  · decide
  · exact hw.isLineEnd c hc

theorem text_method {owner w : String} (ho : IsWord owner) (hw : IsWord w) :
    (Expr.attribute (.name owner) w).text = owner ++ "." ++ w :=
  firstLine_method ho hw

theorem isWord_none : IsWord "None" :=
  ⟨'N', ['o', 'n', 'e'], rfl, rfl, List.all_eq_true.1 rfl⟩

theorem text_method_none {w : String} (hw : IsWord w) :
    (Expr.attribute (.constant .none) w).text = "None" ++ "." ++ w :=
  firstLine_method isWord_none hw

end Texts

end CallReach.Source
