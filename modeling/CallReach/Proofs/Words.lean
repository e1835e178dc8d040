import CallReach.Source.Parser.Basic
import CallReach.Text.Blank
import Mathlib.Data.List.TakeWhile

/-!
# Words and literals of source text

The scanner makes a word only of characters that names are made of, and a number only of digits.
So a name holds no blank and no punctuation, does not start with a digit, and no literal stands for
what is not a number.  The normal form of a name is one too, but it may be spelled like a keyword.

* `IsWord` : the texts of words.
* `IsWord.ascii_part` : the characters of a word below 0x80 are letters, digits and underscores.
* `Token.scanAt_sound` : all tokens of a text are sound.
-/

namespace CallReach.Source

open CallReach.Decimal (Double)

/-! ### Names -/

/-- A text that starts and goes on as names do. -/
def IsWord (w : String) : Prop :=
  ∃ c rest, w.toList = c :: rest ∧ Text.isNameStart c = true ∧
    ∀ d ∈ rest, Text.isNamePart d = true

section Names

variable {w : String} {c : Char}

theorem isNamePart_of_isNameStart (hc : c.toNat < 0x80) (h : Text.isNameStart c = true) :
    Text.isNamePart c = true := by
  simp only [Text.isNameStart, Text.isNamePart, hc, if_true, Bool.or_eq_true] at h ⊢
  rcases h with h | h
  · exact Or.inl (by simp [Char.isAlphanum, h])
  · exact Or.inr h

/-- Below 0x80 all characters of a word are letters, digits and underscores. -/
theorem IsWord.ascii_part (h : IsWord w) (hc : c ∈ w.toList) (hascii : c.toNat < 0x80) :
    Text.isNamePart c = true := by
  obtain ⟨first, rest, hw, hfirst, hrest⟩ := h
  rw [hw] at hc
  rcases List.mem_cons.1 hc with rfl | hc
  · exact isNamePart_of_isNameStart hascii hfirst
  · exact hrest c hc

/-- A character below 0x80 that is no part of names is in no word. -/
theorem IsWord.notMem (h : IsWord w) (hc : c.toNat < 0x80 ∧ Text.isNamePart c = false) :
    c ∉ w.toList := by
  intro hmem
  have hpart := h.ascii_part hmem hc.1
  rw [hc.2] at hpart
  cases hpart

/-- No word starts with a digit or with a character below 0x80 that is no part of names. -/
theorem IsWord.head (h : IsWord w) (hc : c.toNat < 0x80 ∧ Text.isNameStart c = false)
    (rest : List Char) : w.toList ≠ c :: rest := by
  intro hw
  obtain ⟨first, rest', hw', hfirst, -⟩ := h
  rw [hw] at hw'
  obtain ⟨rfl, -⟩ := List.cons.inj hw'
  rw [hc.2] at hfirst
  cases hfirst

/-- The blanks of all scripts, by their codes. -/
def blankCodes : List ℕ :=
  List.range' 0x09 5 ++ List.range' 0x1C 5 ++ [0x85, 0xA0, 0x1680] ++ List.range' 0x2000 11 ++
    [0x2028, 0x2029, 0x202F, 0x205F, 0x3000]

theorem mem_blankCodes (h : Text.isBlank c = true) : c.toNat ∈ blankCodes := by
  simp only [Text.isBlank, Bool.or_eq_true, Bool.and_eq_true, decide_eq_true_eq, beq_iff_eq] at h
  simp only [blankCodes, List.mem_append, List.mem_range'_1, List.mem_cons, List.not_mem_nil,
    or_false]
  omega

/-- No name starts with a blank. -/
theorem isNameStart_of_isBlank (h : Text.isBlank c = true) : Text.isNameStart c = false := by
  have hcodes : ∀ n ∈ blankCodes, Text.isNameStart (Char.ofNat n) = false := by decide +kernel
  have := hcodes c.toNat (mem_blankCodes h)
  rwa [Char.ofNat_toNat] at this

/-- No blank is a part of names. -/
theorem isNamePart_of_isBlank (h : Text.isBlank c = true) : Text.isNamePart c = false := by
  have hcodes : ∀ n ∈ blankCodes, Text.isNamePart (Char.ofNat n) = false := by decide +kernel
  have := hcodes c.toNat (mem_blankCodes h)
  rwa [Char.ofNat_toNat] at this

theorem IsWord.head_not_blank (h : IsWord w) {rest : List Char} (hw : w.toList = c :: rest) :
    Text.isBlank c = false := by
  obtain ⟨first, rest', hw', hfirst, -⟩ := h
  rw [hw] at hw'
  obtain ⟨rfl, -⟩ := List.cons.inj hw'
  by_contra hblank
  rw [isNameStart_of_isBlank (by simpa using hblank)] at hfirst
  cases hfirst

end Names

/-! ### Tokens -/

/-- A constant that is no number or one. -/
def Constant.Sound : Constant → Prop
  | .float x => x ≠ .nan
  | .imaginary x => x ≠ .nan
  | _ => True

/-- What holds of the tokens of a text. -/
def TokenKind.Sound : TokenKind → Prop
  | .word w => IsWord w
  | .name w => IsWord w
  | .literal c => c.Sound
  | _ => True

/-- What holds of the tokens of a text. -/
def Token.Sound (t : Token) : Prop := t.kind.Sound

theorem pack_ne_nan (negative : Bool) (m : ℕ) (e : Int) : Double.pack negative m e ≠ .nan := by
  unfold Double.pack
  simp only
  split_ifs <;> simp

theorem ofRatio_ne_nan (negative : Bool) (num den : ℕ) :
    Double.ofRatio negative num den ≠ .nan := by
  unfold Double.ofRatio
  split_ifs
  · simp
  · exact pack_ne_nan _ _ _

theorem ofDecimal_ne_nan (negative : Bool) (digits : ℕ) (exponent : Int) :
    Double.ofDecimal negative digits exponent ≠ .nan := by
  unfold Double.ofDecimal
  simp only
  split_ifs
  all_goals first
    | exact ofRatio_ne_nan _ _ _
    | simp

theorem finishDecimal_sound {whole cs rest : List Char} {fraction : Option (List Char)}
    {c : Constant} (h : finishDecimal whole fraction cs = some (c, rest)) : c.Sound := by
  obtain ⟨⟨exponent, rest'⟩, -, h⟩ := Option.bind_eq_some_iff.1 h
  simp only at h
  split at h
  all_goals
    split_ifs at h <;> cases h <;> first
      | exact ofDecimal_ne_nan _ _ _
      | trivial

theorem number_sound {cs rest : List Char} {c : Constant} (h : number cs = some (c, rest)) :
    c.Sound := by
  have decimal : ∀ cs, decimalNumber cs = some (c, rest) → c.Sound := by
    intro cs h
    obtain ⟨⟨whole, rest'⟩, -, h⟩ := Option.bind_eq_some_iff.1 h
    simp only at h
    split at h
    · obtain ⟨_, -, h⟩ := Option.bind_eq_some_iff.1 h
      exact finishDecimal_sound h
    · exact finishDecimal_sound h
  have based : ∀ base isDigit cs, basedNumber base isDigit cs = some (c, rest) → c.Sound := by
    intro base isDigit cs h
    unfold basedNumber at h
    split at h
    · split_ifs at h
      cases h
      trivial
    · cases h
  unfold number at h
  split at h
  · split_ifs at h
    · exact based _ _ _ h
    · exact based _ _ _ h
    · exact based _ _ _ h
    · exact decimal _ h
  · exact decimal _ h

theorem constant?_sound {host : Host} {mark : StringMark} {body : List Char} {c : Constant}
    (h : mark.constant? host body = some c) : c.Sound := by
  unfold StringMark.constant? at h
  by_cases hbytes : (mark.bytes && body.any (·.toNat ≥ 0x80)) = true
  · rw [if_pos hbytes] at h
    cases h
  · rw [if_neg hbytes] at h
    obtain ⟨codes, -, rfl⟩ := Option.map_eq_some_iff.1 h
    split_ifs <;> trivial

namespace Token

/-- Below 0x80 the characters of words are those of names. -/
theorem isNamePart_of_isWordChar {c : Char} (hascii : c.toNat < 0x80) (h : isWordChar c = true) :
    Text.isNamePart c = true := by
  simp only [isWordChar, Bool.or_eq_true, decide_eq_true_eq] at h
  simp only [Text.isNamePart, hascii, if_true, Bool.or_eq_true]
  rcases h with h | h
  · exact h
  · omega

theorem isNameStart_of_isNamePart {c : Char} (hascii : c.toNat < 0x80) (hdigit : c.isDigit = false)
    (h : Text.isNamePart c = true) : Text.isNameStart c = true := by
  simpa [Text.isNamePart, Text.isNameStart, hascii, Char.isAlphanum, hdigit] using h

theorem isWord_of_isName {cs : List Char} (h : isName cs = true) : IsWord (String.ofList cs) := by
  unfold isName at h
  split at h
  · cases h
  · rename_i first more
    obtain ⟨hfirst, hmore⟩ := Bool.and_eq_true_iff.1 h
    exact ⟨first, more, String.toList_ofList, hfirst, List.all_eq_true.1 hmore⟩

theorem name?_sound {cs : List Char} {kind : TokenKind} (h : name? cs = some kind) :
    kind.Sound := by
  unfold name? at h
  simp only at h
  split_ifs at h with hname
  cases h
  exact isWord_of_isName (Bool.and_eq_true_iff.1 hname).2

theorem word?_sound {c : Char} {cs rest : List Char} {kind : TokenKind}
    (hdigit : c.isDigit = false) (hword : isWordChar c = true)
    (h : word? (c :: cs) = some (kind, rest)) : kind.Sound := by
  obtain ⟨kind, hkind, heq⟩ := Option.map_eq_some_iff.1 h
  cases heq
  rw [List.takeWhile_cons, if_pos hword] at hkind
  split_ifs at hkind with hbeyond
  · exact name?_sound hkind
  · cases hkind
    -- all characters are below 0x80, where those of words are those of names
    have hascii : ∀ d ∈ c :: cs.takeWhile isWordChar, d.toNat < 0x80 := by
      simpa using hbeyond
    have hparts : ∀ d ∈ c :: cs.takeWhile isWordChar, Text.isNamePart d = true := by
      refine fun d hd => isNamePart_of_isWordChar (hascii d hd) ?_
      rcases List.mem_cons.1 hd with rfl | hd
      · exact hword
      · exact List.mem_takeWhile_imp hd
    exact ⟨c, _, String.toList_ofList, isNameStart_of_isNamePart (hascii c List.mem_cons_self)
      hdigit (hparts c List.mem_cons_self), fun d hd => hparts d (List.mem_cons_of_mem _ hd)⟩

theorem string_sound {host : Host} {mark : StringMark} {cs rest : List Char} {kind : TokenKind}
    {n : ℕ} (h : string host mark cs = some (kind, n, rest)) : kind.Sound := by
  obtain ⟨⟨body, rest'⟩, -, h⟩ := Option.bind_eq_some_iff.1 h
  obtain ⟨kind, hkind, heq⟩ := Option.map_eq_some_iff.1 h
  cases heq
  split_ifs at hkind
  · cases hkind
    trivial
  · obtain ⟨c, hc, rfl⟩ := Option.map_eq_some_iff.1 hkind
    exact constant?_sound hc

variable {host : Host} {s s' : Scan} {cs rest : List Char}

/-- The tokens found so far are sound. -/
def Scan.Sound (s : Scan) : Prop := ∀ t ∈ s.found, t.Sound

theorem Scan.Sound.add (h : s.Sound) {t : Token} (ht : t.Sound) (hs : s'.found = t :: s.found) :
    s'.Sound := by
  intro u hu
  rw [hs] at hu
  rcases List.mem_cons.1 hu with rfl | hu
  · exact ht
  · exact h u hu

theorem Scan.Sound.marks (h : s.Sound) {kinds : List TokenKind} (hkinds : ∀ k ∈ kinds, k.Sound) :
    (kinds.foldl Scan.mark s).Sound := by
  induction kinds generalizing s with
  | nil => exact h
  | cons k rest ih =>
    refine ih (h.add (t := ⟨k, s.line, s.last⟩) (hkinds k List.mem_cons_self) rfl) fun k hk => ?_
    exact hkinds k (List.mem_cons_of_mem _ hk)

theorem one_sound (hs : s.Sound) (h : one host s cs = some (s', rest)) : s'.Sound := by
  unfold one at h
  split at h
  · obtain ⟨⟨kind, passed, rest'⟩, hstring, heq⟩ := Option.map_eq_some_iff.1 h
    cases heq
    exact hs.add (t := ⟨kind, s.line, s.last⟩) (string_sound hstring) rfl
  · split at h
    · cases h
    · rename_i c cs
      split_ifs at h with hnumber hword
      · obtain ⟨⟨n, rest'⟩, hn, heq⟩ := Option.map_eq_some_iff.1 h
        cases heq
        exact hs.add (t := ⟨.literal n, s.line, s.last⟩) (number_sound hn) rfl
      · obtain ⟨⟨kind, rest'⟩, hkind, heq⟩ := Option.map_eq_some_iff.1 h
        cases heq
        simp only [Bool.or_eq_true, not_or, Bool.not_eq_true] at hnumber
        exact hs.add (t := ⟨kind, s.line, s.last⟩) (word?_sound hnumber.1 hword hkind) rfl
      · split at h
        · cases h
        · rename_i op _
          obtain ⟨opened, -, heq⟩ := Option.map_eq_some_iff.1 h
          cases heq
          exact hs.add (t := ⟨.op op, s.line, s.last⟩) trivial rfl

theorem indentTokens?_sound {at_ : Column} {levels levels' : List Column} {kinds : List TokenKind}
    (h : indentTokens? at_ levels = some (kinds, levels')) : ∀ k ∈ kinds, k.Sound := by
  unfold indentTokens? at h
  split at h
  · cases h
  · split_ifs at h
    · cases h
      simp [TokenKind.Sound]
    · simp only [Option.ite_none_right_eq_some, Option.some.injEq, Prod.mk.injEq] at h
      intro k hk
      rw [← h.2.1] at hk
      rw [List.eq_of_mem_replicate hk]
      trivial

theorem beginLine_sound (hs : s.Sound) {blank : Bool}
    (h : beginLine s cs = some (s', blank, rest)) : s'.Sound := by
  unfold beginLine at h
  split at h
  · cases h
  · rename_i at_ passed rest' _
    simp only at h
    split_ifs at h
    · cases h
      exact hs
    · obtain ⟨⟨kinds, levels⟩, hkinds, heq⟩ := Option.map_eq_some_iff.1 h
      cases heq
      have hline : Scan.Sound { s with line := s.line + passed } := hs
      exact hline.marks (indentTokens?_sound hkinds)

/-- A new line keeps the tokens sound, whether it ends the one before or not. -/
theorem newLine_sound {fuel line : ℕ} {ts : List Token}
    (ih : ∀ {s : Scan} {cs : List Char} {blank : Bool}, s.Sound →
      scanFrom host fuel blank s cs = some ts → ∀ t ∈ ts, t.Sound) (hs : s.Sound)
    (h : (match beginLine { s with line } cs with
      | some (s, blank, rest) => scanFrom host fuel blank s rest
      | none => none) = some ts) : ∀ t ∈ ts, t.Sound := by
  split at h
  · rename_i hbegin
    exact ih (beginLine_sound (s := { s with line }) hs hbegin) h
  · cases h

theorem scanFrom_sound {fuel : ℕ} {blank : Bool} {ts : List Token} (hs : s.Sound)
    (h : scanFrom host fuel blank s cs = some ts) : ∀ t ∈ ts, t.Sound := by
  induction fuel generalizing blank s cs with
  | zero => cases h
  | succ fuel ih =>
    unfold scanFrom at h
    split at h
    · split_ifs at h
      cases h
      intro t ht
      exact hs.add (t := ⟨.stop, s.line, s.last⟩) trivial rfl t (List.mem_reverse.1 ht)
    · split_ifs at h
      · exact ih hs h
      · exact ih hs h
      · exact newLine_sound ih hs h
      · exact newLine_sound ih (hs.add (t := ⟨.newline, s.line, s.last⟩) trivial rfl) h
      · split at h
        · exact ih (s := { s with line := s.line + 1 }) hs h
        · cases h
      · split at h
        · rename_i hone
          exact ih (one_sound hs hone) h
        · cases h

/-- **All tokens of a text are sound.** -/
theorem scanAt_sound {line : ℕ} {ts : List Token} (h : scanAt host line cs = some ts) :
    ∀ t ∈ ts, t.Sound := by
  unfold scanAt at h
  simp only at h
  split at h
  · rename_i hbegin
    exact scanFrom_sound (beginLine_sound (by simp [Scan.Sound]) hbegin) h
  · cases h

end Token

end CallReach.Source
