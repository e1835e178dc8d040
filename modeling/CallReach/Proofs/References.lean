import CallReach.Command.Failure
import CallReach.Program.Reference
import CallReach.Proofs.Callees

/-!
# References lead back to their positions

The reference of a position joins its function, its block and its index with colons.  Reading a
reference takes the blanks at both ends away, looks for an at sign, and cuts the rest at the colons.
So the two names come back when they hold none of the signs and no blank is taken from the front.

* `Text.splitChars_append`, `Text.length_splitChars` : the parts between separators.
* `Text.integer?_toString` : numbers are read back, if they are not too long.
* `trimChars_ref` : the only blanks that a reference loses are those in front of its function.
* `parse_ref`, `parse_ref_error` : the parts of a reference, and when there are none.
* `references_resolve` : which references lead back; those of a source text all do.
-/

namespace CallReach

namespace Text

/-! ### Parts between separators -/

section Split

variable {separator : Char} {cs : List Char}

theorem splitChars_of_notMem (h : separator ∉ cs) : splitChars separator cs = [cs] := by
  induction cs with
  | nil => rfl
  | cons c rest ih =>
    obtain ⟨hc, hrest⟩ := List.ne_and_not_mem_of_not_mem_cons h
    simp [splitChars, ih hrest, Ne.symm hc]

theorem splitChars_append (h : separator ∉ cs) (ds : List Char) :
    splitChars separator (cs ++ separator :: ds) = cs :: splitChars separator ds := by
  induction cs with
  | nil => simp [splitChars]
  | cons c rest ih =>
    obtain ⟨hc, hrest⟩ := List.ne_and_not_mem_of_not_mem_cons h
    simp [splitChars, ih hrest, Ne.symm hc]

/-- There is one part more than there are separators. -/
theorem length_splitChars (separator : Char) (cs : List Char) :
    (splitChars separator cs).length = cs.count separator + 1 := by
  induction cs with
  | nil => rfl
  | cons c rest ih =>
    unfold splitChars
    by_cases hc : (c == separator) = true
    · rw [if_pos hc, List.length_cons, ih, beq_iff_eq.1 hc, List.count_cons_self]
    · rw [if_neg hc, List.count_cons, if_neg hc, Nat.add_zero, ← ih]
      cases hrest : splitChars separator rest with
      | nil => rw [hrest] at ih; simp at ih
      | cons part parts => rfl

end Split

/-! ### Blanks at the ends -/

section Trim

variable {edge : Char → Bool} {c : Char} {cs : List Char}

theorem mem_dropWhile_of_not (hc : edge c = false) (h : c ∈ cs) : c ∈ cs.dropWhile edge := by
  rw [← List.takeWhile_append_dropWhile (p := edge) (l := cs), List.mem_append] at h
  rcases h with h | h
  · rw [List.mem_takeWhile_imp h] at hc
    cases hc
  · exact h

theorem mem_trimBy (hc : edge c = false) (h : c ∈ cs) : c ∈ trimBy edge cs :=
  List.mem_reverse.2 (mem_dropWhile_of_not hc (List.mem_reverse.2 (mem_dropWhile_of_not hc h)))

/-- Where no blank stands at the end, only those at the front are taken away. -/
theorem trimBy_concat (hc : edge c = false) (cs : List Char) :
    trimBy edge (cs ++ [c]) = (cs ++ [c]).dropWhile edge := by
  have hfront : ∃ ds, (cs ++ [c]).dropWhile edge = ds ++ [c] := by
    rw [List.dropWhile_append]
    split_ifs
    · exact ⟨[], by simp [hc]⟩
    · exact ⟨_, rfl⟩
  obtain ⟨ds, hds⟩ := hfront
  simp [trimBy, hds, hc]

theorem trimBy_eq_self (h : ∀ c ∈ cs, edge c = false) : trimBy edge cs = cs := by
  rcases cs.eq_nil_or_concat with rfl | ⟨before, last, rfl⟩
  · rfl
  · rw [List.concat_eq_append] at h ⊢
    rw [trimBy_concat (h last (by simp))]
    exact List.dropWhile_eq_self_iff.2 fun hl => by simp [h _ (List.getElem_mem hl)]

end Trim

/-- The blanks around an integer are blanks. -/
theorem isEdgeBlank_of_not {c : Char} (h : isBlank c = false) : isEdgeBlank c = false := by
  simp [isEdgeBlank, h]

/-! ### Numbers -/

theorem isBlank_of_isDigit {c : Char} (h : c.isDigit = true) : isBlank c = false := by
  by_contra hblank
  have hcodes : ∀ n ∈ Source.blankCodes, (Char.ofNat n).isDigit = false := by decide
  have := hcodes c.toNat (Source.mem_blankCodes (by simpa using hblank))
  rw [Char.ofNat_toNat, h] at this
  cases this

theorem digit?_of_isDigit {c : Char} (h : c.isDigit = true) :
    digit? c = some (c.toNat - '0'.toNat) := by
  have hlt : c.toNat < 0x80 := by
    simp only [Char.isDigit, Bool.and_eq_true, decide_eq_true_eq, ge_iff_le,
      UInt32.le_iff_toNat_le] at h
    exact lt_of_le_of_lt h.2 (by decide)
  simp [digit?, hlt, h]

theorem digitsFrom_of_isDigit {cs : List Char} (h : ∀ c ∈ cs, c.isDigit = true) (after : Bool)
    (hne : after = true ∨ cs ≠ []) :
    digitsFrom after cs = some (cs.map fun c => c.toNat - '0'.toNat) := by
  induction cs generalizing after with
  | nil => simp_all [digitsFrom]
  | cons c rest ih =>
    rw [List.forall_mem_cons] at h
    have hc : c ≠ '_' := by
      rintro rfl
      exact absurd h.1 (by decide)
    rw [digitsFrom.eq_3 _ _ _ hc, digit?_of_isDigit h.1, ih h.2 true (Or.inl rfl)]
    rfl

/-- **A number is read back from its digits**, if it has no more of them than are read. -/
theorem integer?_toString (n : ℕ) :
    integer? (toString n) = if n < 10 ^ maxDigits then some (n : Int) else none := by
  have hdigits : ∀ c ∈ Nat.toDigits 10 n, c.isDigit = true :=
    fun c hc => Source.isDigit_of_mem_toDigits hc
  have hnatural : natural? (Nat.toDigits 10 n) = if n < 10 ^ maxDigits then some n else none := by
    have hvalue : ofDigits ((Nat.toDigits 10 n).map fun c => c.toNat - '0'.toNat) = n := by
      rw [ofDigits, List.foldl_map]
      exact Nat.ofDigitChars_toDigits (by decide) (by decide)
    have hlength : (Nat.toDigits 10 n).length ≤ maxDigits ↔ n < 10 ^ maxDigits :=
      Nat.length_toDigits_le_iff (by decide) (by decide)
    rw [natural?, digitsFrom_of_isDigit hdigits false (Or.inr Nat.toDigits_ne_nil),
      Option.bind_some, List.length_map, hvalue]
    simp only [hlength]
  unfold integer?
  rw [Source.toList_toString,
    trimBy_eq_self fun c hc => isEdgeBlank_of_not (isBlank_of_isDigit (hdigits c hc))]
  -- the first digit is no sign
  split
  · rename_i rest hcons
    exact absurd (hdigits '-' (by simp [hcons])) (by decide)
  · rename_i rest hcons
    exact absurd (hdigits '+' (by simp [hcons])) (by decide)
  · rw [hnatural]
    split_ifs <;> rfl

theorem digitsFrom_colon {cs : List Char} (h : ':' ∈ cs) (after : Bool) :
    digitsFrom after cs = none := by
  induction cs generalizing after with
  | nil => cases h
  | cons c rest ih =>
    by_cases hc : c = '_'
    · subst hc
      rw [digitsFrom.eq_2, ih (List.mem_of_ne_of_mem (by decide) h), ite_self]
    · rw [digitsFrom.eq_3 _ _ _ hc]
      rcases List.mem_cons.1 h with rfl | h
      · rfl
      · simp [ih h]

/-- No number holds a colon. -/
theorem integer?_colon {s : String} (h : ':' ∈ s.toList) : integer? s = none := by
  have hmem := mem_trimBy (isEdgeBlank_of_not (by decide)) h
  have hnatural : ∀ {cs}, ':' ∈ cs → natural? cs = none := by
    intro cs hcs
    simp [natural?, digitsFrom_colon hcs]
  unfold integer?
  split
  · rename_i rest hcons
    rw [hcons] at hmem
    rw [hnatural (List.mem_of_ne_of_mem (by decide) hmem)]
    rfl
  · rename_i rest hcons
    rw [hcons] at hmem
    rw [hnatural (List.mem_of_ne_of_mem (by decide) hmem)]
    rfl
  · rw [hnatural hmem]
    rfl

end Text

open Source (Plain)

/-! ### The parts of a reference -/

/-- A text that begins with a blank. -/
def StartsBlank (s : String) : Prop := s.toList.head?.any Text.isBlank = true

instance : DecidablePred StartsBlank := fun s =>
  inferInstanceAs (Decidable (s.toList.head?.any Text.isBlank = true))

/-- The text without the blanks at its front. -/
def unindented (s : String) : String := String.ofList (s.toList.dropWhile Text.isBlank)

theorem unindented_eq_self {s : String} : unindented s = s ↔ ¬ StartsBlank s := by
  rw [unindented, ← String.toList_inj, String.toList_ofList, StartsBlank]
  cases hs : s.toList with
  | nil => simp
  | cons c rest =>
    rw [List.dropWhile_eq_self_iff]
    simp

theorem Plain.unindented {s : String} (h : Plain s) : Plain (unindented s) := by
  have hsub : ∀ c, c ∉ s.toList → c ∉ (CallReach.unindented s).toList := by
    intro c hc hmem
    rw [CallReach.unindented, String.toList_ofList] at hmem
    exact hc ((List.dropWhile_sublist _).subset hmem)
  exact ⟨hsub ':' h.1, hsub '@' h.2⟩

section Parts

variable (p : Position)

theorem toList_ref : p.ref.toList =
    p.function.toList ++ ':' :: (p.block.toList ++ ':' :: Nat.toDigits 10 p.index) := by
  simp [Position.ref, Position.blockName, BlockName.ref]

/-- **A reference loses only the blanks in front of its function.** -/
theorem trimChars_ref : Text.trimChars p.ref.toList = (unindented p.function).toList ++
    ':' :: (p.block.toList ++ ':' :: Nat.toDigits 10 p.index) := by
  obtain ⟨before, last, hdigits⟩ : ∃ before last, Nat.toDigits 10 p.index = before ++ [last] := by
    rcases (Nat.toDigits 10 p.index).eq_nil_or_concat with h | ⟨before, last, h⟩
    · exact absurd h Nat.toDigits_ne_nil
    · exact ⟨before, last, h.trans List.concat_eq_append⟩
  have hlast : Text.isBlank last = false :=
    Text.isBlank_of_isDigit (Source.isDigit_of_mem_toDigits (n := p.index) (by simp [hdigits]))
  have hconcat : p.ref.toList = (p.function.toList ++ ':' :: (p.block.toList ++ ':' :: before)) ++
      [last] := by
    rw [toList_ref, hdigits]
    simp
  rw [hconcat, Text.trimChars, Text.trimBy_concat hlast, ← hconcat, toList_ref, List.dropWhile_append,
    unindented, String.toList_ofList]
  split_ifs with hempty
  · rw [List.isEmpty_iff.1 hempty, List.dropWhile_cons_of_neg (by decide), List.nil_append]
  · rfl

variable {p}

theorem isEmpty_ref (cs ds : List Char) : (cs ++ ':' :: ds).isEmpty = false := by simp

theorem sign_notMem_toDigits (n : ℕ) : ':' ∉ Nat.toDigits 10 n ∧ '@' ∉ Nat.toDigits 10 n := by
  rw [← Source.toList_toString]
  exact Source.plain_toString n

/-- Two names without colons and an index are cut apart. -/
theorem splitChars_parts {function block : String} (hf : Plain function) (hb : Plain block)
    (n : ℕ) : Text.splitChars ':' (function.toList ++ ':' :: (block.toList ++ ':' ::
      Nat.toDigits 10 n)) = [function.toList, block.toList, Nat.toDigits 10 n] := by
  rw [Text.splitChars_append hf.1, Text.splitChars_append hb.1,
    Text.splitChars_of_notMem (sign_notMem_toDigits n).1]

/-- The parts of a reference without signs in its names. -/
theorem parse_ref (hf : Plain p.function) (hb : Plain p.block) : Reference.parse p.ref =
    .ok (.index (unindented p.function) p.block (toString p.index)) := by
  have hf := Plain.unindented hf
  have hat : ((unindented p.function).toList ++
      ':' :: (p.block.toList ++ ':' :: Nat.toDigits 10 p.index)).contains '@' = false := by
    simp [hf.2, hb.2, (sign_notMem_toDigits p.index).2]
  have hsplit : (Text.splitChars ':' ((unindented p.function).toList ++
      ':' :: (p.block.toList ++ ':' :: Nat.toDigits 10 p.index))).map String.ofList =
      [unindented p.function, p.block, toString p.index] := by
    rw [splitChars_parts hf hb, ← Source.toList_toString]
    simp only [List.map_cons, List.map_nil, String.ofList_toList]
  unfold Reference.parse Reference.ofTrimmed
  simp only [trimChars_ref, isEmpty_ref, hat, hsplit, Bool.false_eq_true, if_false]

/-- Behind an at sign in front of a colon there is no number. -/
theorem ofTrimmed_at {xs : List Char} (h : '@' ∈ xs) (ds : List Char) :
    ∃ e, Reference.ofTrimmed (xs ++ ':' :: ds) = .error e := by
  have hne : xs.dropWhile (· != '@') ≠ [] := by
    intro hnil
    have := List.dropWhile_eq_nil_iff.1 hnil '@' h
    simp at this
  obtain ⟨c, rest, hrest⟩ := List.exists_cons_of_ne_nil hne
  have hcolon : ':' ∈ (String.ofList (((xs ++ ':' :: ds).dropWhile (· != '@')).drop 1)).toList := by
    rw [String.toList_ofList, List.dropWhile_append, hrest]
    simp
  unfold Reference.ofTrimmed
  rw [isEmpty_ref, if_neg (by decide), if_pos (by simp [h])]
  simp only [Text.integer?_colon hcolon]
  exact ⟨_, rfl⟩

/-- There are no more than three parts. -/
theorem ofTrimmed_colons {cs : List Char} (hat : '@' ∉ cs) (h : 3 ≤ cs.count ':') :
    ∃ e, Reference.ofTrimmed cs = .error e := by
  have hlength : 4 ≤ ((Text.splitChars ':' cs).map String.ofList).length := by
    rw [List.length_map, Text.length_splitChars]
    omega
  unfold Reference.ofTrimmed
  split_ifs with hempty hsign
  · exact ⟨_, rfl⟩
  · exact absurd (List.contains_iff_mem.1 hsign) hat
  · obtain ⟨a, b, c, d, rest, hparts⟩ : ∃ a b c d rest,
        (Text.splitChars ':' cs).map String.ofList = a :: b :: c :: d :: rest := by
      match (Text.splitChars ':' cs).map String.ofList, hlength with
      | a :: b :: c :: d :: rest, _ => exact ⟨a, b, c, d, rest, rfl⟩
    rw [hparts]
    exact ⟨_, rfl⟩

/-- **A reference with signs in its names cannot be cut into its parts.** -/
theorem parse_ref_error (h : ¬ (Plain p.function ∧ Plain p.block)) :
    ∃ e, Reference.parse p.ref = .error e := by
  have hsign : ∀ {c}, Text.isBlank c = false → c ∈ p.function.toList →
      c ∈ (unindented p.function).toList := by
    intro c hblank hc
    rw [unindented, String.toList_ofList]
    exact Text.mem_dropWhile_of_not hblank hc
  rw [Reference.parse, trimChars_ref]
  -- an at sign is looked for before the colons, so it decides first
  by_cases hat : '@' ∈ (unindented p.function).toList ++ ':' :: p.block.toList
  · have herror := ofTrimmed_at hat (Nat.toDigits 10 p.index)
    rwa [List.append_assoc, List.cons_append] at herror
  · -- without an at sign in the names there is none at all, so the colons are counted
    have hcolon : ':' ∈ (unindented p.function).toList ∨ ':' ∈ p.block.toList := by
      simp only [List.mem_append, List.mem_cons, not_or] at hat
      by_contra hnone
      rw [not_or] at hnone
      exact h ⟨⟨mt (hsign (by decide)) hnone.1, mt (hsign (by decide)) hat.1⟩, hnone.2, hat.2.2⟩
    refine ofTrimmed_colons ?_ ?_
    · simp only [List.mem_append, List.mem_cons, not_or] at hat ⊢
      exact ⟨hat.1, by decide, hat.2.2, by decide, (sign_notMem_toDigits p.index).2⟩
    · rw [← List.count_pos_iff, ← List.count_pos_iff] at hcolon
      simp only [List.count_append, List.count_cons_self]
      omega

end Parts

/-! ### The position that a reference leads to -/

section Resolve

variable {M : Program} {p q : Position} {i : Instruction}

/-- All errors but one are those of a reference. -/
theorem notice_word {e : ReferenceError} (h : ∀ name, e ≠ .noEntry name) :
    e.notice.word = "PositionReferenceError" := by
  cases e with
  | noEntry name => exact absurd rfl (h name)
  | _ => rfl

theorem ofTrimmed_refused {cs : List Char} {e : ReferenceError}
    (h : Reference.ofTrimmed cs = .error e) (name : String) : e ≠ .noEntry name := by
  rintro rfl
  unfold Reference.ofTrimmed at h
  split at h
  · cases h
  split at h
  · split at h <;> cases h
  · split at h <;> cases h

theorem resolve_error (h : ¬ (Plain p.function ∧ Plain p.block)) :
    ∃ e, M.resolve p.ref = .error e ∧ e.notice.word = "PositionReferenceError" := by
  obtain ⟨e, he⟩ := parse_ref_error h
  exact ⟨e, by rw [Program.resolve, he]; rfl, notice_word (ofTrimmed_refused he)⟩

theorem resolve_plain (hf : Plain p.function) (hb : Plain p.block) : M.resolve p.ref =
    M.locate (Text.trim p.ref) (.index (unindented p.function) p.block (toString p.index)) := by
  rw [Program.resolve, parse_ref hf hb]
  rfl

/-- A function that is found has the name that is looked for. -/
theorem name_of_definedFunction {name : String} {f : Function}
    (h : M.definedFunction name = .ok f) : f.name = name := by
  unfold Program.definedFunction at h
  split at h
  · cases h
  · rename_i g hg
    split_ifs at h
    cases h
    exact (Program.mem_of_function? hg).2

theorem function_of_locate {text function block index : String}
    (h : M.locate text (.index function block index) = .ok q) : q.function = function := by
  obtain ⟨f, hf, h⟩ := bind_eq_ok.1 h
  obtain ⟨b, -, h⟩ := bind_eq_ok.1 h
  split at h
  · unfold Function.positionAt at h
    split_ifs at h
    cases h
    exact name_of_definedFunction hf
  · cases h

/-- The parts of the reference of an instruction lead back to it. -/
theorem locate_index (hi : M.instruction? p = some i) (text : String) :
    M.locate text (.index p.function p.block (toString p.index)) =
      if p.index < 10 ^ Text.maxDigits then .ok p else .error (.badIndex text) := by
  obtain ⟨block, hblock, hindex⟩ := Program.instruction?_eq_some.1 hi
  obtain ⟨f, hf, hfblock⟩ := Program.block?_eq_some.1 hblock
  have hf : M.function? p.function = some f := hf
  have hfblock : f.block? p.block = some block := hfblock
  obtain ⟨hmem, hname⟩ := Function.mem_of_block? hfblock
  obtain ⟨hlt, -⟩ := List.getElem?_eq_some_iff.1 hindex
  have hdefined : M.definedFunction p.function = .ok f := by
    simp [Program.definedFunction, hf, Function.isDeclaration, List.ne_nil_of_mem hmem]
  have hnamed : f.blockNamed p.block = .ok block := by simp [Function.blockNamed, hfblock]
  have hposition : f.positionAt block (p.index : Int) = .ok p := by
    simp [Function.positionAt, hlt, hname, name_of_definedFunction hdefined]
  unfold Program.locate
  simp only [hdefined, hnamed, Text.integer?_toString, bind, Except.bind]
  split_ifs
  · exact hposition
  · rfl

/-- **When a reference leads back to its instruction.** -/
theorem resolve_ref_iff (hi : M.instruction? p = some i) (hindex : p.index < 10 ^ Text.maxDigits) :
    M.resolve p.ref = .ok p ↔
      (Plain p.function ∧ ¬ StartsBlank p.function) ∧ Plain p.block := by
  constructor
  · intro h
    by_cases hplain : Plain p.function ∧ Plain p.block
    · rw [resolve_plain hplain.1 hplain.2] at h
      exact ⟨⟨hplain.1, unindented_eq_self.1 (function_of_locate h).symm⟩, hplain.2⟩
    · obtain ⟨e, he, -⟩ := resolve_error (M := M) hplain
      rw [he] at h
      cases h
  · rintro ⟨⟨hf, hblank⟩, hb⟩
    rw [resolve_plain hf hb, unindented_eq_self.2 hblank, locate_index hi, if_pos hindex]

/-- **A reference leads to another instruction only when its function begins with a blank.** -/
theorem startsBlank_of_resolve (hi : M.instruction? p = some i) (h : M.resolve p.ref = .ok q)
    (hne : q ≠ p) : StartsBlank p.function := by
  by_contra hblank
  by_cases hplain : Plain p.function ∧ Plain p.block
  · rw [resolve_plain hplain.1 hplain.2, unindented_eq_self.2 hblank, locate_index hi] at h
    split_ifs at h
    cases h
    exact hne rfl
  · obtain ⟨e, he, -⟩ := resolve_error (M := M) hplain
    rw [he] at h
    cases h

end Resolve

/-! ### The listed positions -/

section Positions

variable {M : Program} {f : Function} {p q : Position} {i : Instruction}

/-- No two functions share a name, and no two blocks of a function. -/
def Program.Distinct (M : Program) : Prop :=
  (M.functions.map (·.name)).Nodup ∧ ∀ f ∈ M.functions, (f.blocks.map (·.name)).Nodup

theorem mem_function_positions : (p, i) ∈ f.positions ↔ ∃ b ∈ f.blocks,
    p.function = f.name ∧ p.block = b.name ∧ b.instructions[p.index]? = some i := by
  obtain ⟨function, block, index⟩ := p
  simp only [Function.positions, Function.blockPositions, List.mem_flatMap, List.mem_mapIdx,
    Prod.mk.injEq, Position.mk.injEq, List.getElem?_eq_some_iff]
  constructor
  · rintro ⟨b, hb, n, hn, ⟨rfl, rfl, rfl⟩, rfl⟩
    exact ⟨b, hb, rfl, rfl, hn, rfl⟩
  · rintro ⟨b, hb, rfl, rfl, hn, rfl⟩
    exact ⟨b, hb, index, hn, ⟨rfl, rfl, rfl⟩, rfl⟩

/-- The listed positions are those of the instructions. -/
theorem mem_positions_iff (hM : M.Distinct) :
    (p, i) ∈ M.positions ↔ M.instruction? p = some i := by
  rw [Program.positions, List.mem_flatMap, Program.instruction?_eq_some]
  simp only [mem_function_positions, Program.block?_eq_some]
  constructor
  · rintro ⟨f, hf, b, hb, hfunction, hblock, hindex⟩
    refine ⟨b, ⟨f, ?_, ?_⟩, hindex⟩
    · rw [Position.blockName, hfunction]
      exact Program.function?_of_mem hM.1 hf
    · rw [Position.blockName, hblock]
      exact Function.block?_of_mem (hM.2 f hf) hb
  · rintro ⟨b, ⟨f, hf, hb⟩, hindex⟩
    obtain ⟨hmem, hname⟩ := Program.mem_of_function? hf
    obtain ⟨hblock, hblockName⟩ := Function.mem_of_block? hb
    exact ⟨f, hmem, b, hblock, hname.symm, hblockName.symm, hindex⟩

/-- Lists of distinct items under distinct keys are put together without repetition. -/
theorem nodup_flatMap_of_keys {α β : Type} {xs : List α} {items : α → List β} {key : α → String}
    (tag : β → String) (hkeys : (xs.map key).Nodup) (hitems : ∀ x ∈ xs, (items x).Nodup)
    (htag : ∀ x ∈ xs, ∀ y ∈ items x, tag y = key x) : (xs.flatMap items).Nodup := by
  refine List.nodup_flatMap.2 ⟨hitems, ?_⟩
  have hpairs : xs.Pairwise fun a b => key a ≠ key b := List.pairwise_map.1 hkeys
  refine hpairs.imp_of_mem fun {a b} ha hb hne y hya hyb => ?_
  exact hne ((htag a ha y hya).symm.trans (htag b hb y hyb))

theorem blockPositions_fst (f : Function) (b : Block) : (f.blockPositions b).map (·.1) =
    (List.range b.instructions.length).map fun n => ⟨f.name, b.name, n⟩ := by
  refine List.ext_getElem (by simp [Function.blockPositions]) fun n _ _ => ?_
  simp [Function.blockPositions]

/-- No position is listed twice. -/
theorem nodup_positions (hM : M.Distinct) : (M.positions.map (·.1)).Nodup := by
  have htags : ∀ f b, ∀ p ∈ (Function.blockPositions f b).map (·.1),
      p.function = f.name ∧ p.block = b.name := by
    intro f b p hp
    rw [blockPositions_fst] at hp
    obtain ⟨n, -, rfl⟩ := List.mem_map.1 hp
    exact ⟨rfl, rfl⟩
  have hblock : ∀ f b, ((Function.blockPositions f b).map (·.1)).Nodup := by
    intro f b
    rw [blockPositions_fst]
    exact List.nodup_range.map fun n m h => congrArg Position.index h
  have hfunction : ∀ f ∈ M.functions, (f.positions.map (·.1)).Nodup := by
    intro f hf
    rw [Function.positions, List.map_flatMap]
    exact nodup_flatMap_of_keys Position.block (hM.2 f hf) (fun b _ => hblock f b)
      fun b _ p hp => (htags f b p hp).2
  rw [Program.positions, List.map_flatMap]
  refine nodup_flatMap_of_keys Position.function hM.1 hfunction fun f _ p hp => ?_
  rw [Function.positions, List.map_flatMap] at hp
  obtain ⟨b, -, hp⟩ := List.mem_flatMap.1 hp
  exact (htags f b p hp).1

/-- References without signs in their names tell positions apart. -/
theorem ref_inj (hp : Plain p.function ∧ Plain p.block) (hq : Plain q.function ∧ Plain q.block)
    (h : p.ref = q.ref) : p = q := by
  have hparts := splitChars_parts hp.1 hp.2 p.index
  rw [← toList_ref, h, toList_ref, splitChars_parts hq.1 hq.2] at hparts
  simp only [List.cons.injEq, and_true] at hparts
  obtain ⟨hfunction, hblock, hindex⟩ := hparts
  obtain ⟨function, block, index⟩ := p
  obtain ⟨function', block', index'⟩ := q
  obtain rfl := String.toList_injective hfunction
  obtain rfl := String.toList_injective hblock
  have hn := congrArg (Nat.ofDigitChars 10 · 0) hindex
  simp only [Nat.ofDigitChars_ten_toDigits] at hn
  rw [hn]

end Positions

/-! ### Source texts -/

section Sources

open Source

variable {host : Host} {text name : String} {file : Option String} {top : List Stmt} {M : Program}

theorem lowered_distinct (hM : lowerProgram top name file = some M) : M.Distinct := by
  refine ⟨(lowered_names hM).1, fun f hf => ?_⟩
  obtain ⟨scope, stmts, lastLine, -, hlowered⟩ := lowered_function hM hf
  exact (lowerFunction_completes hlowered).distinct

theorem IsWord.not_startsBlank {w : String} (h : IsWord w) (after : String) :
    ¬ StartsBlank (w ++ after) := by
  obtain ⟨c, rest, hw, -, -⟩ := id h
  rw [StartsBlank, String.toList_append, hw]
  simpa using h.head_not_blank hw

/-- The functions of a source text have names without signs and blanks at the front. -/
theorem plain_of_defines (htop : ∀ s ∈ top, s.Proper) {g : String} {scope : Scope}
    {stmts : List Stmt} (h : Defines top g scope stmts) : Plain g ∧ ¬ StartsBlank g := by
  rcases defines_iff.1 ⟨scope, stmts, h⟩ with rfl | hg | ⟨className, w, hmethod, rfl⟩
  · decide
  · have hword := isWord_of_mem_functionNames htop hg
    have hblank := IsWord.not_startsBlank hword ""
    rw [String.append_empty] at hblank
    exact ⟨hword.plain, hblank⟩
  · obtain ⟨hclass, hw⟩ := hmethod.isWord htop
    refine ⟨plain_append.2 ⟨plain_append.2 ⟨hclass.plain, by decide⟩, hw.plain⟩, ?_⟩
    rw [String.append_assoc]
    exact IsWord.not_startsBlank hclass _

/-- The names of an instruction of a source text hold no signs, and no blank stands at the front. -/
theorem plain_of_lowered (htop : parse host text = some top)
    (hM : lowerProgram top name file = some M) {p : Position} {i : Instruction}
    (hi : M.instruction? p = some i) :
    (Plain p.function ∧ ¬ StartsBlank p.function) ∧ Plain p.block := by
  obtain ⟨scope, stmts, lastLine, f, block, hdefines, hlowered, -, hblock, -⟩ :=
    lowered_instruction hM hi
  obtain ⟨hmem, hname⟩ := Function.mem_of_block? hblock
  rw [← hname]
  exact ⟨plain_of_defines (parse_proper htop) hdefines, (lowerFunction_emits hlowered block hmem).1⟩

/-- No two references of a source text are the same. -/
theorem nodup_refs (htop : parse host text = some top) (hM : lowerProgram top name file = some M) :
    (M.positions.map fun x => x.1.ref).Nodup := by
  have hdistinct := lowered_distinct hM
  have hplain : ∀ p ∈ M.positions.map (·.1), Plain p.function ∧ Plain p.block := by
    intro p hp
    obtain ⟨⟨q, i⟩, hq, rfl⟩ := List.mem_map.1 hp
    have hnames := plain_of_lowered htop hM ((mem_positions_iff hdistinct).1 hq)
    exact ⟨hnames.1.1, hnames.2⟩
  have hrefs := (nodup_positions hdistinct).map_on fun p hp q hq h =>
    ref_inj (hplain p hp) (hplain q hq) h
  rwa [List.map_map] at hrefs

end Sources

/-- **Which references lead back to their positions.**  The reference of an instruction leads back
to it just when the names of its function and its block hold neither a colon nor an at sign, and
that of the function does not begin with a blank.  With one of the signs it is refused with the error
of references, and it leads to another instruction only from a function that begins with a blank.
The listing of a source text holds all instructions, their references lead back, and no two are the
same.  An index is read back up to the digits that a number may have, and no list that fits into a
memory has a longer one. -/
theorem references_resolve :
    (∀ (M : Program) (p : Position) (i : Instruction), M.instruction? p = some i →
      (p.index < 10 ^ Text.maxDigits → (M.resolve p.ref = .ok p ↔
        (Plain p.function ∧ ¬ StartsBlank p.function) ∧ Plain p.block)) ∧
      (¬ (Plain p.function ∧ Plain p.block) →
        ∃ e, M.resolve p.ref = .error e ∧ e.notice.word = "PositionReferenceError") ∧
      ∀ q, M.resolve p.ref = .ok q → q ≠ p → StartsBlank p.function) ∧
    ∀ (text name : String) (file : Option String) (host : Source.Host) (M : Program),
      Program.ofSource text name file host = .ok M →
      (∀ p i, (p, i) ∈ M.positions ↔ M.instruction? p = some i) ∧
      (∀ p i, (p, i) ∈ M.positions → p.index < 10 ^ Text.maxDigits → M.resolve p.ref = .ok p) ∧
      (M.positions.map fun x => x.1.ref).Nodup := by
  refine ⟨fun M p i hi => ⟨resolve_ref_iff hi, resolve_error, fun q hq hne =>
    startsBlank_of_resolve hi hq hne⟩, fun text name file host M hsource => ?_⟩
  obtain ⟨-, -, top, htop, hM⟩ := Program.ofSource_eq_ok.1 hsource
  have hlisted := fun p i => mem_positions_iff (p := p) (i := i) (lowered_distinct hM)
  refine ⟨hlisted, fun p i hp hindex => ?_, nodup_refs htop hM⟩
  have hi := (hlisted p i).1 hp
  exact (resolve_ref_iff hi hindex).2 (plain_of_lowered htop hM hi)

/-- Two functions whose names differ by a blank at the front. -/
def Program.indented : Program where
  name := "<program>"
  functions := [
    { name := " f", entry := some "b", blocks := [
      { name := "b", instructions := [{ opcode := "ret", kind := .ret, text := "ret" }] }] },
    { name := "f", entry := some "b", blocks := [
      { name := "b", instructions := [{ opcode := "ret", kind := .ret, text := "ret" }] }] }]

/-- The reference of `f` leads back; that of ` f` leads to `f`, which only a blank at the front can
do.  Those of `boxText` lead back, its first one among them. -/
theorem references_resolve_indented :
    Program.indented.resolve (Position.ref ⟨"f", "b", 0⟩) = .ok ⟨"f", "b", 0⟩ ∧
      Program.indented.resolve (Position.ref ⟨" f", "b", 0⟩) = .ok ⟨"f", "b", 0⟩ ∧
      StartsBlank " f" ∧
      Program.ofSource Source.boxText "box" = .ok Source.boxProgram ∧
      Source.boxProgram.resolve "<module>:entry:0" = .ok ⟨"<module>", "entry", 0⟩ ∧
      (Source.boxProgram.positions.map fun x => x.1.ref).Nodup := by
  have hzero : 0 < 10 ^ Text.maxDigits := Nat.pow_pos (by decide)
  have hother : Program.indented.resolve (Position.ref ⟨" f", "b", 0⟩) = .ok ⟨"f", "b", 0⟩ := by
    decide +kernel
  have hplain := references_resolve.1 Program.indented ⟨"f", "b", 0⟩ _ rfl
  have hblank := references_resolve.1 Program.indented ⟨" f", "b", 0⟩ _ rfl
  have hsource : Program.ofSource Source.boxText "box" = .ok Source.boxProgram :=
    Program.ofSource_eq_ok.2 ⟨by decide, rfl, _, Source.parse_box, Source.lower_box⟩
  have hbox := references_resolve.2 Source.boxText "box" none {} _ hsource
  refine ⟨(hplain.1 hzero).2 (by decide), hother, hblank.2.2 _ hother (by decide), hsource, ?_,
    hbox.2.2⟩
  exact hbox.2.1 Source.boxPosition (Source.Scope.callInstruction {} Source.boxCall)
    ((hbox.1 _ _).2 Source.box_instruction) hzero

end CallReach
