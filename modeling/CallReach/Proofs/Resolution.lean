import CallReach.Command.Failure
import CallReach.Proofs.Loaded
import CallReach.Proofs.References

/-!
# What a reference names

A reference is read in two steps.  A text spells one of four references, or none; a reference leads
to a position of the program, or nowhere.  Both steps are described here apart from their
algorithms: the first one by the notation of references and integers, the second one by the
functions, blocks and lines of the program.

* `Text.Numeral`, `Text.integer?_eq_some` : the notation of integers.
* `Reference.Spells`, `ofTrimmed_eq_ok` : the notation of references.
* `Program.Leads`, `locate_eq_ok` : where a reference leads.
* `resolve_closed` : a text that names nothing is refused as a reference, and nothing else happens.
-/

namespace CallReach

/-! ### Integers -/

namespace Text

/-- Decimal digits with single underscores between them, and their values. -/
inductive Digits : List Char → List ℕ → Prop
  | last {c : Char} {d : ℕ} : digit? c = some d → Digits [c] [d]
  | next {c : Char} {d : ℕ} {cs : List Char} {ds : List ℕ} :
      digit? c = some d → Digits cs ds → Digits (c :: cs) (d :: ds)
  | spaced {c : Char} {d : ℕ} {cs : List Char} {ds : List ℕ} :
      digit? c = some d → Digits cs ds → Digits (c :: '_' :: cs) (d :: ds)

/-- An integer without blanks around it, at most as long as integers may be. -/
inductive Signed : List Char → ℤ → Prop
  | plain {cs : List Char} {ds : List ℕ} :
      Digits cs ds → ds.length ≤ maxDigits → Signed cs (ofDigits ds)
  | plus {cs : List Char} {ds : List ℕ} :
      Digits cs ds → ds.length ≤ maxDigits → Signed ('+' :: cs) (ofDigits ds)
  | minus {cs : List Char} {ds : List ℕ} :
      Digits cs ds → ds.length ≤ maxDigits → Signed ('-' :: cs) (-(ofDigits ds : ℤ))

/-- The notation of integers: blanks may stand at both ends. -/
def Numeral (cs : List Char) (n : ℤ) : Prop :=
  ∃ left mid right, cs = left ++ (mid ++ right) ∧ (∀ c ∈ left, isEdgeBlank c = true) ∧
    (∀ c ∈ right, isEdgeBlank c = true) ∧ Signed mid n

section Numerals

variable {c : Char} {cs left mid right : List Char} {ds : List ℕ} {edge : Char → Bool} {n : ℤ}

/-- What may stand behind a digit: nothing, more digits, or those behind an underscore. -/
theorem digits_cons_iff : Digits (c :: cs) ds ↔ ∃ d es, digit? c = some d ∧
    ((cs = [] ∧ es = []) ∨ Digits cs es ∨ ∃ rest, cs = '_' :: rest ∧ Digits rest es) ∧
      d :: es = ds := by
  constructor
  · intro h
    cases h with
    | last hc => exact ⟨_, _, hc, .inl ⟨rfl, rfl⟩, rfl⟩
    | next hc h => exact ⟨_, _, hc, .inr (.inl h), rfl⟩
    | spaced hc h => exact ⟨_, _, hc, .inr (.inr ⟨_, rfl, h⟩), rfl⟩
  · rintro ⟨d, es, hc, ⟨rfl, rfl⟩ | h | ⟨rest, rfl, h⟩, rfl⟩
    · exact .last hc
    · exact .next hc h
    · exact .spaced hc h

theorem not_digits_cons (h : digit? c = none) : ¬ Digits (c :: cs) ds := by
  rw [digits_cons_iff]
  rintro ⟨d, es, hc, -⟩
  rw [h] at hc
  cases hc

/-- The digits are read from both states: in front of a digit, and behind one. -/
theorem digitsFrom_eq_some (cs : List Char) : ∀ ds : List ℕ,
    (digitsFrom false cs = some ds ↔ Digits cs ds) ∧
    (digitsFrom true cs = some ds ↔
      (cs = [] ∧ ds = []) ∨ Digits cs ds ∨ ∃ rest, cs = '_' :: rest ∧ Digits rest ds) := by
  induction cs with
  | nil =>
    intro ds
    have hnone : ¬ Digits [] ds := by rintro ⟨⟩
    simp [digitsFrom, hnone, eq_comm]
  | cons c rest ih =>
    intro ds
    by_cases hc : c = '_'
    · subst hc
      have hnone : ¬ Digits ('_' :: rest) ds := not_digits_cons (by decide)
      simp [digitsFrom, hnone, ih]
    · -- a digit is read the same way in both states
      have hread : ∀ after, digitsFrom after (c :: rest) = some ds ↔ Digits (c :: rest) ds := by
        intro after
        rw [digitsFrom.eq_3 _ _ _ hc, digits_cons_iff]
        simp only [Option.bind_eq_some_iff, Option.map_eq_some_iff, ih, exists_and_left]
      simp [hread, hc]

theorem natural?_eq_some {k : ℕ} : natural? cs = some k ↔
    ∃ ds, Digits cs ds ∧ ds.length ≤ maxDigits ∧ ofDigits ds = k := by
  simp [natural?, Option.bind_eq_some_iff, (digitsFrom_eq_some cs _).1]

theorem digit?_of_isBlank (h : isBlank c = true) : digit? c = none := by
  have hcodes : ∀ n ∈ Source.blankCodes, digit? (Char.ofNat n) = none := by decide +kernel
  have := hcodes c.toNat (Source.mem_blankCodes h)
  rwa [Char.ofNat_toNat] at this

theorem Digits.not_blank (h : Digits cs ds) : ∀ c ∈ cs, isBlank c = false := by
  have hdigit : ∀ {c d}, digit? c = some d → isBlank c = false := by
    intro c d hc
    by_contra hblank
    rw [digit?_of_isBlank (by simpa using hblank)] at hc
    cases hc
  induction h with
  | last hc => simpa using hdigit hc
  | next hc _ ih => exact List.forall_mem_cons.2 ⟨hdigit hc, ih⟩
  | spaced hc _ ih =>
    exact List.forall_mem_cons.2 ⟨hdigit hc, List.forall_mem_cons.2 ⟨by decide, ih⟩⟩

theorem Signed.not_edge (h : Signed cs n) : ∀ c ∈ cs, isEdgeBlank c = false := by
  intro c hc
  refine isEdgeBlank_of_not ?_
  cases h with
  | plain h => exact h.not_blank c hc
  | plus h =>
    rcases List.mem_cons.1 hc with rfl | hc
    · decide
    · exact h.not_blank c hc
  | minus h =>
    rcases List.mem_cons.1 hc with rfl | hc
    · decide
    · exact h.not_blank c hc

theorem dropWhile_edges (hleft : ∀ c ∈ left, edge c = true) (hmid : ∀ c ∈ mid, edge c = false)
    (hne : mid ≠ []) (right : List Char) :
    (left ++ (mid ++ right)).dropWhile edge = mid ++ right := by
  obtain ⟨c, rest, rfl⟩ := List.exists_cons_of_ne_nil hne
  rw [List.dropWhile_append_of_pos hleft, List.cons_append, List.dropWhile_cons_of_neg]
  simp [hmid c List.mem_cons_self]

/-- Only what stands at the ends is taken away. -/
theorem trimBy_edges (hleft : ∀ c ∈ left, edge c = true) (hmid : ∀ c ∈ mid, edge c = false)
    (hright : ∀ c ∈ right, edge c = true) (hne : mid ≠ []) :
    trimBy edge (left ++ (mid ++ right)) = mid := by
  have hback : (right.reverse ++ (mid.reverse ++ [])).dropWhile edge = mid.reverse ++ [] :=
    dropWhile_edges (fun c hc => hright c (List.mem_reverse.1 hc))
      (fun c hc => hmid c (List.mem_reverse.1 hc)) (by simpa using hne) []
  rw [trimBy, dropWhile_edges hleft hmid hne, List.reverse_append]
  simpa using congrArg List.reverse hback

/-- Something at the ends is taken away. -/
theorem exists_edges (edge : Char → Bool) (cs : List Char) : ∃ left right,
    cs = left ++ (trimBy edge cs ++ right) ∧ (∀ c ∈ left, edge c = true) ∧
      ∀ c ∈ right, edge c = true := by
  let rest := cs.dropWhile edge
  refine ⟨cs.takeWhile edge, (rest.reverse.takeWhile edge).reverse, ?_,
    fun c hc => List.mem_takeWhile_imp hc, fun c hc =>
      List.mem_takeWhile_imp (List.mem_reverse.1 hc)⟩
  have hrest : trimBy edge cs ++ (rest.reverse.takeWhile edge).reverse = rest := by
    rw [trimBy, ← List.reverse_append, List.takeWhile_append_dropWhile, List.reverse_reverse]
  rw [hrest, List.takeWhile_append_dropWhile]

/-- A sign is no digit, so the three forms exclude each other. -/
theorem integer?_eq_some_signed {s : String} :
    integer? s = some n ↔ Signed (trimBy isEdgeBlank s.toList) n := by
  unfold integer?
  split
  · rename_i rest hcons
    rw [hcons]
    simp only [Option.map_eq_some_iff, Option.bind_eq_bind, Option.bind_eq_some_iff,
      Option.pure_def, Option.some_inj, natural?_eq_some]
    constructor
    · rintro ⟨m, ⟨k, ⟨ds, hds, hlength, rfl⟩, rfl⟩, rfl⟩
      exact .minus hds hlength
    · intro h
      cases h with
      | plain hds => exact absurd hds (not_digits_cons (by decide))
      | minus hds hlength => exact ⟨_, ⟨_, ⟨_, hds, hlength, rfl⟩, rfl⟩, rfl⟩
  · rename_i rest hcons
    rw [hcons]
    simp only [Option.map_eq_some_iff, Option.bind_eq_bind, Option.bind_eq_some_iff,
      Option.pure_def, Option.some_inj, natural?_eq_some]
    constructor
    · rintro ⟨m, ⟨k, ⟨ds, hds, hlength, rfl⟩, rfl⟩, rfl⟩
      exact .plus hds hlength
    · intro h
      cases h with
      | plain hds => exact absurd hds (not_digits_cons (by decide))
      | plus hds hlength => exact ⟨_, ⟨_, ⟨_, hds, hlength, rfl⟩, rfl⟩, rfl⟩
  · rename_i hminus hplus
    simp only [Option.map_eq_some_iff, Option.bind_eq_bind, Option.bind_eq_some_iff,
      Option.pure_def, Option.some_inj, natural?_eq_some]
    constructor
    · rintro ⟨m, ⟨k, ⟨ds, hds, hlength, rfl⟩, rfl⟩, rfl⟩
      exact .plain hds hlength
    · intro h
      generalize trimBy isEdgeBlank s.toList = cs at h hminus hplus
      cases h with
      | plain hds hlength => exact ⟨_, ⟨_, ⟨_, hds, hlength, rfl⟩, rfl⟩, rfl⟩
      | plus => exact absurd rfl (hplus _)
      | minus => exact absurd rfl (hminus _)

/-- **The notation of integers is what is read as one.** -/
theorem integer?_eq_some {s : String} : integer? s = some n ↔ Numeral s.toList n := by
  rw [integer?_eq_some_signed]
  constructor
  · intro h
    obtain ⟨left, right, hs, hleft, hright⟩ := exists_edges isEdgeBlank s.toList
    exact ⟨left, _, right, hs, hleft, hright, h⟩
  · rintro ⟨left, mid, right, hs, hleft, hright, h⟩
    have hne : mid ≠ [] := by
      rintro rfl
      cases h with
      | plain hds => cases hds
    rwa [hs, trimBy_edges hleft h.not_edge hright hne]

theorem integer?_ofList : integer? (String.ofList cs) = some n ↔ Numeral cs n := by
  rw [integer?_eq_some, String.toList_ofList]

end Numerals

/-! ### Parts -/

/-- The parts hold no separator, and make up the whole again. -/
theorem splitChars_spec (separator : Char) (cs : List Char) :
    (∀ part ∈ splitChars separator cs, separator ∉ part) ∧
      [separator].intercalate (splitChars separator cs) = cs := by
  induction cs with
  | nil => simp [splitChars]
  | cons c rest ih =>
    obtain ⟨hparts, hwhole⟩ := ih
    obtain ⟨part, parts, hcons⟩ := List.exists_cons_of_length_pos (l := splitChars separator rest)
      (by rw [length_splitChars]; omega)
    rw [hcons] at hparts hwhole
    rw [List.forall_mem_cons] at hparts
    by_cases hc : c = separator
    · subst hc
      simpa [splitChars, hcons, hwhole] using hparts
    · simp only [splitChars, beq_iff_eq, hc, if_false, hcons, List.forall_mem_cons]
      refine ⟨⟨by simp [Ne.symm hc, hparts.1], hparts.2⟩, ?_⟩
      cases parts <;> simp_all

theorem mem_intercalate {c : Char} {part between : List Char} {parts : List (List Char)}
    (hpart : part ∈ parts) (hc : c ∈ part) : c ∈ between.intercalate parts := by
  induction parts with
  | nil => cases hpart
  | cons first rest ih =>
    cases rest with
    | nil =>
      obtain rfl := List.mem_singleton.1 hpart
      simpa using hc
    | cons second rest =>
      rw [List.intercalate_cons_cons]
      rcases List.mem_cons.1 hpart with rfl | hpart
      · exact List.mem_append_left _ (List.mem_append_left _ hc)
      · exact List.mem_append_right _ (ih hpart)

end Text

/-! ### The notation of references -/

open Source (Plain)

/-- The text of a reference.  Behind an at sign everything is a number; without one there are at most
three parts between colons. -/
inductive Reference.Spells : Reference → List Char → Prop
  | line {f : String} {number : List Char} {n : ℤ} :
      '@' ∉ f.toList → Text.Numeral number n → Spells (.line f n) (f.toList ++ '@' :: number)
  | entry {f : String} : Plain f → f ≠ "" → Spells (.entry f) f.toList
  | block {f b : String} : Plain f → Plain b → Spells (.block f b) (f.toList ++ ':' :: b.toList)
  | index {f b i : String} : Plain f → Plain b → Plain i →
      Spells (.index f b i) (f.toList ++ ':' :: (b.toList ++ ':' :: i.toList))

section Notation

variable {cs : List Char} {r : Reference} {f b i : String}

theorem ofTrimmed_line (hf : '@' ∉ f.toList) (number : List Char) :
    Reference.ofTrimmed (f.toList ++ '@' :: number) =
      match Text.integer? (String.ofList number) with
      | some n => .ok (.line f n)
      | none => .error (.badLine (String.ofList (f.toList ++ '@' :: number))) := by
  have hpass : ∀ c ∈ f.toList, (c != '@') = true := by
    intro c hc
    simp only [bne_iff_ne]
    rintro rfl
    exact hf hc
  have htake : (f.toList ++ '@' :: number).takeWhile (· != '@') = f.toList := by
    rw [List.takeWhile_append_of_pos hpass]
    simp
  have hdrop : ((f.toList ++ '@' :: number).dropWhile (· != '@')).drop 1 = number := by
    rw [List.dropWhile_append_of_pos hpass]
    simp
  unfold Reference.ofTrimmed
  rw [if_neg (by simp), if_pos (by simp)]
  cases hn : Text.integer? (String.ofList number) <;>
    simp only [htake, hdrop, hn, String.ofList_toList]

theorem ofTrimmed_parts (hne : cs ≠ []) (hat : '@' ∉ cs) : Reference.ofTrimmed cs =
    match (Text.splitChars ':' cs).map String.ofList with
    | [f] => .ok (.entry f)
    | [f, b] => .ok (.block f b)
    | [f, b, i] => .ok (.index f b i)
    | _ => .error (.malformed (String.ofList cs)) := by
  unfold Reference.ofTrimmed
  exact (if_neg (by simpa using hne)).trans (if_neg (by simpa using hat))

/-- **A text is a reference when it spells it.** -/
theorem ofTrimmed_eq_ok : Reference.ofTrimmed cs = .ok r ↔ r.Spells cs := by
  constructor
  · intro h
    by_cases hne : cs = []
    · subst hne
      cases h
    by_cases hat : '@' ∈ cs
    · obtain ⟨before, number, rfl, hbefore⟩ := List.eq_append_cons_of_mem hat
      rw [← String.toList_ofList (l := before)] at h hbefore ⊢
      rw [ofTrimmed_line hbefore] at h
      split at h
      · rename_i n hn
        cases h
        exact .line hbefore (Text.integer?_ofList.1 hn)
      · cases h
    · rw [ofTrimmed_parts hne hat] at h
      obtain ⟨hcolon, hwhole⟩ := Text.splitChars_spec ':' cs
      generalize Text.splitChars ':' cs = parts at h hcolon hwhole
      obtain ⟨names, rfl⟩ : ∃ names : List String, parts = names.map String.toList :=
        ⟨parts.map String.ofList, by simp [Function.comp_def]⟩
      have hnames : (names.map String.toList).map String.ofList = names := by
        simp [Function.comp_def]
      rw [hnames] at h
      subst hwhole
      have hplain : ∀ name ∈ names, Plain name := fun name hname =>
        ⟨hcolon _ (List.mem_map_of_mem hname), fun hc =>
          hat (Text.mem_intercalate (List.mem_map_of_mem hname) hc)⟩
      rcases names with _ | ⟨f, _ | ⟨b, _ | ⟨i, _ | ⟨x, rest⟩⟩⟩⟩
      · cases h
      · cases h
        have hf : f ≠ "" := by simpa using hne
        simpa using Reference.Spells.entry (hplain f (by simp)) hf
      · cases h
        simpa using Reference.Spells.block (hplain f (by simp)) (hplain b (by simp))
      · cases h
        simpa using Reference.Spells.index (hplain f (by simp)) (hplain b (by simp))
          (hplain i (by simp))
      · cases h
  · intro h
    cases h with
    | line hf hn => rw [ofTrimmed_line hf, Text.integer?_ofList.2 hn]
    | entry hf hne =>
      rw [ofTrimmed_parts (by simpa using hne) hf.2, Text.splitChars_of_notMem hf.1]
      simp
    | block hf hb =>
      rw [ofTrimmed_parts (by simp) (by simp [hf.2, hb.2]), Text.splitChars_append hf.1,
        Text.splitChars_of_notMem hb.1]
      simp
    | index hf hb hi =>
      rw [ofTrimmed_parts (by simp) (by simp [hf.2, hb.2, hi.2]), Text.splitChars_append hf.1,
        Text.splitChars_append hb.1, Text.splitChars_of_notMem hi.1]
      simp

end Notation

/-! ### Programs that references are about -/

/-- The programs of descriptions, where the names of functions and those of blocks are keys, and the
programs of source texts. -/
inductive Program.Accepted : Program → Prop
  | described {d : Document} {name : Option String} {M : Program} :
      d.Keyed → d.build name = .ok M → Accepted M
  | lowered {text name : String} {file : Option String} {host : Source.Host} {M : Program} :
      Program.ofSource text name file host = .ok M → Accepted M

namespace Program.Accepted

variable {M : Program} {f : Function} {b : Block}

theorem loaded (h : M.Accepted) : M.Loaded := by
  cases h with
  | described _ hbuild => exact .described hbuild
  | lowered hsource => exact .lowered hsource

theorem distinct (h : M.Accepted) : M.Distinct := by
  cases h with
  | @described d name M hkeys hbuild =>
    obtain ⟨-, rfl⟩ := Document.build_eq_ok.1 hbuild
    refine ⟨?_, fun f hf => ?_⟩
    · show ((d.functions.map fun f => f.2.described f.1).map (·.name)).Nodup
      rw [List.map_map]
      exact hkeys.1
    · obtain ⟨x, hx, rfl⟩ := List.mem_map.1 hf
      show ((x.2.blocks.map fun b => Lines.block b.1 b.2).map (·.name)).Nodup
      rw [List.map_map]
      exact hkeys.2 x hx
  | lowered hsource =>
    obtain ⟨-, -, top, -, hM⟩ := Program.ofSource_eq_ok.1 hsource
    exact lowered_distinct hM

/-- A function with a body has a block to start with. -/
theorem entryBlock (h : M.Accepted) (hf : f ∈ M.functions) (hbody : f.blocks ≠ []) :
    ∃ b ∈ f.blocks, f.entryBlock? = some b := by
  cases h with
  | described _ hbuild =>
    obtain ⟨hgrammar, rfl⟩ := Document.build_eq_ok.1 hbuild
    obtain ⟨⟨fname, spec⟩, hx, rfl⟩ := List.mem_map.1 hf
    obtain ⟨name, hname, hentry⟩ : ∃ name ∈ spec.blocks.map (·.1),
        (spec.described fname).entry = some name := by
      cases hgiven : spec.entry with
      | some entry =>
        exact ⟨entry, (hgrammar _ hx).2 entry hgiven, by simp [FunctionSpec.described, hgiven]⟩
      | none =>
        -- no entry is given, so it is the first block
        obtain ⟨x, rest, hblocks⟩ := List.exists_cons_of_ne_nil (l := spec.blocks) (by
          simpa [FunctionSpec.described] using hbody)
        exact ⟨x.1, by simp [hblocks], by simp [FunctionSpec.described, hgiven, hblocks]⟩
    obtain ⟨x, hx, rfl⟩ := List.mem_map.1 hname
    obtain ⟨b, hb⟩ := Function.block?_of_has (f := spec.described fname)
      ⟨_, List.mem_map_of_mem hx, rfl⟩
    exact ⟨b, (Function.mem_of_block? hb).1, by rw [Function.entryBlock?, hentry]; exact hb⟩
  | lowered hsource =>
    obtain ⟨-, -, top, -, hM⟩ := Program.ofSource_eq_ok.1 hsource
    obtain ⟨scope, stmts, lastLine, -, hlowered⟩ := Source.lowered_function hM hf
    obtain ⟨b, hb, hentry, -⟩ := Source.lowerFunction_entryBlock? hlowered
    exact ⟨b, List.mem_of_mem_head? hb, hentry⟩

theorem length_pos (h : M.Accepted) (hf : f ∈ M.functions) (hb : b ∈ f.blocks) :
    0 < b.instructions.length :=
  (h.loaded.wellFormed f hf b hb).length_pos

theorem function?_eq_some (h : M.Accepted) {name : String} :
    M.function? name = some f ↔ f ∈ M.functions ∧ f.name = name := by
  refine ⟨Program.mem_of_function?, ?_⟩
  rintro ⟨hf, rfl⟩
  exact Program.function?_of_mem h.distinct.1 hf

theorem block?_eq_some (h : M.Accepted) (hf : f ∈ M.functions) {name : String} :
    f.block? name = some b ↔ b ∈ f.blocks ∧ b.name = name := by
  refine ⟨Function.mem_of_block?, ?_⟩
  rintro ⟨hb, rfl⟩
  exact Function.block?_of_mem (h.distinct.2 f hf) hb

end Program.Accepted

/-! ### Where a reference leads -/

/-- The position that a reference leads to: the first instruction on a line in the order of the
blocks, the beginning of the block that the function starts with, that of a block, or the
instruction at an index. -/
inductive Program.Leads (M : Program) : Reference → Position → Prop
  | line {f : Function} {n : ℤ} {p : Position} {i : Instruction}
      {before after : List (Position × Instruction)} :
      f ∈ M.functions → f.positions = before ++ (p, i) :: after → i.line = n →
        (∀ e ∈ before, e.2.line ≠ n) → Leads M (.line f.name n) p
  | entry {f : Function} {b : Block} :
      f ∈ M.functions → f.entryBlock? = some b → Leads M (.entry f.name) ⟨f.name, b.name, 0⟩
  | block {f : Function} {b : Block} :
      f ∈ M.functions → b ∈ f.blocks → Leads M (.block f.name b.name) ⟨f.name, b.name, 0⟩
  | index {f : Function} {b : Block} {number : String} {n : ℕ} :
      f ∈ M.functions → b ∈ f.blocks → Text.Numeral number.toList n → n < b.instructions.length →
        Leads M (.index f.name b.name number) ⟨f.name, b.name, n⟩

section Leads

variable {M : Program} {f : Function} {b : Block} {r : Reference} {p : Position}
  {name text : String} {n : ℤ}

theorem definedFunction_eq_ok (h : M.Accepted) :
    M.definedFunction name = .ok f ↔ (f ∈ M.functions ∧ f.name = name) ∧ f.blocks ≠ [] := by
  rw [← h.function?_eq_some]
  unfold Program.definedFunction
  cases M.function? name with
  | none => simp
  | some g =>
    have hdeclaration : g.isDeclaration = true ↔ g.blocks = [] := by
      simp [Function.isDeclaration]
    by_cases hbody : g.blocks = []
    · simp only [hdeclaration, hbody, if_true, reduceCtorEq, false_iff, not_and, not_not,
        Option.some_inj]
      rintro rfl
      exact hbody
    · simp only [hdeclaration, hbody, if_false, Except.ok.injEq, Option.some_inj]
      refine ⟨?_, fun h => h.1⟩
      rintro rfl
      exact ⟨rfl, hbody⟩

theorem blockNamed_eq_ok (h : M.Accepted) (hf : f ∈ M.functions) :
    f.blockNamed name = .ok b ↔ b ∈ f.blocks ∧ b.name = name := by
  rw [← h.block?_eq_some hf]
  unfold Function.blockNamed
  cases f.block? name <;> simp

theorem positionAt_eq_ok : f.positionAt b n = .ok p ↔
    ∃ k : ℕ, n = k ∧ k < b.instructions.length ∧ p = ⟨f.name, b.name, k⟩ := by
  unfold Function.positionAt
  constructor
  · intro h
    split_ifs at h with hn
    simp only [Bool.and_eq_true, decide_eq_true_eq] at hn
    cases h
    exact ⟨n.toNat, by omega, by omega, rfl⟩
  · rintro ⟨k, rfl, hk, rfl⟩
    simp [hk]

/-- **A reference that is read leads to the position that is described.** -/
theorem locate_eq_ok (h : M.Accepted) : M.locate text r = .ok p ↔ M.Leads r p := by
  constructor
  · intro hp
    cases r with
    | line name line =>
      obtain ⟨f, hdefined, hrest⟩ := bind_eq_ok.1 hp
      obtain ⟨⟨hf, rfl⟩, -⟩ := (definedFunction_eq_ok h).1 hdefined
      split at hrest
      · rename_i q i hfind
        cases hrest
        obtain ⟨hline, before, after, heq, hbefore⟩ := List.find?_eq_some_iff_append.1 hfind
        exact .line hf heq (by simpa using hline) (by simpa using hbefore)
      · cases hrest
    | entry name =>
      obtain ⟨f, hdefined, hrest⟩ := bind_eq_ok.1 hp
      obtain ⟨⟨hf, rfl⟩, -⟩ := (definedFunction_eq_ok h).1 hdefined
      split at hrest
      · rename_i b hb
        split_ifs at hrest
        cases hrest
        exact .entry hf hb
      · cases hrest
    | block name block =>
      obtain ⟨f, hdefined, hrest⟩ := bind_eq_ok.1 hp
      obtain ⟨⟨hf, rfl⟩, -⟩ := (definedFunction_eq_ok h).1 hdefined
      obtain ⟨b, hnamed, hposition⟩ := bind_eq_ok.1 hrest
      obtain ⟨hb, rfl⟩ := (blockNamed_eq_ok h hf).1 hnamed
      obtain ⟨k, hk, -, rfl⟩ := positionAt_eq_ok.1 hposition
      obtain rfl : k = 0 := by omega
      exact .block hf hb
    | index name block number =>
      obtain ⟨f, hdefined, hrest⟩ := bind_eq_ok.1 hp
      obtain ⟨⟨hf, rfl⟩, -⟩ := (definedFunction_eq_ok h).1 hdefined
      obtain ⟨b, hnamed, hposition⟩ := bind_eq_ok.1 hrest
      obtain ⟨hb, rfl⟩ := (blockNamed_eq_ok h hf).1 hnamed
      split at hposition
      · rename_i n hn
        obtain ⟨k, rfl, hk, rfl⟩ := positionAt_eq_ok.1 hposition
        exact .index hf hb (Text.integer?_eq_some.1 hn) hk
      · cases hposition
  · intro hp
    have hdefined : ∀ {f : Function}, f ∈ M.functions → f.blocks ≠ [] →
        M.definedFunction f.name = .ok f := fun hf hbody =>
      (definedFunction_eq_ok h).2 ⟨⟨hf, rfl⟩, hbody⟩
    cases hp with
    | @line f n p i before after hf heq hline hbefore =>
      have hbody : f.blocks ≠ [] := by
        intro hnil
        simp [Function.positions, hnil] at heq
      have hfind : f.positions.find? (fun e => e.2.line == n) = some (p, i) :=
        List.find?_eq_some_iff_append.2 ⟨by simp [hline], before, after, heq, by simpa using hbefore⟩
      refine bind_eq_ok.2 ⟨f, hdefined hf hbody, ?_⟩
      simp only [hfind]
      rfl
    | @entry f b hf hb =>
      obtain ⟨name, -, hnamed⟩ := Option.bind_eq_some_iff.1 hb
      have hmem := (Function.mem_of_block? hnamed).1
      have hfirst : b.instructions.isEmpty = false := by
        simpa using List.ne_nil_of_length_pos (h.length_pos hf hmem)
      refine bind_eq_ok.2 ⟨f, hdefined hf (List.ne_nil_of_mem hmem), ?_⟩
      simp only [hb, hfirst]
      rfl
    | @block f b hf hb =>
      refine bind_eq_ok.2 ⟨f, hdefined hf (List.ne_nil_of_mem hb),
        bind_eq_ok.2 ⟨b, (blockNamed_eq_ok h hf).2 ⟨hb, rfl⟩, ?_⟩⟩
      exact positionAt_eq_ok.2 ⟨0, rfl, h.length_pos hf hb, rfl⟩
    | @index f b number n hf hb hn hk =>
      refine bind_eq_ok.2 ⟨f, hdefined hf (List.ne_nil_of_mem hb),
        bind_eq_ok.2 ⟨b, (blockNamed_eq_ok h hf).2 ⟨hb, rfl⟩, ?_⟩⟩
      simp only [Text.integer?_eq_some.2 hn]
      exact positionAt_eq_ok.2 ⟨n, rfl, hk, rfl⟩

/-- What a reference leads to is an instruction of the program. -/
theorem Program.Leads.listed (hp : M.Leads r p) (h : M.Accepted) :
    ∃ i, (p, i) ∈ M.positions ∧ M.instruction? p = some i := by
  have hlisted : ∃ f ∈ M.functions, ∃ i, (p, i) ∈ f.positions := by
    have hat : ∀ {f : Function} {b : Block} {n : ℕ}, f ∈ M.functions → b ∈ f.blocks →
        n < b.instructions.length → ∃ f' ∈ M.functions, ∃ i,
          ((⟨f.name, b.name, n⟩ : Position), i) ∈ f'.positions := fun hf hb hn =>
      ⟨_, hf, _, mem_function_positions.2 ⟨_, hb, rfl, rfl, List.getElem?_eq_getElem hn⟩⟩
    cases hp with
    | line hf heq => exact ⟨_, hf, _, heq ▸ List.mem_append_right _ List.mem_cons_self⟩
    | entry hf hb =>
      obtain ⟨name, -, hnamed⟩ := Option.bind_eq_some_iff.1 hb
      have hmem := (Function.mem_of_block? hnamed).1
      exact hat hf hmem (h.length_pos hf hmem)
    | block hf hb => exact hat hf hb (h.length_pos hf hb)
    | index hf hb _ hn => exact hat hf hb hn
  obtain ⟨f, hf, i, hi⟩ := hlisted
  have hpositions : (p, i) ∈ M.positions := List.mem_flatMap.2 ⟨f, hf, hi⟩
  exact ⟨i, hpositions, (mem_positions_iff h.distinct).1 hpositions⟩

end Leads

/-! ### References that are refused -/

section Refused

variable {M : Program} {r : Reference} {text : String} {e : ReferenceError}

theorem bind_eq_error {ε α β : Type} {x : Except ε α} {f : α → Except ε β} {e : ε} :
    x >>= f = .error e ↔ x = .error e ∨ ∃ a, x = .ok a ∧ f a = .error e := by
  cases x <;> simp [bind, Except.bind]

theorem definedFunction_refused {name : String} (h : M.definedFunction name = .error e)
    (other : String) : e ≠ .noEntry other := by
  rintro rfl
  unfold Program.definedFunction at h
  split at h
  · cases h
  · split at h <;> cases h

theorem blockNamed_refused {f : Function} {name : String} (h : f.blockNamed name = .error e)
    (other : String) : e ≠ .noEntry other := by
  rintro rfl
  unfold Function.blockNamed at h
  split at h <;> cases h

theorem positionAt_refused {f : Function} {b : Block} {n : ℤ} (h : f.positionAt b n = .error e)
    (name : String) : e ≠ .noEntry name := by
  rintro rfl
  unfold Function.positionAt at h
  split at h <;> cases h

/-- Every function with a body has a first instruction, so it is never missed. -/
theorem locate_refused (hM : M.Accepted) (h : M.locate text r = .error e) (name : String) :
    e ≠ .noEntry name := by
  cases r with
  | line =>
    rcases bind_eq_error.1 h with hdefined | ⟨f, -, h⟩
    · exact definedFunction_refused hdefined name
    · split at h <;> cases h
      simp
  | entry fname =>
    rcases bind_eq_error.1 h with hdefined | ⟨f, hdefined, h⟩
    · exact definedFunction_refused hdefined name
    · -- there is a block to start with, and it has a first instruction
      obtain ⟨⟨hf, -⟩, hbody⟩ := (definedFunction_eq_ok hM).1 hdefined
      obtain ⟨b, hb, hentry⟩ := hM.entryBlock hf hbody
      have hfirst : b.instructions.isEmpty = false := by
        simpa using List.ne_nil_of_length_pos (hM.length_pos hf hb)
      simp only [hentry, hfirst] at h
      cases h
  | block =>
    rcases bind_eq_error.1 h with hdefined | ⟨f, -, h⟩
    · exact definedFunction_refused hdefined name
    rcases bind_eq_error.1 h with hnamed | ⟨b, -, h⟩
    · exact blockNamed_refused hnamed name
    · exact positionAt_refused h name
  | index =>
    rcases bind_eq_error.1 h with hdefined | ⟨f, -, h⟩
    · exact definedFunction_refused hdefined name
    rcases bind_eq_error.1 h with hnamed | ⟨b, -, h⟩
    · exact blockNamed_refused hnamed name
    split at h
    · exact positionAt_refused h name
    · cases h
      simp

end Refused

/-- **A reference names a position, or it is refused as a reference.**  In a program of a description
or a source text, every text leads to an instruction that is listed there, at its index in its block,
or it is refused with the error of references; no other error is possible.  It leads to a position
exactly when without the blanks at its ends it spells a reference that leads there. -/
theorem resolve_closed {M : Program} (hM : M.Accepted) (text : String) :
    ((∃ p i, M.resolve text = .ok p ∧ (p, i) ∈ M.positions ∧ M.instruction? p = some i) ∨
      ∃ e, M.resolve text = .error e ∧ e.notice.word = "PositionReferenceError") ∧
    (∀ f ∈ M.functions, f.blocks ≠ [] → ∃ b ∈ f.blocks, f.entryBlock? = some b) ∧
    ∀ p, M.resolve text = .ok p ↔
      ∃ r : Reference, r.Spells (Text.trimChars text.toList) ∧ M.Leads r p := by
  have hiff : ∀ p, M.resolve text = .ok p ↔
      ∃ r : Reference, r.Spells (Text.trimChars text.toList) ∧ M.Leads r p := by
    intro p
    rw [Program.resolve, bind_eq_ok]
    simp only [Reference.parse, ofTrimmed_eq_ok, locate_eq_ok hM]
  refine ⟨?_, fun f hf hbody => hM.entryBlock hf hbody, hiff⟩
  cases h : M.resolve text with
  | ok p =>
    obtain ⟨r, -, hp⟩ := (hiff p).1 h
    obtain ⟨i, hlisted, hi⟩ := hp.listed hM
    exact .inl ⟨p, i, rfl, hlisted, hi⟩
  | error e =>
    refine .inr ⟨e, rfl, notice_word fun name => ?_⟩
    rcases bind_eq_error.1 h with hparse | ⟨r, -, hlocate⟩
    · exact ofTrimmed_refused hparse name
    · exact locate_refused hM hlocate name

/-- An index with an underscore leads into the loop, and a function that is only declared is
refused. -/
theorem resolve_closed_mixed : Document.mixed.Keyed ∧
    ∃ M, Document.mixed.build none = .ok M ∧
      M.resolve "\tmain:top:+0_1 " = .ok ⟨"main", "top", 1⟩ ∧
      ∃ e, M.resolve "log" = .error e ∧ e.notice.word = "PositionReferenceError" := by
  have hkeys : Document.mixed.Keyed := by decide
  have hbuild : Document.mixed.build none = .ok (Document.mixed.described none) :=
    Document.build_eq_ok.2 ⟨by decide +kernel, rfl⟩
  have hM : (Document.mixed.described none).Accepted := .described hkeys hbuild
  refine ⟨hkeys, _, hbuild, ?_, ?_⟩
  · have hnumber : Text.Numeral "+0_1".toList (1 : ℕ) :=
      Text.integer?_eq_some.1 (by decide)
    have hspells : (Reference.index "main" "top" "+0_1").Spells
        (Text.trimChars "\tmain:top:+0_1 ".toList) :=
      .index (by decide) (by decide) (by decide)
    have hleads : (Document.mixed.described none).Leads (.index "main" "top" "+0_1")
        ⟨"main", "top", 1⟩ :=
      .index (f := (Document.mixed.functions.headD default).2.described "main")
        (b := Lines.block "top" [" Call  log now", "nop", "Switch top top out"])
        List.mem_cons_self (List.mem_cons_of_mem _ List.mem_cons_self) hnumber (by decide)
    exact ((resolve_closed hM _).2.2 _).2 ⟨_, hspells, hleads⟩
  · have hlog : (Document.mixed.described none).resolve "log" = .error (.noBody "log") := by
      decide +kernel
    obtain ⟨p, i, hp, -⟩ | hrefused := (resolve_closed hM "log").1
    · rw [hlog] at hp
      cases hp
    · exact hrefused

end CallReach
