import CallReach.Proofs.Paths
import Mathlib.Data.List.Nodup
import Mathlib.Data.Option.Basic

/-!
# Blocks in the making

While statements are cut into blocks, some blocks are finished, one is being filled, and some have
been made and wait to be filled.

* `Named` : the name of a block tells its number, so no two blocks share a name.
* `Grows` : blocks keep their numbers and names, and instructions are only added at their ends.
* `Builder.Shape` : all blocks are finished but the current one and those that wait.
* `Adds`, `Straight`, `Ends`, `Jumps` : what the steps of the making do; they tell also what can be
  read in a function that is made of these blocks.
-/

namespace CallReach.Source

open Build

/-! ### Names -/

/-- The names that a block of a given number can have. -/
def Named (n : ℕ) (name : String) : Prop :=
  n = 0 ∧ name = "entry" ∨ ∃ word, name = word ++ "." ++ toString n

theorem toList_numbered (word : String) (n : ℕ) :
    (word ++ "." ++ toString n).toList = word.toList ++ '.' :: Nat.toDigits 10 n := by
  simp

theorem dot_notMem_toDigits (n : ℕ) : '.' ∉ Nat.toDigits 10 n := by
  intro h
  have := Nat.isDigit_of_mem_toDigits (by decide) (by decide) h
  revert this
  decide

/-- What stands behind the last dot of a text is the same for the same text. -/
theorem eq_of_dot_append {cs ds xs ys : List Char} (hx : '.' ∉ xs) (hy : '.' ∉ ys)
    (h : cs ++ '.' :: xs = ds ++ '.' :: ys) : xs = ys := by
  have key : ∀ cs xs : List Char, '.' ∉ xs →
      ((cs ++ '.' :: xs).reverse.takeWhile (· != '.')) = xs.reverse := by
    intro cs xs hx
    rw [List.reverse_append, List.reverse_cons, List.append_assoc,
      List.takeWhile_append_of_pos fun c hc => ?_]
    · simp
    · simp only [bne_iff_ne, ne_eq]
      rintro rfl
      exact hx (List.mem_reverse.1 hc)
  have hreverse := key cs xs hx
  rw [h, key ds ys hy] at hreverse
  exact (List.reverse_injective hreverse).symm

/-- The name of a block tells its number. -/
theorem Named.unique {n m : ℕ} {name : String} (hn : Named n name) (hm : Named m name) :
    n = m := by
  have entry : ∀ {word : String} {n : ℕ}, "entry" ≠ word ++ "." ++ toString n := by
    intro word n h
    have hdot : '.' ∈ "entry".toList := by
      rw [h, toList_numbered]
      simp
    revert hdot
    decide
  rcases hn with ⟨rfl, rfl⟩ | ⟨word, rfl⟩
  · rcases hm with ⟨rfl, -⟩ | ⟨word', h⟩
    · rfl
    · exact (entry h).elim
  · rcases hm with ⟨-, h⟩ | ⟨word', h⟩
    · exact (entry h.symm).elim
    · have hlist := congrArg String.toList h
      rw [toList_numbered, toList_numbered] at hlist
      have hdigits := eq_of_dot_append (dot_notMem_toDigits n) (dot_notMem_toDigits m) hlist
      have := congrArg (Nat.ofDigitChars 10 · 0) hdigits
      simpa [Nat.ofDigitChars_toDigits] using this

/-! ### Growing blocks -/

/-- Blocks keep their numbers and names, and instructions are only added at their ends. -/
def Grows (bs cs : List Block) : Prop :=
  ∀ (n : ℕ) (b : Block), bs[n]? = some b →
    ∃ c : Block, cs[n]? = some c ∧ c.name = b.name ∧ b.instructions <+: c.instructions

/-- A block of a given name is there. -/
def Present (bs : List Block) (name : String) : Prop := ∃ b ∈ bs, b.name = name

theorem Grows.refl (bs : List Block) : Grows bs bs :=
  fun _ b h => ⟨b, h, rfl, List.prefix_rfl⟩

theorem Grows.trans {bs cs ds : List Block} (h : Grows bs cs) (h' : Grows cs ds) :
    Grows bs ds := by
  intro n b hb
  obtain ⟨c, hc, hname, hpre⟩ := h n b hb
  obtain ⟨d, hd, hname', hpre'⟩ := h' n c hc
  exact ⟨d, hd, hname'.trans hname, hpre.trans hpre'⟩

theorem Grows.present {bs cs : List Block} (h : Grows bs cs) {name : String}
    (hb : Present bs name) : Present cs name := by
  obtain ⟨b, hb, rfl⟩ := hb
  obtain ⟨n, hn⟩ := List.mem_iff_getElem?.1 hb
  obtain ⟨c, hc, hname, -⟩ := h n b hn
  exact ⟨c, List.mem_of_getElem? hc, hname⟩

theorem grows_concat (bs : List Block) (b : Block) : Grows bs (bs ++ [b]) := by
  intro n c hc
  refine ⟨c, ?_, rfl, List.prefix_rfl⟩
  rw [List.getElem?_append_left (List.getElem?_eq_some_iff.1 hc).1]
  exact hc

/-- A block with one more instruction. -/
def withInstruction (i : Instruction) (b : Block) : Block :=
  { b with instructions := b.instructions ++ [i] }

theorem grows_modify (bs : List Block) (n : ℕ) (i : Instruction) :
    Grows bs (bs.modify n (withInstruction i)) := by
  intro m b hb
  rw [List.getElem?_modify, hb]
  by_cases h : n = m
  · exact ⟨withInstruction i b, by simp [h], rfl, List.prefix_append _ _⟩
  · exact ⟨b, by simp [h], rfl, List.prefix_rfl⟩

/-! ### The shape of a builder -/

namespace Builder

/-- The place where the next instruction goes. -/
def point? (b : Builder) : Option Place :=
  b.current.bind fun c => b.blocks[c]?.map fun block => ⟨block.name, block.instructions.length⟩

/-- The loop that statements are in, if there is one, has its blocks. -/
def KnowsLoop (b : Builder) (loop : Option Loop) : Prop :=
  ∀ l ∈ loop, Present b.blocks l.head.name ∧ Present b.blocks l.after.name

/-- All blocks are finished, but the current one, which nothing has ended, and those of the labels
`waiting`, which are empty. -/
structure Shape (b : Builder) (waiting : List Label) : Prop where
  named : ∀ (n : ℕ) block, b.blocks[n]? = some block → Named n block.name
  current : ∀ c, b.current = some c → ∃ block, b.blocks[c]? = some block ∧
    ∀ i ∈ block.instructions, i.kind.endsBlock = false
  waits : ∀ l ∈ waiting, b.blocks[l.number]? = some { name := l.name } ∧
    b.current ≠ some l.number
  distinct : (waiting.map (·.number)).Nodup
  closed : ∀ (n : ℕ) block, b.blocks[n]? = some block → b.current ≠ some n →
    n ∉ waiting.map (·.number) → block.Closed (Present b.blocks)

variable {b : Builder} {W V : List Label} {l : Label}

theorem Shape.perm (h : b.Shape W) (hp : W.Perm V) : b.Shape V where
  named := h.named
  current := h.current
  waits l hl := h.waits l (hp.mem_iff.2 hl)
  distinct := (hp.map _).nodup_iff.1 h.distinct
  closed n block hblock hn hnot := h.closed n block hblock hn fun hmem =>
    hnot ((hp.map _).mem_iff.1 hmem)

theorem Shape.present (h : b.Shape W) (hl : l ∈ W) : Present b.blocks l.name :=
  ⟨_, List.mem_of_getElem? (h.waits l hl).1, rfl⟩

theorem KnowsLoop.mono {b' : Builder} {loop : Option Loop} (h : b.KnowsLoop loop)
    (hg : Grows b.blocks b'.blocks) : b'.KnowsLoop loop :=
  fun l hl => ⟨hg.present (h l hl).1, hg.present (h l hl).2⟩

end Builder

/-- A function made of blocks that have grown out of those of a builder. -/
structure Completes (f : Function) (b : Builder) : Prop where
  wellFormed : f.WellFormed
  distinct : (f.blocks.map (·.name)).Nodup
  grows : Grows b.blocks f.blocks

theorem Completes.of_grows {f : Function} {b b' : Builder} (h : Completes f b')
    (hg : Grows b.blocks b'.blocks) : Completes f b :=
  ⟨h.wellFormed, h.distinct, hg.trans h.grows⟩

/-- In such a function the instructions are where the builder has put them. -/
theorem Completes.instruction? {f : Function} {b : Builder} (h : Completes f b) {c n : ℕ}
    {block : Block} {i : Instruction} (hblock : b.blocks[c]? = some block)
    (hi : block.instructions[n]? = some i) : f.instruction? ⟨block.name, n⟩ = some i := by
  obtain ⟨grown, hgrown, hname, hpre⟩ := h.grows c block hblock
  -- names are distinct, so the block that is found by its name is the grown one
  have hfind : f.block? block.name = some grown :=
    hname ▸ Function.block?_of_mem h.distinct (List.mem_of_getElem? hgrown)
  refine Function.instruction?_eq_some.2 ⟨grown, hfind, ?_⟩
  obtain ⟨more, hmore⟩ := hpre
  rw [← hmore, List.getElem?_append_left (List.getElem?_eq_some_iff.1 hi).1]
  exact hi

/-! ### Steps of the making -/

/-- A sequence of steps, one after the other. -/
theorem run_bind_eq {α β : Type} {m : Build α} {g : α → Build β} {b b' : Builder} {c : β} :
    (m >>= g).run b = some (c, b') ↔
      ∃ a b₁, m.run b = some (a, b₁) ∧ (g a).run b₁ = some (c, b') := by
  rw [StateT.run_bind, Option.bind_eq_bind, Option.bind_eq_some_iff, Prod.exists]

/-- A step that is done at once. -/
theorem run_inj {α : Type} {a c : α} {b b' : Builder} (h : some (a, b) = some (c, b')) :
    a = c ∧ b = b' :=
  Prod.mk.inj (Option.some.inj h)

/-- A condition on what is written does not change the blocks. -/
theorem run_guard_eq {p : Prop} [Decidable p] {b b' : Builder} {u : Unit} :
    (guard p : Build Unit).run b = some (u, b') ↔ p ∧ b = b' := by
  by_cases hp : p
  · simp only [guard, hp, if_true, true_and]
    exact ⟨fun h => (run_inj h).2, by rintro rfl; rfl⟩
  · simp only [guard, hp, if_false, false_and, iff_false]
    rintro ⟨⟩

/-- New blocks have been made; all else is as it was. -/
structure Adds (b b' : Builder) (ls : List Label) : Prop where
  grows : Grows b.blocks b'.blocks
  current : b'.current = b.current
  shape : ∀ before W, b.Shape (before ++ W) → b'.Shape (before ++ ls ++ W)
  point? : ∀ W, b.Shape W → b'.point? = b.point?

theorem Adds.refl (b : Builder) : Adds b b [] where
  grows := .refl _
  current := rfl
  shape before W h := by simpa using h
  point? _ _ := rfl

theorem Adds.trans {b b' b'' : Builder} {ls ms : List Label} (h : Adds b b' ls)
    (h' : Adds b' b'' ms) : Adds b b'' (ls ++ ms) where
  grows := h.grows.trans h'.grows
  current := h'.current.trans h.current
  shape before W hb := by
    have := h'.shape (before ++ ls) W (h.shape before W hb)
    rwa [List.append_assoc before ls ms] at this
  point? W hb := (h'.point? (ls ++ W) (h.shape [] W hb)).trans (h.point? W hb)

/-- The blocks with an empty one at their end. -/
def Builder.add (b : Builder) (name : String) : Builder :=
  { b with blocks := b.blocks ++ [{ name }] }

section Add

variable {b : Builder} {W : List Label} {name : String}

theorem add_old {n : ℕ} {block : Block} (h : b.blocks[n]? = some block) :
    (b.add name).blocks[n]? = some block := by
  rw [Builder.add, List.getElem?_append_left (List.getElem?_eq_some_iff.1 h).1]
  exact h

/-- Only the last block is new. -/
theorem add_cases {n : ℕ} {block : Block} (h : (b.add name).blocks[n]? = some block) :
    b.blocks[n]? = some block ∨ n = b.blocks.length ∧ block = { name } := by
  rw [Builder.add] at h
  rcases Nat.lt_trichotomy n b.blocks.length with hn | rfl | hn
  · rw [List.getElem?_append_left hn] at h
    exact Or.inl h
  · rw [List.getElem?_concat_length] at h
    exact Or.inr ⟨rfl, (Option.some.inj h).symm⟩
  · rw [List.getElem?_eq_none (by simp; omega)] at h
    cases h

/-- A new block waits. -/
theorem add_shape (hb : b.Shape W) (hname : Named b.blocks.length name) :
    (b.add name).Shape (⟨b.blocks.length, name⟩ :: W) where
  named n block hblock := by
    rcases add_cases hblock with hold | ⟨rfl, rfl⟩
    · exact hb.named n block hold
    · exact hname
  current c hc := by
    obtain ⟨block, hblock, hopen⟩ := hb.current c hc
    exact ⟨block, add_old hblock, hopen⟩
  waits l hl := by
    rcases List.mem_cons.1 hl with rfl | hl
    · refine ⟨List.getElem?_concat_length, fun hc => ?_⟩
      obtain ⟨block, hblock, -⟩ := hb.current _ hc
      simp at hblock
    · obtain ⟨hempty, hne⟩ := hb.waits l hl
      exact ⟨add_old hempty, hne⟩
  distinct := by
    refine List.nodup_cons.2 ⟨fun hmem => ?_, hb.distinct⟩
    obtain ⟨l, hl, hnumber⟩ := List.mem_map.1 hmem
    have hlt := (List.getElem?_eq_some_iff.1 (hb.waits l hl).1).1
    exact absurd hnumber hlt.ne
  closed n block hblock hn hnot := by
    simp only [List.map_cons, List.mem_cons, not_or] at hnot
    rcases add_cases hblock with hold | ⟨rfl, -⟩
    · refine (hb.closed n block hold hn hnot.2).mono fun name hname => ?_
      exact (grows_concat b.blocks _).present hname
    · exact absurd rfl hnot.1

theorem add_point? (hb : b.Shape W) : (b.add name).point? = b.point? := by
  cases hc : b.current with
  | none => simp [Builder.point?, Builder.add, hc]
  | some c =>
    obtain ⟨block, hblock, -⟩ := hb.current c hc
    have hcurrent : (b.add name).current = some c := hc
    simp [Builder.point?, hc, hcurrent, hblock, add_old hblock]

end Add

theorem newBlock_adds {word : String} {b b' : Builder} {l : Label}
    (h : (newBlock word).run b = some (l, b')) : Adds b b' [l] := by
  obtain ⟨rfl, rfl⟩ : Label.mk b.blocks.length (word ++ "." ++ toString b.blocks.length) = l ∧
      b.add (word ++ "." ++ toString b.blocks.length) = b' := run_inj h
  refine ⟨grows_concat _ _, rfl, fun before W hb => ?_, fun W hb => add_point? hb⟩
  refine (add_shape hb (Or.inr ⟨word, rfl⟩)).perm ?_
  rw [List.append_assoc]
  exact List.perm_middle.symm

theorem newBlockIf_adds {condition : Bool} {word : String} {b b' : Builder} {l : Option Label}
    (h : (newBlockIf condition word).run b = some (l, b')) :
    Adds b b' l.toList ∧ l.isSome = condition := by
  cases condition with
  | false =>
    obtain ⟨rfl, rfl⟩ := run_inj h
    exact ⟨.refl b, rfl⟩
  | true =>
    obtain ⟨label, b₁, hnew, hrest⟩ := run_bind_eq.1 h
    obtain ⟨rfl, rfl⟩ := run_inj hrest
    exact ⟨newBlock_adds hnew, rfl⟩

theorem newBlocks_adds {α : Type} {word : String} {items : List α} {b b' : Builder}
    {ls : List Label} (h : (newBlocks word items).run b = some (ls, b')) :
    Adds b b' ls ∧ ls.length = items.length := by
  induction items generalizing b ls with
  | nil =>
    obtain ⟨rfl, rfl⟩ := run_inj h
    exact ⟨.refl b, rfl⟩
  | cons item rest ih =>
    simp only [newBlocks, run_bind_eq] at h
    obtain ⟨label, b₁, hnew, ms, b₂, hms, hrest⟩ := h
    obtain ⟨rfl, rfl⟩ := run_inj hrest
    obtain ⟨hadds, hlength⟩ := ih hms
    exact ⟨(newBlock_adds hnew).trans hadds, by simp [hlength]⟩

/-- A block that waits becomes the current one. -/
theorem goTo_shape {b : Builder} {l : Label} {W : List Label} (hb : b.Shape (l :: W))
    (hc : b.current = none) : Builder.Shape { b with current := some l.number } W ∧
      Builder.point? { b with current := some l.number } = some (.first l.name) := by
  obtain ⟨hempty, -⟩ := hb.waits l List.mem_cons_self
  obtain ⟨hfresh, hdistinct⟩ := List.nodup_cons.1 hb.distinct
  refine ⟨⟨hb.named, ?_, fun m hm => ?_, hdistinct, fun n block hblock hn hnot => ?_⟩, ?_⟩
  · rintro _ ⟨⟩
    exact ⟨_, hempty, by simp⟩
  · refine ⟨(hb.waits m (List.mem_cons_of_mem _ hm)).1, fun h => hfresh ?_⟩
    exact List.mem_map.2 ⟨m, hm, (Option.some.inj h).symm⟩
  · refine hb.closed n block hblock (by simp [hc]) fun hmem => ?_
    rcases List.mem_cons.1 hmem with rfl | hmem
    · exact hn rfl
    · exact hnot hmem
  · simp [Builder.point?, hempty, Place.first]

/-! ### Instructions -/

/-- The current block with one more instruction. -/
def Builder.append (b : Builder) (c : ℕ) (i : Instruction) : Builder :=
  { b with blocks := b.blocks.modify c (withInstruction i) }

section Append

variable {b : Builder} {W : List Label} {c : ℕ} {i : Instruction}

theorem append_self {block : Block} (h : b.blocks[c]? = some block) :
    (b.append c i).blocks[c]? = some (withInstruction i block) := by
  simp [Builder.append, h]

theorem append_other {n : ℕ} (h : n ≠ c) : (b.append c i).blocks[n]? = b.blocks[n]? := by
  simp [Builder.append, Ne.symm h]

/-- What an instruction at the end of the current block leaves as it was. -/
theorem append_named (hb : b.Shape W) : ∀ (n : ℕ) block, (b.append c i).blocks[n]? = some block →
    Named n block.name := by
  intro n block hblock
  by_cases hn : n = c
  · subst hn
    simp only [Builder.append, List.getElem?_modify_eq, Option.map_eq_map,
      Option.map_eq_some_iff] at hblock
    obtain ⟨old, hold, rfl⟩ := hblock
    exact hb.named n old hold
  · rw [append_other hn] at hblock
    exact hb.named n block hblock

theorem append_closed (hb : b.Shape W) {n : ℕ} {block : Block} (hn : n ≠ c)
    (hblock : (b.append c i).blocks[n]? = some block) (hcurrent : b.current ≠ some n)
    (hwaits : n ∉ W.map (·.number)) : block.Closed (Present (b.append c i).blocks) := by
  rw [append_other hn] at hblock
  refine (hb.closed n block hblock hcurrent hwaits).mono fun name hname => ?_
  exact (grows_modify b.blocks c i).present hname

/-- An instruction that does not end the current block keeps the shape. -/
theorem append_shape (hb : b.Shape W) (hc : b.current = some c)
    (hplain : i.kind.endsBlock = false) : (b.append c i).Shape W := by
  obtain ⟨block, hblock, hopen⟩ := hb.current c hc
  refine ⟨append_named hb, fun n hn => ?_, fun l hl => ?_, hb.distinct, fun n block' hblock' hn
    hnot => ?_⟩
  · obtain rfl := Option.some.inj (hc.symm.trans hn)
    refine ⟨_, append_self hblock, fun j hj => ?_⟩
    rcases List.mem_append.1 hj with hj | hj
    · exact hopen j hj
    · rw [List.mem_singleton.1 hj]
      exact hplain
  · obtain ⟨hempty, hne⟩ := hb.waits l hl
    refine ⟨?_, hne⟩
    rw [append_other fun h => hne (by rw [h, hc])]
    exact hempty
  · exact append_closed hb (fun h => hn (h ▸ hc)) hblock' hn hnot

/-- An instruction that ends the current block finishes it. -/
theorem append_leave_shape (hb : b.Shape W) (hc : b.current = some c)
    (hends : i.kind.endsBlock = true) (htargets : ∀ t ∈ i.targets, Present b.blocks t) :
    Builder.Shape { b.append c i with current := none } W := by
  obtain ⟨block, hblock, hopen⟩ := hb.current c hc
  refine ⟨append_named hb, by rintro _ ⟨⟩, fun l hl => ?_, hb.distinct, fun n block' hblock' _
    hnot => ?_⟩
  · obtain ⟨hempty, hne⟩ := hb.waits l hl
    refine ⟨?_, by simp⟩
    show (b.append c i).blocks[l.number]? = _
    rw [append_other fun h => hne (by rw [h, hc])]
    exact hempty
  · have hblock' : (b.append c i).blocks[n]? = some block' := hblock'
    by_cases hn : n = c
    · subst hn
      obtain rfl := Option.some.inj ((append_self hblock).symm.trans hblock')
      refine ⟨block.instructions, i, rfl, hopen, hends, fun t ht => ?_⟩
      exact (grows_modify b.blocks n i).present (htargets t ht)
    · exact append_closed hb hn hblock' (fun h => hn (Option.some.inj (h.symm.trans hc))) hnot

/-- The instruction stands where the next one was to go. -/
theorem append_point? {p : Place} (hc : b.current = some c) (hp : b.point? = some p) :
    (b.append c i).point? = some p.next ∧
      ∀ f, Completes f (b.append c i) → f.instruction? p = some i := by
  simp only [Builder.point?, hc, Option.bind_some, Option.map_eq_some_iff] at hp
  obtain ⟨block, hblock, rfl⟩ := hp
  refine ⟨?_, fun f hf => ?_⟩
  · have hcurrent : (b.append c i).current = some c := hc
    simp [Builder.point?, hcurrent, append_self hblock, withInstruction, Place.next]
  · show f.instruction? ⟨(withInstruction i block).name, block.instructions.length⟩ = some i
    exact hf.instruction? (append_self hblock) (by simp [withInstruction])

end Append

/-- Whenever an instruction comes there is a current block: the one there was, or a new one that
nothing leads to. -/
theorem currentBlock_opens {b b' : Builder} {W : List Label} {c : ℕ} (hb : b.Shape W)
    (h : currentBlock.run b = some (c, b')) :
    Grows b.blocks b'.blocks ∧ b'.Shape W ∧ b'.current = some c ∧
      ∀ p, b.point? = some p → b'.point? = some p := by
  obtain ⟨_, b₀, hget, h⟩ := run_bind_eq.1 h
  obtain ⟨rfl, rfl⟩ := run_inj hget
  cases hc : b.current with
  | some n =>
    rw [hc] at h
    obtain ⟨rfl, rfl⟩ := run_inj h
    exact ⟨.refl _, hb, hc, fun p hp => hp⟩
  | none =>
    rw [hc] at h
    obtain ⟨l, b₁, hnew, h⟩ := run_bind_eq.1 h
    obtain ⟨_, b₂, hgo, h⟩ := run_bind_eq.1 h
    obtain ⟨-, rfl⟩ := run_inj hgo
    obtain ⟨rfl, rfl⟩ := run_inj h
    -- there was no place to go on from, so nothing has to be said about what is read there
    have hadds := newBlock_adds hnew
    have hnone : b₁.current = none := hadds.current.trans hc
    obtain ⟨hshape, -⟩ := goTo_shape (hadds.shape [] W hb) hnone
    exact ⟨hadds.grows, hshape, rfl, by simp [Builder.point?, hc]⟩

theorem emit_run {b b' : Builder} {W : List Label} {i : Instruction} (hb : b.Shape W)
    (h : (emit i).run b = some ((), b')) :
    ∃ (c : ℕ) (b₁ : Builder), b' = b₁.append c i ∧ Grows b.blocks b₁.blocks ∧ b₁.Shape W ∧
      b₁.current = some c ∧ ∀ p, b.point? = some p → b₁.point? = some p := by
  obtain ⟨c, b₁, hcurrent, hmodify⟩ := run_bind_eq.1 h
  obtain ⟨-, rfl⟩ := run_inj hmodify
  exact ⟨c, b₁, rfl, currentBlock_opens hb hcurrent⟩

/-- Instructions are added one after the other, and carried out in this order. -/
structure Straight (scope : Scope) (W : List Label) (b b' : Builder) (ts : List Task) : Prop where
  grows : Grows b.blocks b'.blocks
  shape : b'.Shape W
  carries : ∀ {f n k p}, Completes f b' → b.point? = some p →
    (∀ q, b'.point? = some q → Carries scope f n q k) → Carries scope f n p (ts ++ k)

/-- An instruction has ended the current block. -/
structure Ends (W : List Label) (b b' : Builder) (i : Instruction) : Prop where
  grows : Grows b.blocks b'.blocks
  shape : b'.Shape W
  current : b'.current = none
  placed : ∀ {f p}, Completes f b' → b.point? = some p → f.instruction? p = some i

/-- The current block, if there is one, leads to a block now. -/
structure Jumps (scope : Scope) (W : List Label) (b b' : Builder) (target : Label) : Prop where
  grows : Grows b.blocks b'.blocks
  shape : b'.Shape W
  current : b'.current = none
  carries : ∀ {f n k p}, Completes f b' → b.point? = some p →
    Carries scope f n (.first target.name) k → Carries scope f n p k

section Steps

variable {scope : Scope} {W : List Label} {b b' b'' : Builder}

theorem Straight.refl (hb : b.Shape W) : Straight scope W b b [] :=
  ⟨.refl _, hb, fun _ hp hend => hend _ hp⟩

theorem Straight.trans {ts us : List Task} (h : Straight scope W b b' ts)
    (h' : Straight scope W b' b'' us) : Straight scope W b b'' (ts ++ us) where
  grows := h.grows.trans h'.grows
  shape := h'.shape
  carries hf hp hend := by
    rw [List.append_assoc]
    exact h.carries (hf.of_grows h'.grows) hp fun q hq => h'.carries hf hq hend

theorem emit_straight {i : Instruction} (hplain : i.kind.endsBlock = false)
    (htargets : i.targets = []) (hb : b.Shape W) (h : (emit i).run b = some ((), b')) :
    Straight scope W b b' [.emit i] := by
  obtain ⟨c, b₁, rfl, hgrows, hshape, hc, hpoint⟩ := emit_run hb h
  have hshown : shown i = i := by
    rw [shown, ← htargets]
  refine ⟨hgrows.trans (grows_modify _ _ _), append_shape hshape hc hplain, ?_⟩
  intro f n k p hf hp hend
  obtain ⟨hnext, hplaced⟩ := append_point? (i := i) hc (hpoint p hp)
  have hcarries := Carries.emit hf.wellFormed (hplaced f hf) hplain (hend _ hnext)
  rw [hshown] at hcarries
  exact hcarries.mono (Nat.le_succ n)

theorem emitCalls_straight {sites : List CallSite} (hb : b.Shape W)
    (h : (emitCalls scope sites).run b = some ((), b')) :
    Straight scope W b b' (Task.calls scope sites) := by
  induction sites generalizing b with
  | nil =>
    obtain ⟨-, rfl⟩ := run_inj h
    exact .refl hb
  | cons site rest ih =>
    obtain ⟨_, b₁, hstep, hrest⟩ := run_bind_eq.1 h
    obtain ⟨_, b₀, hguard, hemit⟩ := run_bind_eq.1 hstep
    obtain ⟨-, rfl⟩ := run_guard_eq.1 hguard
    have hfirst : Straight scope W b b₁ [.emit (scope.callInstruction site)] :=
      emit_straight rfl rfl hb hemit
    exact hfirst.trans (ih hfirst.shape hrest)

theorem emitOther_straight {opcode text : String} {line : ℕ} (hb : b.Shape W)
    (h : (emitOther opcode text line).run b = some ((), b')) :
    Straight scope W b b' [.emit { opcode, kind := .other, text, line }] :=
  emit_straight rfl rfl hb h

theorem emit_leave_ends {i : Instruction} (hends : i.kind.endsBlock = true)
    (htargets : ∀ t ∈ i.targets, Present b.blocks t) (hb : b.Shape W)
    (h : (do emit i; leave : Build Unit).run b = some ((), b')) : Ends W b b' i := by
  obtain ⟨_, b₀, hemit, hleave⟩ := run_bind_eq.1 h
  obtain ⟨-, rfl⟩ := run_inj hleave
  obtain ⟨c, b₁, rfl, hgrows, hshape, hc, hpoint⟩ := emit_run hb hemit
  refine ⟨hgrows.trans (grows_modify _ _ _), append_leave_shape hshape hc hends fun t ht =>
    hgrows.present (htargets t ht), rfl, fun {f p} hf hp => ?_⟩
  exact (append_point? (i := i) hc (hpoint p hp)).2 f ⟨hf.wellFormed, hf.distinct, hf.grows⟩

theorem emitReturn_ends {text : String} {line : ℕ} (hb : b.Shape W)
    (h : (emitReturn text line).run b = some ((), b')) :
    Ends W b b' { opcode := "return", kind := .ret, text, line } :=
  emit_leave_ends rfl (by simp) hb h

theorem terminate_ends {opcode text : String} {line : ℕ} {targets : List Label}
    (htargets : ∀ l ∈ targets, Present b.blocks l.name) (hb : b.Shape W)
    (h : (terminate opcode targets line text).run b = some ((), b')) :
    Ends W b b' { opcode, kind := .terminator, text, line, targets := targets.map (·.name) } :=
  emit_leave_ends rfl (by simpa using htargets) hb h

/-- What a jump leads to is carried by its place. -/
theorem Ends.jump {i : Instruction} {target : Label} (h : Ends W b b' i) (hi : i.isJump = true)
    (htarget : i.targets = [target.name]) : Jumps scope W b b' target :=
  ⟨h.grows, h.shape, h.current, fun hf hp hk =>
    Carries.jump hf.wellFormed (h.placed hf hp) hi htarget hk⟩

theorem jump_jumps {target : Label} {line : ℕ} (htarget : Present b.blocks target.name)
    (hb : b.Shape W) (h : (jump target line).run b = some ((), b')) : Jumps scope W b b' target := by
  obtain ⟨_, b₀, hget, hjump⟩ := run_bind_eq.1 h
  obtain ⟨rfl, rfl⟩ := run_inj hget
  cases hc : b.current with
  | none =>
    rw [hc] at hjump
    obtain ⟨-, rfl⟩ := run_inj hjump
    exact ⟨.refl _, hb, hc, fun _ hp => by simp [Builder.point?, hc] at hp⟩
  | some c =>
    rw [hc] at hjump
    exact (terminate_ends (by simpa using htarget) hb hjump).jump rfl rfl

end Steps

end CallReach.Source
