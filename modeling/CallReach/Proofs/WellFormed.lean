import CallReach.Graph.OfProgram
import CallReach.Program.Document
import CallReach.Proofs.Searcher
import Mathlib.Data.List.Forall2
import Mathlib.Data.List.Nodup

/-!
# Well-formed programs

In a well-formed program every block ends with an instruction that ends it, no other instruction
does, and the last instruction names only blocks of its function.  So the search always has
somewhere to go: what does not end a block is followed by an instruction of the block, and a branch
leads to blocks that have a first one.

* `Block.Closed`, `Function.WellFormed`, `Program.WellFormed` : the conditions.
* `Program.WellFormed.nextOf`, `Program.WellFormed.firstOf` : what the graph of a well-formed
  program answers.
* `Function.successors?` : the successors of a block as blocks; in a well-formed function they are
  all there.
-/

namespace CallReach

/-- A finished block: its last instruction ends it and names only blocks that are known, and no
other instruction ends it. -/
def Block.Closed (known : String → Prop) (b : Block) : Prop :=
  ∃ before last, b.instructions = before ++ [last] ∧ (∀ i ∈ before, i.kind.endsBlock = false) ∧
    last.kind.endsBlock = true ∧ ∀ t ∈ last.targets, known t

/-- A block of a given name is there. -/
def Function.Has (f : Function) (name : String) : Prop := ∃ b ∈ f.blocks, b.name = name

/-- All blocks of a function are finished. -/
def Function.WellFormed (f : Function) : Prop := ∀ b ∈ f.blocks, b.Closed f.Has

/-- All functions of a program are well-formed. -/
def Program.WellFormed (M : Program) : Prop := ∀ f ∈ M.functions, f.WellFormed

/-! ### Finished blocks -/

namespace Block.Closed

variable {known : String → Prop} {b : Block} {i : Instruction} {n : ℕ}

theorem mono {known' : String → Prop} (h : b.Closed known) (hk : ∀ s, known s → known' s) :
    b.Closed known' := by
  obtain ⟨before, last, heq, hbefore, hlast, htargets⟩ := h
  exact ⟨before, last, heq, hbefore, hlast, fun t ht => hk t (htargets t ht)⟩

/-- An instruction that does not end a finished block is followed by another. -/
theorem lt_of_plain (h : b.Closed known) (hi : b.instructions[n]? = some i)
    (hplain : i.kind.endsBlock = false) : n + 1 < b.instructions.length := by
  obtain ⟨before, last, heq, -, hlast, -⟩ := h
  rw [heq] at hi ⊢
  rcases Nat.lt_trichotomy n before.length with hn | rfl | hn
  · simp only [List.length_append, List.length_singleton]
    omega
  · simp only [List.getElem?_concat_length, Option.some.injEq] at hi
    rw [hi, hplain] at hlast
    cases hlast
  · rw [List.getElem?_eq_none (by simp; omega)] at hi
    cases hi

/-- An instruction that ends a finished block is its last one. -/
theorem last_of_ends (h : b.Closed known) (hi : b.instructions[n]? = some i)
    (hends : i.kind.endsBlock = true) :
    n + 1 = b.instructions.length ∧ b.successors = i.targets := by
  obtain ⟨before, last, heq, hbefore, -, -⟩ := h
  have hn : n = before.length := by
    rw [heq] at hi
    rcases Nat.lt_trichotomy n before.length with hn | hn | hn
    · rw [List.getElem?_append_left hn] at hi
      rw [hbefore i (List.mem_of_getElem? hi)] at hends
      cases hends
    · exact hn
    · rw [List.getElem?_eq_none (by simp; omega)] at hi
      cases hi
  have hlast : last = i := by
    rw [heq, hn] at hi
    simpa using hi
  refine ⟨by simp [heq, hn], ?_⟩
  simp [Block.successors, Block.last?, heq, hlast]

theorem known_of_successor (h : b.Closed known) {t : String} (ht : t ∈ b.successors) : known t := by
  obtain ⟨before, last, heq, -, -, htargets⟩ := h
  refine htargets t ?_
  simpa [Block.successors, Block.last?, heq] using ht

theorem length_pos (h : b.Closed known) : 0 < b.instructions.length := by
  obtain ⟨before, last, heq, -⟩ := h
  simp [heq]

end Block.Closed

/-! ### Looking up blocks -/

/-- An item is found by its name when names are distinct. -/
theorem find?_of_nodup {α : Type} {name : α → String} {xs : List α} {x : α}
    (h : (xs.map name).Nodup) (hx : x ∈ xs) : xs.find? (name · == name x) = some x := by
  obtain ⟨y, hy⟩ : ∃ y, xs.find? (name · == name x) = some y := by
    rw [← Option.isSome_iff_exists, List.find?_isSome]
    exact ⟨x, hx, by simp⟩
  have hname : name y = name x := by simpa using List.find?_some hy
  rw [hy, List.inj_on_of_nodup_map h (List.mem_of_find?_eq_some hy) hx hname]

theorem Function.block?_of_mem {f : Function} {b : Block} (h : (f.blocks.map (·.name)).Nodup)
    (hb : b ∈ f.blocks) : f.block? b.name = some b :=
  find?_of_nodup h hb

theorem Program.function?_of_mem {M : Program} {f : Function}
    (h : (M.functions.map (·.name)).Nodup) (hf : f ∈ M.functions) : M.function? f.name = some f :=
  find?_of_nodup h hf

theorem Function.mem_of_block? {f : Function} {name : String} {b : Block}
    (h : f.block? name = some b) : b ∈ f.blocks ∧ b.name = name :=
  ⟨List.mem_of_find?_eq_some h, by simpa using List.find?_some h⟩

theorem Function.block?_of_has {f : Function} {name : String} (h : f.Has name) :
    ∃ b, f.block? name = some b := by
  obtain ⟨b, hb, rfl⟩ := h
  have : (f.block? b.name).isSome := by
    rw [Function.block?, List.find?_isSome]
    exact ⟨b, hb, by simp⟩
  exact Option.isSome_iff_exists.1 this

/-- The successors of a block, when all of them are there. -/
def Function.successors? (f : Function) (b : Block) : Option (List Block) :=
  b.successors.mapM f.block?

/-- The successors of a finished block are there. -/
theorem Block.Closed.successors? {f : Function} {b : Block} (h : b.Closed f.Has) :
    ∃ bs, f.successors? b = some bs ∧ bs.map (·.name) = b.successors := by
  have hknown : ∀ t ∈ b.successors, f.Has t := fun t ht => h.known_of_successor ht
  unfold Function.successors?
  generalize b.successors = names at hknown
  induction names with
  | nil => exact ⟨[], rfl, rfl⟩
  | cons t rest ih =>
    obtain ⟨target, htarget⟩ := Function.block?_of_has (hknown t List.mem_cons_self)
    obtain ⟨bs, hbs, hnames⟩ := ih fun u hu => hknown u (List.mem_cons_of_mem _ hu)
    refine ⟨target :: bs, ?_, ?_⟩
    · simp [htarget, hbs]
    · simp [(Function.mem_of_block? htarget).2, hnames]

theorem Program.mem_of_function? {M : Program} {name : String} {f : Function}
    (h : M.function? name = some f) : f ∈ M.functions ∧ f.name = name :=
  ⟨List.mem_of_find?_eq_some h, by simpa using List.find?_some h⟩

theorem Program.block?_eq_some {M : Program} {b : BlockName} {block : Block} :
    M.block? b = some block ↔
      ∃ f, M.function? b.function = some f ∧ f.block? b.block = some block := by
  simp [Program.block?, Option.bind_eq_some_iff]

theorem Program.instruction?_eq_some {M : Program} {p : Position} {i : Instruction} :
    M.instruction? p = some i ↔
      ∃ block, M.block? p.blockName = some block ∧ block.instructions[p.index]? = some i := by
  simp [Program.instruction?, Option.bind_eq_some_iff]

theorem Program.blockSize_eq {M : Program} {b : BlockName} {block : Block}
    (h : M.block? b = some block) : M.blockSize b = block.instructions.length := by
  simp [Program.blockSize, h]

/-! ### What a well-formed program answers -/

namespace Program.WellFormed

variable {M : Program} {p : Position} {i : Instruction} {b : BlockName} {block : Block}

theorem closed (h : M.WellFormed) (hb : M.block? b = some block) :
    block.Closed fun t => ∃ target, M.block? ⟨b.function, t⟩ = some target := by
  obtain ⟨f, hf, hblock⟩ := Program.block?_eq_some.1 hb
  have hclosed := h f (Program.mem_of_function? hf).1 block (Function.mem_of_block? hblock).1
  refine hclosed.mono fun t ht => ?_
  obtain ⟨target, htarget⟩ := Function.block?_of_has ht
  exact ⟨target, Program.block?_eq_some.2 ⟨f, hf, htarget⟩⟩

/-- Every block has a first position. -/
theorem firstOf (h : M.WellFormed) (hb : M.block? b = some block) :
    M.graph.firstOf b = .ok ⟨b.function, b.block, 0⟩ ∧
      (M.instruction? ⟨b.function, b.block, 0⟩).isSome := by
  have hpos := (h.closed hb).length_pos
  refine ⟨?_, ?_⟩
  · simp [Program.graph, Program.blockSize_eq hb, hpos]
  · obtain ⟨i, hi⟩ : ∃ i, block.instructions[0]? = some i := ⟨_, List.getElem?_eq_getElem hpos⟩
    exact Option.isSome_iff_exists.2 ⟨i, Program.instruction?_eq_some.2 ⟨block, hb, hi⟩⟩

/-- An instruction that does not end its block is followed by another one. -/
theorem nextOf (h : M.WellFormed) (hi : M.instruction? p = some i)
    (hplain : i.kind.endsBlock = false) :
    ∃ q, M.graph.nextOf p = .ok (some q) ∧ (M.instruction? q).isSome := by
  obtain ⟨block, hb, hblock⟩ := Program.instruction?_eq_some.1 hi
  have hlt := (h.closed hb).lt_of_plain hblock hplain
  refine ⟨{ p with index := p.index + 1 }, ?_, ?_⟩
  · simp [Program.graph, Program.blockSize_eq hb, hlt]
  · obtain ⟨j, hj⟩ : ∃ j, block.instructions[p.index + 1]? = some j :=
      ⟨_, List.getElem?_eq_getElem hlt⟩
    exact Option.isSome_iff_exists.2 ⟨j, Program.instruction?_eq_some.2 ⟨block, hb, hj⟩⟩

end Program.WellFormed

/-! ### Lists of results -/

theorem mapM_eq_ok {ε α β : Type} {f : α → Except ε β} {xs : List α} {ys : List β} :
    xs.mapM f = .ok ys ↔ List.Forall₂ (fun x y => f x = .ok y) xs ys := by
  induction xs generalizing ys with
  | nil =>
    simp only [List.mapM_nil, List.forall₂_nil_left_iff]
    exact ⟨fun h => (Except.ok.inj h).symm, fun h => congrArg Except.ok h.symm⟩
  | cons x xs ih =>
    simp only [List.mapM_cons, bind_eq_ok, List.forall₂_cons_left_iff, ih]
    constructor
    · rintro ⟨y, hy, zs, hzs, h⟩
      exact ⟨y, zs, hy, hzs, (Except.ok.inj h).symm⟩
    · rintro ⟨y, zs, hy, hzs, rfl⟩
      exact ⟨y, hy, zs, hzs, rfl⟩

theorem mapM_eq_some {α β : Type} {f : α → Option β} {xs : List α} {ys : List β} :
    xs.mapM f = some ys ↔ List.Forall₂ (fun x y => f x = some y) xs ys := by
  induction xs generalizing ys with
  | nil => simp [eq_comm]
  | cons x xs ih =>
    simp only [List.mapM_cons, Option.bind_eq_bind, Option.bind_eq_some_iff, ih, Option.pure_def,
      Option.some.injEq, List.forall₂_cons_left_iff]
    constructor
    · rintro ⟨y, hy, zs, hzs, rfl⟩
      exact ⟨y, zs, hy, hzs, rfl⟩
    · rintro ⟨y, zs, hy, hzs, rfl⟩
      exact ⟨y, hy, zs, hzs, rfl⟩

/-- There are results for all elements exactly if there is one for each. -/
theorem exists_mapM_eq_some {α β : Type} {f : α → Option β} {xs : List α} :
    (∃ ys, xs.mapM f = some ys) ↔ ∀ x ∈ xs, ∃ y, f x = some y := by
  induction xs with
  | nil => simp
  | cons x xs ih => simp [List.mapM_cons, Option.bind_eq_some_iff, ← ih]

theorem forall₂_mem_left {α β : Type} {R : α → β → Prop} {xs : List α} {ys : List β}
    (h : List.Forall₂ R xs ys) {x : α} (hx : x ∈ xs) : ∃ y ∈ ys, R x y := by
  induction h with
  | nil => simp at hx
  | @cons x' y xs ys hxy _ ih =>
    rcases List.mem_cons.1 hx with rfl | hx
    · exact ⟨y, List.mem_cons_self, hxy⟩
    · obtain ⟨y', hy', hR⟩ := ih hx
      exact ⟨y', List.mem_cons_of_mem _ hy', hR⟩

theorem forall₂_mem_right {α β : Type} {R : α → β → Prop} {xs : List α} {ys : List β}
    (h : List.Forall₂ R xs ys) {y : β} (hy : y ∈ ys) : ∃ x ∈ xs, R x y :=
  forall₂_mem_left h.flip hy

end CallReach
