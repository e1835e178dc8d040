import CallReach.Program.Assembly
import CallReach.Proofs.Entries
import CallReach.Proofs.Resolution

/-!
# Positions that know their places

A graph may answer from places that it remembers: each position has a block and an index, and the
graph looks there instead of going through the list of the block.  The short answers are right as
long as what a block lists at an index remembers just this place.  The positions of a program are
their places.  The instructions of an assembly are given theirs when they are appended, and keep it
when none is appended twice.

* `Graph.Recorded` : a graph that answers from the places that it remembers, which are right.
* `Graph.Recorded.direct` : its short answers are those that the lists give.
* `Assembly.Made` : the assemblies that steps of building make, none of which appends an instruction
  again; `Assembly.Made.kept` : in them the places are right.
* `Assembly.ofProgram_holds` : a program has such an assembly, with each instruction in the place of
  its position.
* `places_agree` : the short answers are right in every program and in every such assembly.
-/

namespace CallReach

open Data (Entries)

/-! ### Graphs that remember places -/

section Graphs

variable {P B F : Type} [DecidableEq P]

/-- What the short answers about a position should be. -/
structure Graph.Direct (G : Graph P B F) (p : P) : Prop where
  /-- Whether it is the first of its block is found without the block. -/
  entry : ∃ first : Bool, G.isFirst p = .ok first ∧ G.isBlockEntry p = .ok first
  /-- Whether a block lists it is found without the list. -/
  contains : ∀ b, ∃ listed : Bool, G.lists b p = .ok listed ∧ G.blockContains b p = .ok listed
  check : G.check p = .ok ()
  /-- Its block lists it once; it is followed by what stands behind it there, and when nothing does
  the graph is to blame. -/
  next : ∃ b before after, G.blockOf p = .ok b ∧ G.positionsOf b = .ok (before ++ p :: after) ∧
    p ∉ before ∧ p ∉ after ∧
    (∀ q rest, after = q :: rest → G.nextOf p = .ok (some q)) ∧
    (after = [] → ∃ e, G.nextOf p = .error e ∧ e.notice.word = "GraphInvariantError")

/-- A graph that answers from the places that it remembers.  `list` are the positions of its blocks and
`home` the remembered places. -/
structure Graph.Recorded (G : Graph P B F) (list : B → List P) (home : P → Option (B × ℕ)) :
    Prop where
  positionsOf : ∀ b, G.positionsOf b = .ok (list b)
  firstOf : ∀ b p, (list b)[0]? = some p → G.firstOf b = .ok p
  blockOf : ∀ p b i, home p = some (b, i) → (list b)[i]? = some p → G.blockOf p = .ok b
  isBlockEntry : ∀ p b i, home p = some (b, i) → G.isBlockEntry p = .ok (i == 0)
  blockContains : ∀ p c i b, home p = some (c, i) →
    G.blockContains b p = .ok (decide ((list b)[i]? = some p))
  nextOf_some : ∀ p b i q, home p = some (b, i) → (list b)[i + 1]? = some q →
    G.nextOf p = .ok (some q)
  nextOf_none : ∀ p b i, home p = some (b, i) → (list b)[i + 1]? = none →
    ∃ e, G.nextOf p = .error e ∧ e.notice.word = "GraphInvariantError"
  /-- What a block lists remembers where. -/
  kept : ∀ b i p, (list b)[i]? = some p → home p = some (b, i)

namespace Graph.Recorded

variable {G : Graph P B F} {list : B → List P} {home : P → Option (B × ℕ)} {p : P} {b c : B}
  {i j : ℕ}

/-- A position is listed in one place only. -/
theorem place_unique (h : G.Recorded list home) (hi : (list b)[i]? = some p)
    (hj : (list c)[j]? = some p) : b = c ∧ i = j := by
  have heq := (h.kept b i p hi).symm.trans (h.kept c j p hj)
  simpa using heq

theorem isFirst (h : G.Recorded list home) (hi : (list b)[i]? = some p) :
    G.isFirst p = .ok (i == 0) := by
  obtain ⟨q, hq⟩ : ∃ q, (list b)[0]? = some q := by
    obtain ⟨hlt, -⟩ := List.getElem?_eq_some_iff.1 hi
    exact ⟨_, List.getElem?_eq_getElem (Nat.zero_lt_of_lt hlt)⟩
  have hsame : q = p ↔ i = 0 := by
    constructor
    · rintro rfl
      exact (h.place_unique hi hq).2
    · rintro rfl
      exact Option.some.inj (hq.symm.trans hi)
  simp only [Graph.isFirst, h.blockOf p b i (h.kept b i p hi) hi, h.firstOf b q hq, bind,
    Except.bind, pure, Except.pure]
  by_cases hzero : i = 0 <;> simp [hsame, hzero]

theorem lists (h : G.Recorded list home) (hi : (list b)[i]? = some p) (c : B) :
    G.lists c p = .ok (decide ((list c)[i]? = some p)) := by
  have hlisted : p ∈ list c ↔ (list c)[i]? = some p := by
    refine ⟨fun hmem => ?_, List.mem_of_getElem?⟩
    obtain ⟨j, hj⟩ := List.getElem?_of_mem hmem
    obtain ⟨-, rfl⟩ := h.place_unique hi hj
    exact hj
  simp [Graph.lists, h.positionsOf, hlisted, bind, Except.bind, pure, Except.pure]

/-- **Short answers about a listed position are those that the lists give.** -/
theorem direct (h : G.Recorded list home) (hp : p ∈ list b) : G.Direct p := by
  obtain ⟨i, hi⟩ := List.getElem?_of_mem hp
  have hhome := h.kept b i p hi
  have hblock := h.blockOf p b i hhome hi
  refine ⟨⟨_, h.isFirst hi, h.isBlockEntry p b i hhome⟩,
    fun c => ⟨_, h.lists hi c, h.blockContains p b i c hhome⟩, ?_, ?_⟩
  · simp [Graph.check, hblock, h.blockContains p b i b hhome, hi, bind, Except.bind, pure,
      Except.pure]
  · obtain ⟨hlt, hget⟩ := List.getElem?_eq_some_iff.1 hi
    have hcut : list b = (list b).take i ++ p :: (list b).drop (i + 1) := by
      rw [← hget, List.getElem_cons_drop, List.take_append_drop]
    have hbefore : p ∉ (list b).take i := by
      intro hmem
      obtain ⟨j, hj⟩ := List.getElem?_of_mem hmem
      rw [List.getElem?_take] at hj
      split_ifs at hj with hji
      exact absurd (h.place_unique hi hj).2 (by omega)
    have hafter : p ∉ (list b).drop (i + 1) := by
      intro hmem
      obtain ⟨j, hj⟩ := List.getElem?_of_mem hmem
      rw [List.getElem?_drop] at hj
      exact absurd (h.place_unique hi hj).2 (by omega)
    have hhead : ((list b).drop (i + 1)).head? = (list b)[i + 1]? := List.head?_drop
    refine ⟨b, _, _, hblock, hcut ▸ h.positionsOf b, hbefore, hafter, ?_, ?_⟩
    · intro q rest hrest
      rw [hrest] at hhead
      exact h.nextOf_some p b i q hhome hhead.symm
    · intro hnil
      rw [hnil] at hhead
      exact h.nextOf_none p b i hhome hhead.symm

end Graph.Recorded

end Graphs

/-! ### Programs -/

namespace Program

/-- The positions of a block of a program. -/
def listed (M : Program) (b : BlockName) : List Position :=
  (List.range (M.blockSize b)).map fun i => ⟨b.function, b.block, i⟩

variable {M : Program} {b : BlockName} {p : Position} {n : ℕ}

theorem getElem?_listed : (M.listed b)[n]? = some p ↔
    n < M.blockSize b ∧ p = ⟨b.function, b.block, n⟩ := by
  simp only [listed, List.getElem?_eq_some_iff, List.length_map, List.length_range, List.getElem_map,
    List.getElem_range, exists_prop]
  exact and_congr_right fun _ => eq_comm

theorem getElem?_listed_none : (M.listed b)[n]? = none ↔ M.blockSize b ≤ n := by
  simp [listed]

/-- The positions of a program are their places. -/
theorem recorded (M : Program) :
    M.graph.Recorded M.listed fun p => some (p.blockName, p.index) where
  positionsOf _ := rfl
  firstOf b p hp := by
    obtain ⟨hsize, rfl⟩ := getElem?_listed.1 hp
    exact if_pos hsize
  blockOf p b n hhome hp := by
    obtain ⟨rfl, rfl⟩ : p.blockName = b ∧ p.index = n := by simpa using hhome
    obtain ⟨hsize, -⟩ := getElem?_listed.1 hp
    have hblock : (M.block? p.blockName).isSome = true := by
      cases hb : M.block? p.blockName with
      | some block => rfl
      | none => simp [blockSize, hb] at hsize
    exact if_pos hblock
  isBlockEntry p b n hhome := by
    obtain ⟨rfl, rfl⟩ : p.blockName = b ∧ p.index = n := by simpa using hhome
    rfl
  blockContains p c n b hhome := by
    obtain ⟨rfl, rfl⟩ : p.blockName = c ∧ p.index = n := by simpa using hhome
    have hplace : p = ⟨b.function, b.block, p.index⟩ ↔ b = p.blockName := by
      obtain ⟨function, block⟩ := b
      obtain ⟨function', block', index⟩ := p
      simp [Position.blockName, eq_comm]
    show Except.ok (b == p.blockName && decide (p.index < M.blockSize b)) = _
    simp only [getElem?_listed, hplace]
    by_cases hb : b = p.blockName <;> simp [hb]
  nextOf_some p b n q hhome hq := by
    obtain ⟨rfl, rfl⟩ : p.blockName = b ∧ p.index = n := by simpa using hhome
    obtain ⟨hsize, rfl⟩ := getElem?_listed.1 hq
    exact if_pos hsize
  nextOf_none p b n hhome hq := by
    obtain ⟨rfl, rfl⟩ : p.blockName = b ∧ p.index = n := by simpa using hhome
    exact ⟨_, if_neg (Nat.not_lt.2 (getElem?_listed_none.1 hq)), rfl⟩
  kept b n p hp := by
    obtain ⟨-, rfl⟩ := getElem?_listed.1 hp
    rfl

end Program

/-! ### Assemblies -/

namespace Assembly

variable {A A' : Assembly} {ps : List ℕ}

/-- The assemblies that steps of building make, with the instructions that have been appended.  Blocks
and instructions are made on their own; a block is added to a function of the assembly, or to one
that may be added to it later, and an instruction is appended to a block once at most. -/
inductive Made : Assembly → List ℕ → Prop
  | empty (name : String) : Made { name } []
  | addFunction {A : Assembly} {ps : List ℕ} (f : DraftFunction) :
      Made A ps → Made (A.addFunction f) ps
  | newBlock {A : Assembly} {ps : List ℕ} (name : String) : Made A ps → Made (A.newBlock name).2 ps
  | own {A : Assembly} {ps : List ℕ} (function : String) (b : ℕ) :
      Made A ps → Made (A.own function b) ps
  | attach {A A' : Assembly} {ps : List ℕ} {function : String} {b : ℕ} :
      Made A ps → A.attach function b = .ok A' → Made A' ps
  | addDetached {A : Assembly} {ps : List ℕ} (i : Instruction) :
      Made A ps → Made (A.addDetached i).2 ps
  | place {A : Assembly} {ps : List ℕ} {p : ℕ} (b : ℕ) :
      Made A ps → p < A.instructions.size → p ∉ ps → Made (A.place p b) (p :: ps)
  | link {A : Assembly} {ps : List ℕ} : Made A ps → Made A.link.1 ps

/-- The instructions that have been appended are there, and those that a block lists are among them
and remember where. -/
structure Kept (A : Assembly) (ps : List ℕ) : Prop where
  there : ∀ p ∈ ps, p < A.instructions.size
  home : ∀ b i p, (A.blockAt b).instructions[i]? = some p → (A.placedAt p).home = some (b, i)
  appended : ∀ b, ∀ p ∈ (A.blockAt b).instructions, p ∈ ps

/-! #### Steps that move no instruction -/

/-- The same instructions are in the same places. -/
structure SamePlaces (A A' : Assembly) : Prop where
  size : A.instructions.size ≤ A'.instructions.size
  home : ∀ p, (A'.placedAt p).home = (A.placedAt p).home
  instructions : ∀ b, (A'.blockAt b).instructions = (A.blockAt b).instructions

theorem SamePlaces.kept (h : SamePlaces A A') (hA : A.Kept ps) : A'.Kept ps where
  there p hp := (hA.there p hp).trans_le h.size
  home b i p hp := by
    rw [h.home]
    exact hA.home b i p (h.instructions b ▸ hp)
  appended b p hp := hA.appended b p (h.instructions b ▸ hp)

theorem SamePlaces.trans {A'' : Assembly} (h : SamePlaces A A') (h' : SamePlaces A' A'') :
    SamePlaces A A'' where
  size := h.size.trans h'.size
  home p := (h'.home p).trans (h.home p)
  instructions b := (h'.instructions b).trans (h.instructions b)

theorem samePlaces_functions (A : Assembly) (functions : Entries String DraftFunction) :
    SamePlaces A { A with functions } :=
  ⟨le_rfl, fun _ => rfl, fun _ => rfl⟩

/-- A block may change in all but its instructions. -/
theorem samePlaces_modify (A : Assembly) (b : ℕ) {change : DraftBlock → DraftBlock}
    (h : ∀ block, (change block).instructions = block.instructions) :
    SamePlaces A { A with blocks := A.blocks.modify b change } where
  size := le_rfl
  home _ := rfl
  instructions c := by
    simp only [blockAt, Array.getElem?_modify]
    by_cases hc : b = c
    · subst hc
      cases hb : A.blocks[b]? <;> simp [h]
    · simp [hc]

theorem samePlaces_own (A : Assembly) (function : String) (b : ℕ) :
    SamePlaces A (A.own function b) :=
  samePlaces_modify A b fun _ => rfl

theorem samePlaces_newBlock (A : Assembly) (name : String) :
    SamePlaces A (A.newBlock name).2 where
  size := le_rfl
  home _ := rfl
  instructions c := by
    simp only [blockAt, newBlock, Array.getElem?_push]
    by_cases hc : c = A.blocks.size
    · rw [if_pos hc, hc, Array.getElem?_eq_none le_rfl]
      rfl
    · rw [if_neg hc]

theorem samePlaces_addDetached (A : Assembly) (i : Instruction) :
    SamePlaces A (A.addDetached i).2 where
  size := by simp [addDetached]
  home p := by
    simp only [placedAt, addDetached, Array.getElem?_push]
    by_cases hp : p = A.instructions.size
    · rw [if_pos hp, hp, Array.getElem?_eq_none le_rfl]
      rfl
    · rw [if_neg hp]
  instructions _ := rfl

theorem samePlaces_linkAll (work : List (DraftFunction × ℕ)) (A : Assembly) :
    SamePlaces A (linkAll work A).1 := by
  induction work generalizing A with
  | nil => exact ⟨le_rfl, fun _ => rfl, fun _ => rfl⟩
  | cons fb rest ih =>
    obtain ⟨f, b⟩ := fb
    unfold linkAll
    split
    · refine SamePlaces.trans ?_ (ih _)
      exact samePlaces_modify A b fun _ => rfl
    · exact ⟨le_rfl, fun _ => rfl, fun _ => rfl⟩

/-! #### Appending -/

theorem placedAt_place_self {p b : ℕ} (hp : p < A.instructions.size) :
    (A.place p b).placedAt p =
      ⟨(A.placedAt p).instruction, some (b, (A.blockAt b).instructions.length)⟩ := by
  simp only [place, placedAt, Array.getElem?_modify, if_true, Array.getElem?_eq_getElem hp]
  rfl

theorem placedAt_place_of_ne {p q b : ℕ} (h : q ≠ p) :
    (A.place p b).placedAt q = A.placedAt q := by
  simp [place, placedAt, Array.getElem?_modify, Ne.symm h]

theorem blockAt_place_self {p b : ℕ} (hb : b < A.blocks.size) :
    ((A.place p b).blockAt b).instructions = (A.blockAt b).instructions ++ [p] := by
  simp only [place, blockAt, Array.getElem?_modify, if_true, Array.getElem?_eq_getElem hb]
  rfl

theorem blockAt_place_of_not {p b c : ℕ} (h : ¬ (b = c ∧ b < A.blocks.size)) :
    (A.place p b).blockAt c = A.blockAt c := by
  simp only [place, blockAt, Array.getElem?_modify]
  split_ifs with hb
  · subst hb
    rw [Array.getElem?_eq_none (by omega)]
    rfl
  · rfl

/-- **Appending an instruction that has not been appended keeps the places right.** -/
theorem Kept.place {p : ℕ} (h : A.Kept ps) (hp : p < A.instructions.size) (hnew : p ∉ ps) (b : ℕ) :
    (A.place p b).Kept (p :: ps) := by
  have hold : ∀ c, ∀ q ∈ (A.blockAt c).instructions, q ≠ p := by
    rintro c q hq rfl
    exact hnew (h.appended c q hq)
  refine ⟨?_, ?_, ?_⟩
  · intro q hq
    rw [Assembly.place, Array.size_modify]
    rcases List.mem_cons.1 hq with rfl | hq
    · exact hp
    · exact h.there q hq
  · intro c i q hq
    by_cases hc : b = c ∧ b < A.blocks.size
    · obtain ⟨rfl, hb⟩ := hc
      rw [blockAt_place_self hb, List.getElem?_append] at hq
      split_ifs at hq with hi
      · rw [placedAt_place_of_ne (hold b q (List.mem_of_getElem? hq))]
        exact h.home b i q hq
      · -- only the appended instruction stands behind the old ones
        obtain ⟨hi', rfl⟩ := List.getElem?_eq_some_iff.1 hq
        rw [List.length_singleton] at hi'
        obtain rfl : i = (A.blockAt b).instructions.length := by omega
        simp [placedAt_place_self hp]
    · rw [blockAt_place_of_not hc] at hq
      rw [placedAt_place_of_ne (hold c q (List.mem_of_getElem? hq))]
      exact h.home c i q hq
  · intro c q hq
    by_cases hc : b = c ∧ b < A.blocks.size
    · obtain ⟨rfl, hb⟩ := hc
      rw [blockAt_place_self hb, List.mem_append, List.mem_singleton] at hq
      rcases hq with hq | rfl
      · exact List.mem_cons_of_mem _ (h.appended b q hq)
      · exact List.mem_cons_self
    · rw [blockAt_place_of_not hc] at hq
      exact List.mem_cons_of_mem _ (h.appended c q hq)

/-- **Every step of building keeps the places right**, so they are right whenever it ends. -/
theorem Made.kept (h : Made A ps) : A.Kept ps := by
  induction h with
  | empty name =>
    have hnone : ∀ b, (Assembly.blockAt { name } b).instructions = [] := fun _ => rfl
    exact ⟨by simp, fun b i p hp => by simp [hnone] at hp, fun b p hp => by simp [hnone] at hp⟩
  | addFunction f _ ih => exact (samePlaces_functions _ _).kept ih
  | newBlock name _ ih => exact (samePlaces_newBlock _ name).kept ih
  | own function b _ ih => exact (samePlaces_own _ function b).kept ih
  | attach _ hattach ih =>
    obtain ⟨f, -, hA⟩ := bind_eq_ok.1 hattach
    cases hA
    exact ((samePlaces_own _ _ _).trans (samePlaces_functions _ _)).kept ih
  | addDetached i _ ih => exact (samePlaces_addDetached _ i).kept ih
  | place b _ hp hnew ih => exact ih.place hp hnew b
  | link _ ih => exact (samePlaces_linkAll _ _).kept ih

/-- An assembly answers from the places that its instructions remember. -/
theorem Made.recorded (h : Made A ps) :
    A.graph.Recorded (fun b => (A.blockAt b).instructions) fun p => (A.placedAt p).home where
  positionsOf _ := rfl
  firstOf b p hp := by
    obtain ⟨rest, hrest⟩ := List.head?_eq_some_iff.1 (List.head?_eq_getElem?.trans hp)
    simp only [graph, hrest]
  blockOf p b i hhome _ := by
    simp only [graph, hhome]
  isBlockEntry p b i hhome := by
    simp only [graph, hhome]
  blockContains p c i b hhome := by
    simp only [graph, hhome, Except.ok.injEq]
    exact beq_eq_decide _ _
  nextOf_some p b i q hhome hq := by
    simp only [graph, hhome, hq]
  nextOf_none p b i hhome hq := by
    refine ⟨_, by simp only [graph, hhome, hq]; rfl, rfl⟩
  kept b i p hp := h.kept.home b i p hp

end Assembly

/-! ### The assembly of a program -/

namespace Assembly

variable {A A' A'' : Assembly} {ps : List ℕ} {n : ℕ} {b : Block} {is : List Instruction}

/-- What there is stays as it is, and more may be added. -/
structure Extends (A A' : Assembly) : Prop where
  blocks : A.blocks.size ≤ A'.blocks.size
  instructions : A.instructions.size ≤ A'.instructions.size
  listed : ∀ c, c < A.blocks.size → (A'.blockAt c).instructions = (A.blockAt c).instructions
  placed : ∀ p, p < A.instructions.size → A'.placedAt p = A.placedAt p

theorem Extends.refl (A : Assembly) : Extends A A :=
  ⟨le_rfl, le_rfl, fun _ _ => rfl, fun _ _ => rfl⟩

theorem Extends.trans (h : Extends A A') (h' : Extends A' A'') : Extends A A'' where
  blocks := h.blocks.trans h'.blocks
  instructions := h.instructions.trans h'.instructions
  listed c hc := (h'.listed c (hc.trans_le h.blocks)).trans (h.listed c hc)
  placed p hp := (h'.placed p (hp.trans_le h.instructions)).trans (h.placed p hp)

/-- A block lists the instructions of a block of a program, which remember where. -/
structure Holds (A : Assembly) (n : ℕ) (is : List Instruction) : Prop where
  exists_block : n < A.blocks.size
  length : (A.blockAt n).instructions.length = is.length
  placed : ∀ j i, is[j]? = some i → ∃ k, k < A.instructions.size ∧
    (A.blockAt n).instructions[j]? = some k ∧ A.placedAt k = ⟨i, some (n, j)⟩

theorem Holds.mono (h : A.Holds n is) (hA : Extends A A') : A'.Holds n is where
  exists_block := h.exists_block.trans_le hA.blocks
  length := (congrArg List.length (hA.listed n h.exists_block)).trans h.length
  placed j i hi := by
    obtain ⟨k, hk, hlisted, hplaced⟩ := h.placed j i hi
    exact ⟨k, hk.trans_le hA.instructions, hA.listed n h.exists_block ▸ hlisted,
      (hA.placed k hk).trans hplaced⟩

/-- A new instruction at the end of a block. -/
def grow (A : Assembly) (n : ℕ) (i : Instruction) : Assembly :=
  (A.addDetached i).2.place A.instructions.size n

theorem placedAt_addDetached (A : Assembly) (i : Instruction) :
    (A.addDetached i).2.placedAt A.instructions.size = ⟨i, none⟩ := by
  simp [addDetached, placedAt]

theorem placedAt_grow_of_lt {p : ℕ} (i : Instruction) (hp : p < A.instructions.size) :
    (A.grow n i).placedAt p = A.placedAt p := by
  rw [grow, placedAt_place_of_ne hp.ne, placedAt, placedAt, addDetached,
    Array.getElem?_push_lt hp, Array.getElem?_eq_getElem hp]

theorem grow_holds (h : A.Holds n is) (i : Instruction) : (A.grow n i).Holds n (is ++ [i]) := by
  have hinstructions : ((A.grow n i).blockAt n).instructions =
      (A.blockAt n).instructions ++ [A.instructions.size] :=
    blockAt_place_self (A := (A.addDetached i).2) h.exists_block
  have hsize : (A.grow n i).instructions.size = A.instructions.size + 1 := by
    simp [grow, place, addDetached]
  have hnew : (A.grow n i).placedAt A.instructions.size = ⟨i, some (n, is.length)⟩ := by
    have hself : A.instructions.size < (A.addDetached i).2.instructions.size := by
      simp [addDetached]
    rw [grow, placedAt_place_self hself, placedAt_addDetached, ← h.length]
    rfl
  refine ⟨?_, ?_, ?_⟩
  · simpa [grow, place, addDetached] using h.exists_block
  · simp [hinstructions, h.length]
  · intro j i' hi'
    rw [List.getElem?_append] at hi'
    split_ifs at hi' with hj
    · obtain ⟨k, hk, hlisted, hplaced⟩ := h.placed j i' hi'
      refine ⟨k, by omega, ?_, (placedAt_grow_of_lt i hk).trans hplaced⟩
      rw [hinstructions, List.getElem?_append_left (h.length ▸ hj), hlisted]
    · obtain ⟨hj', rfl⟩ := List.getElem?_eq_some_iff.1 hi'
      rw [List.length_singleton] at hj'
      obtain rfl : j = is.length := by omega
      refine ⟨A.instructions.size, by omega, ?_, by simpa using hnew⟩
      rw [hinstructions, ← h.length, List.getElem?_concat_length]

theorem Extends.grow (h : Extends A A') (hn : A.blocks.size ≤ n) (i : Instruction) :
    Extends A (A'.grow n i) where
  blocks := by simpa [Assembly.grow, place, addDetached] using h.blocks
  instructions := by
    have hsize : (A'.grow n i).instructions.size = A'.instructions.size + 1 := by
      simp [Assembly.grow, place, addDetached]
    exact h.instructions.trans (by omega)
  listed c hc := by
    rw [Assembly.grow, blockAt_place_of_not (by omega)]
    exact h.listed c hc
  placed p hp := (placedAt_grow_of_lt i (hp.trans_le h.instructions)).trans (h.placed p hp)

/-- A new instruction has not been appended. -/
theorem Made.grow (h : Made A ps) (n : ℕ) (i : Instruction) :
    Made (A.grow n i) (A.instructions.size :: ps) := by
  have hnew : A.instructions.size < (A.addDetached i).2.instructions.size := by
    simp [Assembly.addDetached]
  exact .place n (h.addDetached i) hnew fun hmem =>
    (h.kept.there _ hmem).false

theorem Made.append {p : ℕ} {b : BlockName} {i : Instruction} (h : Made A ps)
    (hA : A.append b i = .ok (p, A')) : Made A' (p :: ps) := by
  obtain ⟨n, -, hn⟩ := bind_eq_ok.1 hA
  cases hn
  exact h.grow n i

theorem Made.addBlock {b : BlockName} (h : Made A ps) (hA : A.addBlock b = .ok (n, A')) :
    Made A' ps := by
  obtain ⟨_, hattach, hn⟩ := bind_eq_ok.1 hA
  cases hn
  exact (h.newBlock b.block).attach hattach

/-- The instructions of a block are appended one after the other. -/
theorem appendAll_holds (hmade : Made A' ps) (hext : Extends A A') (hn : A.blocks.size ≤ n)
    (hholds : A'.Holds n is) (rest : List Instruction) :
    (∃ qs, Made (appendAll n rest A') qs) ∧ Extends A (appendAll n rest A') ∧
      (appendAll n rest A').Holds n (is ++ rest) := by
  induction rest generalizing A' ps is with
  | nil => exact ⟨⟨ps, hmade⟩, hext, by simpa [appendAll] using hholds⟩
  | cons i rest ih =>
    have hstep := ih (hmade.grow n i) (hext.grow hn i) (grow_holds hholds i)
    rwa [List.append_assoc] at hstep

/-- A new block is empty, also when it knows its function. -/
theorem newBlock_own (A : Assembly) (name function : String) :
    Extends A ((A.newBlock name).2.own function A.blocks.size) ∧
      ((A.newBlock name).2.own function A.blocks.size).Holds A.blocks.size [] := by
  have hsame := (samePlaces_newBlock A name).trans (samePlaces_own _ function A.blocks.size)
  have hsize : ((A.newBlock name).2.own function A.blocks.size).blocks.size =
      A.blocks.size + 1 := by simp [newBlock, own]
  have hnone : (A.blockAt A.blocks.size).instructions = [] := by
    rw [blockAt, Array.getElem?_eq_none le_rfl]
    rfl
  refine ⟨⟨by omega, le_rfl, fun c _ => hsame.instructions c, fun _ _ => rfl⟩, by omega, ?_, ?_⟩
  · rw [hsame.instructions, hnone]
    rfl
  · intro j i hi
    cases hi

/-- The blocks of a function are found under their names, and others as before. -/
theorem addBlocks_holds (hmade : Made A ps) (bs : List Block) (f : DraftFunction)
    (hkeys : (bs.map (·.name)).Nodup) :
    (∃ qs, Made (addBlocks bs f A).2 qs) ∧ Extends A (addBlocks bs f A).2 ∧
      (∀ b ∈ bs, ∃ n, (addBlocks bs f A).1.blocks.get? b.name = some n ∧
        (addBlocks bs f A).2.Holds n b.instructions) ∧
      ∀ name ∉ bs.map (·.name),
        (addBlocks bs f A).1.blocks.get? name = f.blocks.get? name := by
  induction bs generalizing A ps f with
  | nil => exact ⟨⟨ps, hmade⟩, .refl A, by simp, fun _ _ => rfl⟩
  | cons b rest ih =>
    rw [List.map_cons, List.nodup_cons] at hkeys
    obtain ⟨hext, hempty⟩ := newBlock_own A b.name f.name
    obtain ⟨⟨qs, hqs⟩, hgrown, hheld⟩ :=
      appendAll_holds ((hmade.newBlock b.name).own f.name A.blocks.size) hext le_rfl hempty
        b.instructions
    obtain ⟨hmade', hext', hblocks, hothers⟩ := ih hqs (f.addBlock b.name A.blocks.size) hkeys.2
    refine ⟨hmade', hgrown.trans hext', ?_, ?_⟩
    · intro c hc
      rcases List.mem_cons.1 hc with rfl | hc
      · refine ⟨A.blocks.size, (hothers _ hkeys.1).trans ?_, hheld.mono hext'⟩
        rw [DraftFunction.addBlock, Data.Entries.get?_put, if_pos rfl]
      · exact hblocks c hc
    · intro name hname
      rw [List.map_cons, List.mem_cons, not_or] at hname
      refine (hothers name hname.2).trans ?_
      rw [DraftFunction.addBlock, Data.Entries.get?_put, if_neg (Ne.symm hname.1)]

theorem appendAll_functions (n : ℕ) (is : List Instruction) (A : Assembly) :
    (appendAll n is A).functions = A.functions := by
  induction is generalizing A with
  | nil => rfl
  | cons i rest ih => exact ih _

/-- While blocks are added to a function, no function changes, nor does its name. -/
theorem addBlocks_frame (bs : List Block) (f : DraftFunction) (A : Assembly) :
    (addBlocks bs f A).2.functions = A.functions ∧ (addBlocks bs f A).1.name = f.name := by
  induction bs generalizing f A with
  | nil => exact ⟨rfl, rfl⟩
  | cons b rest ih =>
    obtain ⟨hfunctions, hname⟩ := ih (f.addBlock b.name A.blocks.size)
      (appendAll A.blocks.size b.instructions ((A.newBlock b.name).2.own f.name A.blocks.size))
    exact ⟨hfunctions.trans (appendAll_functions _ _ _), hname⟩

/-- The functions are found under their names with all of their blocks, and others as before. -/
theorem addFunctions_holds (hmade : Made A ps) (fs : List Function)
    (hkeys : (fs.map (·.name)).Nodup) (hblocks : ∀ f ∈ fs, (f.blocks.map (·.name)).Nodup) :
    (∃ qs, Made (addFunctions fs A) qs) ∧ Extends A (addFunctions fs A) ∧
      (∀ f ∈ fs, ∃ draft, (addFunctions fs A).functions.get? f.name = some draft ∧
        ∀ b ∈ f.blocks, ∃ n, draft.blocks.get? b.name = some n ∧
          (addFunctions fs A).Holds n b.instructions) ∧
      ∀ name ∉ fs.map (·.name), (addFunctions fs A).functions.get? name = A.functions.get? name := by
  induction fs generalizing A ps with
  | nil => exact ⟨⟨ps, hmade⟩, .refl A, by simp, fun _ _ => rfl⟩
  | cons f rest ih =>
    rw [List.map_cons, List.nodup_cons] at hkeys
    rw [List.forall_mem_cons] at hblocks
    let given : DraftFunction := { name := f.name, intrinsic := f.intrinsic, file := f.file }
    obtain ⟨⟨qs, hqs⟩, hext, hheld, -⟩ := addBlocks_holds hmade f.blocks given hblocks.1
    obtain ⟨hfunctions, hname⟩ := addBlocks_frame f.blocks given A
    let draft : DraftFunction := { (addBlocks f.blocks given A).1 with entry := f.entry }
    have hadded : ((addBlocks f.blocks given A).2.addFunction draft).functions =
        A.functions.put f.name draft := by
      rw [addFunction, hfunctions]
      exact congrArg (A.functions.put · draft) hname
    have hlast : Extends (addBlocks f.blocks given A).2
        ((addBlocks f.blocks given A).2.addFunction draft) :=
      ⟨le_rfl, le_rfl, fun _ _ => rfl, fun _ _ => rfl⟩
    obtain ⟨hmade', hext', hfound, hothers⟩ := ih (hqs.addFunction draft) hkeys.2 hblocks.2
    refine ⟨hmade', (hext.trans hlast).trans hext', ?_, ?_⟩
    · intro g hg
      rcases List.mem_cons.1 hg with rfl | hg
      · refine ⟨draft, (hothers _ hkeys.1).trans ?_, fun b hb => ?_⟩
        · rw [hadded, Data.Entries.get?_put, if_pos rfl]
        · obtain ⟨n, hn, hblock⟩ := hheld b hb
          exact ⟨n, hn, hblock.mono (hlast.trans hext')⟩
      · exact hfound g hg
    · intro name hname
      rw [List.map_cons, List.mem_cons, not_or] at hname
      refine (hothers name hname.2).trans ?_
      rw [hadded, Data.Entries.get?_put, if_neg (Ne.symm hname.1)]

/-- Linking finds successors and changes nothing else. -/
theorem linkAll_frame (work : List (DraftFunction × ℕ)) (A : Assembly) :
    (linkAll work A).1.functions = A.functions ∧
      (linkAll work A).1.instructions = A.instructions ∧
      (linkAll work A).1.blocks.size = A.blocks.size := by
  induction work generalizing A with
  | nil => exact ⟨rfl, rfl, rfl⟩
  | cons fb rest ih =>
    obtain ⟨f, b⟩ := fb
    unfold linkAll
    split
    · obtain ⟨hfunctions, hinstructions, hblocks⟩ := ih { A with blocks := A.blocks.modify b _ }
      exact ⟨hfunctions, hinstructions, hblocks.trans Array.size_modify⟩
    · exact ⟨rfl, rfl, rfl⟩

theorem extends_linkAll (work : List (DraftFunction × ℕ)) (A : Assembly) :
    Extends A (linkAll work A).1 := by
  obtain ⟨-, hinstructions, hblocks⟩ := linkAll_frame work A
  refine ⟨hblocks.ge, (congrArg Array.size hinstructions).ge,
    fun c _ => (samePlaces_linkAll work A).instructions c, fun p _ => ?_⟩
  rw [placedAt, hinstructions, placedAt]

theorem ofProgram_made {M : Program} (hM : M.Distinct) : ∃ ps, Made (ofProgram M) ps := by
  obtain ⟨⟨ps, hps⟩, -⟩ := addFunctions_holds (.empty M.name) M.functions hM.1 hM.2
  exact ⟨ps, hps.link⟩

/-- **The assembly of a program lists the same instructions**, each of which remembers its own
position. -/
theorem ofProgram_holds {M : Program} (hM : M.Distinct) {p : Position} {i : Instruction}
    (hi : M.instruction? p = some i) : ∃ n k, (ofProgram M).block p.blockName = .ok n ∧
      ((ofProgram M).blockAt n).instructions.length = M.blockSize p.blockName ∧
      ((ofProgram M).blockAt n).instructions[p.index]? = some k ∧
      (ofProgram M).placedAt k = ⟨i, some (n, p.index)⟩ := by
  obtain ⟨b, hb, hindex⟩ := Program.instruction?_eq_some.1 hi
  obtain ⟨f, hf, hfb⟩ := Program.block?_eq_some.1 hb
  obtain ⟨hfmem, hfname⟩ := Program.mem_of_function? hf
  obtain ⟨hbmem, hbname⟩ := Function.mem_of_block? hfb
  obtain ⟨-, -, hfound, -⟩ := addFunctions_holds (.empty M.name) M.functions hM.1 hM.2
  obtain ⟨draft, hdraft, hblocks⟩ := hfound f hfmem
  obtain ⟨n, hn, hheld⟩ := hblocks b hbmem
  have hlinked : (ofProgram M).Holds n b.instructions := hheld.mono (extends_linkAll _ _)
  obtain ⟨k, -, hlisted, hplaced⟩ := hlinked.placed p.index i hindex
  refine ⟨n, k, ?_, ?_, hlisted, hplaced⟩
  · have hfunction : (ofProgram M).functions.get? p.blockName.function = some draft := by
      rw [ofProgram, link, (linkAll_frame _ _).1, ← hfname, hdraft]
    rw [hbname] at hn
    simp [block, function, hfunction, hn, bind, Except.bind, pure, Except.pure]
  · rw [Program.blockSize, hb]
    exact hlinked.length

end Assembly

/-- **The graph's short answers are those that the lists give.**  In every program of a description or
a source text, and in every assembly that was built without appending an instruction twice, they are
right about every position that a block lists.  It is known to be the first of its block exactly when
it is; a block is known to list it exactly when it does; it passes the check of its place; and its
block lists it once, it is followed by what stands behind it, and by nothing just when it is the
last.  A program has such an assembly, in which each of its instructions is listed in the place of
its position and remembers it. -/
theorem places_agree :
    (∀ M : Program, M.Accepted → (∀ p i, (p, i) ∈ M.positions → M.graph.Direct p) ∧
      ∃ ps, (Assembly.ofProgram M).Made ps ∧ ∀ p i, (p, i) ∈ M.positions →
        ∃ n k, (Assembly.ofProgram M).block p.blockName = .ok n ∧
          ((Assembly.ofProgram M).blockAt n).instructions.length = M.blockSize p.blockName ∧
          ((Assembly.ofProgram M).blockAt n).instructions[p.index]? = some k ∧
          (Assembly.ofProgram M).placedAt k = ⟨i, some (n, p.index)⟩) ∧
    ∀ (A : Assembly) (ps : List ℕ), A.Made ps →
      ∀ b, ∀ p ∈ (A.blockAt b).instructions, A.graph.Direct p := by
  refine ⟨fun M hM => ⟨fun p i hp => ?_, ?_⟩, fun A ps hA b p hp => hA.recorded.direct hp⟩
  · have hi := (mem_positions_iff hM.distinct).1 hp
    have hsize : p.index < M.blockSize p.blockName :=
      Program.instruction?_isSome.1 (by simp [hi])
    have hlisted : p ∈ M.listed p.blockName :=
      List.mem_of_getElem? (Program.getElem?_listed.2 ⟨hsize, rfl⟩)
    exact M.recorded.direct hlisted
  · obtain ⟨ps, hps⟩ := Assembly.ofProgram_made hM.distinct
    exact ⟨ps, hps, fun p i hp =>
      Assembly.ofProgram_holds hM.distinct ((mem_positions_iff hM.distinct).1 hp)⟩

/-- A call and a return, appended to a block of a function that was added before. -/
def Assembly.handmade : Except Fault Assembly := do
  let A := ({} : Assembly).addFunction { name := "f" }
  let (_, A) ← A.addBlock ⟨"f", "b"⟩
  let (_, A) ← A.append ⟨"f", "b"⟩
    { opcode := "call", kind := .call, text := "call f", callee := some "f" }
  let (_, A) ← A.append ⟨"f", "b"⟩ { opcode := "ret", kind := .ret, text := "ret" }
  pure A.link.1

/-- The return is the last of its block, in the loop of `Document.mixed` the branch is. -/
theorem places_agree_handmade :
    (∃ M, Document.mixed.build none = .ok M ∧ M.Accepted ∧ M.graph.Direct ⟨"main", "top", 2⟩) ∧
    ∃ A ps, Assembly.handmade = .ok A ∧ A.Made ps ∧ (A.blockAt 0).instructions = [0, 1] ∧
      A.graph.Direct 1 := by
  constructor
  · have hbuild : Document.mixed.build none = .ok (Document.mixed.described none) :=
      Document.build_eq_ok.2 ⟨by decide +kernel, rfl⟩
    have hM : (Document.mixed.described none).Accepted := .described (by decide) hbuild
    have hi : (⟨"main", "top", 2⟩, Line.instruction "Switch top top out") ∈
        (Document.mixed.described none).positions :=
      (mem_positions_iff hM.distinct).2 rfl
    exact ⟨_, hbuild, hM, (places_agree.1 _ hM).1 _ _ hi⟩
  · have hblock : Assembly.Made _ [] :=
      ((Assembly.Made.empty "<module>").addFunction { name := "f" }).addBlock
        (n := 0) (b := ⟨"f", "b"⟩) rfl
    have hcall : Assembly.Made _ [0] := hblock.append (b := ⟨"f", "b"⟩)
      (i := { opcode := "call", kind := .call, text := "call f", callee := some "f" }) rfl
    have hret : Assembly.Made _ [1, 0] := hcall.append (b := ⟨"f", "b"⟩)
      (i := { opcode := "ret", kind := .ret, text := "ret" }) rfl
    exact ⟨_, _, rfl, hret.link, rfl, places_agree.2 _ _ hret.link 0 1 (by decide)⟩

end CallReach
