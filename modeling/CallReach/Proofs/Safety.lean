import CallReach.Proofs.Admitted
import CallReach.Proofs.WellFormed

/-!
# Searches without faults

A search of a well-formed program has an answer to every question it asks: no position is detached,
no call is the last of its block, every branch leads to a block with a first position.

* `Graph.Sure` : a condition on places under which every step of the search has an answer and which
  every guarded step keeps.
* `Searcher.runFor_eq_ok` : a search that has only admitted such places returns a result.
* `Program.Sound` : places of a program at an instruction, with calls pending; `Program.sure` : in a
  well-formed program these are such places.
-/

namespace CallReach

/-- At the places `Good` every question of the search has an answer, and steps lead from them to
such places only. -/
structure Graph.Sure {P B F : Type} [DecidableEq F] (G : Graph P B F) (cost : StepCost P)
    (Good : Key P → Prop) : Prop where
  expands : ∀ s : State P, Good s.key → expand G s = .ok .pruned ∨
    ∃ list, expand G s = .ok (.moves list) ∧ ∀ m ∈ list, ∃ mv, m = .ok mv
  steps : ∀ k l, Good k → G.GuardedStep k l → Good l
  checked : ∀ k, Good k → G.check k.position = .ok () ∧
    ∃ entry, G.isBlockEntry k.position = .ok entry
  priced : ∀ k, Good k → ∃ n, cost k.position = .ok n

theorem exists_bind_ok {ε α β : Type} {x : Except ε α} {f : α → Except ε β}
    (hx : ∃ a, x = .ok a) (hf : ∀ a, ∃ b, f a = .ok b) : ∃ b, x >>= f = .ok b := by
  obtain ⟨a, rfl⟩ := hx
  exact hf a

namespace Searcher

variable {P B F : Type} [DecidableEq P] [DecidableEq F] {Good : Key P → Prop}
  {r : Searcher P B F} {s head : State P}

omit [DecidableEq F] in
/-- A state at a position that passes its check is received. -/
theorem accept_ok {entry : Bool} (hentry : r.graph.isBlockEntry s.position = .ok entry)
    (hcheck : r.graph.check s.position = .ok ()) : ∃ e, r.accept s = .ok e := by
  have hseen : ∃ dup, r.seen.wasSeen r.graph s = .ok dup := by
    refine exists_bind_ok ⟨entry, hentry⟩ fun entry => ?_
    cases entry <;> exact ⟨_, rfl⟩
  have hmark : ∃ seen, r.seen.mark r.graph s = .ok seen := by
    refine exists_bind_ok ⟨entry, hentry⟩ fun entry => ?_
    cases entry <;> exact ⟨_, rfl⟩
  -- only a block entry is checked, and only what is no duplicate
  unfold accept
  refine exists_bind_ok hseen fun dup => ?_
  cases dup with
  | true => exact ⟨_, rfl⟩
  | false =>
    refine exists_bind_ok ⟨entry, hentry⟩ fun entry => ?_
    cases hpush : r.frontier.push? s.distance s with
    | none =>
      cases entry with
      | true => exact exists_bind_ok ⟨(), hcheck⟩ fun _ => ⟨_, rfl⟩
      | false => exact ⟨_, rfl⟩
    | some frontier =>
      have hrest : ∃ e, (do pure { r with frontier, seen := ← r.seen.mark r.graph s } :
          Except Fault (Searcher P B F)) = .ok e := exists_bind_ok hmark fun seen => ⟨_, rfl⟩
      cases entry with
      | true => exact exists_bind_ok ⟨(), hcheck⟩ fun _ => hrest
      | false => exact hrest

theorem follow_ok (hG : r.graph.Sure r.config.cost Good) (hhead : Good head.key) {mv : Move P}
    (hmv : Good mv.key) : ∃ e, r.follow head (.ok mv) = .ok e := by
  obtain ⟨n, hn⟩ := hG.priced head.key hhead
  obtain ⟨hcheck, entry, hentry⟩ := hG.checked mv.key hmv
  obtain ⟨e, he⟩ := accept_ok (r := r)
    (s := head.advance mv.position n (some mv.stack)) hentry hcheck
  have hcost : r.config.costOf r.graph head.position = .ok n := costOf_eq_ok.2 hn
  exact ⟨e, by simpa [follow, hcost, bind, Except.bind] using he⟩

theorem followAll_ok (hG : r.graph.Sure r.config.cost Good) (hhead : Good head.key)
    {list : List (Except Fault (Move P))} (hlist : ∀ m ∈ list, ∃ mv, m = .ok mv ∧ Good mv.key) :
    (r.followAll head list).2 = none := by
  induction list generalizing r with
  | nil => rfl
  | cons m rest ih =>
    obtain ⟨mv, rfl, hmv⟩ := hlist m List.mem_cons_self
    obtain ⟨u, hu⟩ := follow_ok hG hhead hmv
    obtain ⟨_, _, _, _, hacc⟩ := follow_eq_ok hu
    obtain ⟨hgraph, hconfig, -⟩ := accept_frame hacc
    rw [followAll, hu]
    refine ih ?_ fun m hm => hlist m (List.mem_cons_of_mem _ hm)
    rw [hgraph, hconfig]
    exact hG

/-- An expansion of a good state has no fault. -/
theorem step_ok (hG : r.graph.Sure r.config.cost Good) (hhead : Good head.key)
    (rest : Frontier (State P)) : (r.step head rest).2 = none := by
  have hexpand : (expandState { r with frontier := rest, expanded := head :: r.expanded } head).2 =
      none := by
    rcases hG.expands head hhead with hx | ⟨list, hx, hlist⟩
    · simp [expandState, hx]
    · simp only [expandState, hx]
      refine followAll_ok (r := { r with frontier := rest, expanded := head :: r.expanded })
        hG hhead fun m hm => ?_
      obtain ⟨mv, rfl⟩ := hlist m hm
      exact ⟨mv, rfl, hG.steps _ _ hhead ((expand_yields hx mv).1 hm)⟩
  unfold step
  split
  · rfl
  · rename_i hu
    rw [hu] at hexpand
    cases hexpand

/-- All states that a search has admitted are good. -/
def AllGood (Good : Key P → Prop) (r : Searcher P B F) : Prop := ∀ s, r.Admitted s → Good s.key

omit [DecidableEq F] in
theorem Turns.allGood {e : Searcher P B F} (h : r.Turns e)
    (hsteps : ∀ k l, Good k → r.graph.GuardedStep k l → Good l) (hr : r.AllGood Good) :
    e.AllGood Good := by
  refine (h.invariant (I := fun e => e.graph = r.graph ∧ e.AllGood Good) ⟨rfl, hr⟩ ?_).2
  rintro a b ⟨hgraph, ha⟩ ht
  refine ⟨ht.sameTask.graph.trans hgraph, fun s hs => ?_⟩
  rcases ht.admitted_or_offers hs with hs | ⟨head, older, n, he, hstep, -⟩
  · exact ha s hs
  · exact hsteps _ _ (ha head (Or.inl (by simp [he]))) (hgraph ▸ hstep)

/-- **A search of good places returns a result**, however long it runs. -/
theorem runFor_eq_ok (fuel : ℕ) (hG : r.graph.Sure r.config.cost Good) (hr : r.AllGood Good) :
    ∃ res, (runFor fuel r).2 = .ok res := by
  induction fuel generalizing r with
  | zero =>
    unfold runFor
    split <;> exact ⟨_, rfl⟩
  | succ fuel ih =>
    unfold runFor
    split
    · exact ⟨_, rfl⟩
    · rename_i head rest hv
      have hhead : Good head.key := hr head (Or.inr ((mem_pending_take hv).2 (Or.inl rfl)))
      have hok := step_ok hG hhead rest
      have hturns := step_turns hv
      simp only
      split
      · rename_i u hu
        rw [hu] at hturns
        refine ih ?_ (hturns.allGood hG.steps hr)
        rw [hturns.sameTask.graph, hturns.sameTask.config]
        exact hG
      · rename_i u fault hu
        rw [hu] at hok
        cases hok

omit [DecidableEq F] in
/-- A search from a good place inside calls that are positions of their blocks can be made. -/
theorem create_ok {G : Graph P B F} {start target : P} {calls : List P} {config : Config P}
    {entry : Bool} (hstart : G.check start = .ok ()) (hentry : G.isBlockEntry start = .ok entry)
    (hcalls : ∀ c ∈ calls, G.check c = .ok () ∧ G.kindOf c = .ok .call) :
    ∃ r, create G start target calls config = .ok r := by
  have hcheck : checkCalls G calls = .ok () := by
    clear hstart hentry
    induction calls with
    | nil => rfl
    | cons c rest ih =>
      obtain ⟨hc, hkind⟩ := hcalls c List.mem_cons_self
      have hrest := ih fun d hd => hcalls d (List.mem_cons_of_mem _ hd)
      simp [checkCalls, hc, hkind, hrest, bind, Except.bind]
  obtain ⟨r, hr⟩ := accept_ok (r := blank G start target calls config)
    (s := (blank G start target calls config).start) hentry hstart
  exact ⟨r, by simpa [create, hstart, hcheck, bind, Except.bind] using hr⟩

end Searcher

/-! ### Searches of well-formed programs -/

namespace Program

variable {M : Program} {p q : Position} {b : BlockName}

/-- A call instruction of a program. -/
def IsCall (M : Program) (p : Position) : Prop := ∃ i, M.instruction? p = some i ∧ i.kind = .call

/-- A place at an instruction, with calls of the program pending. -/
structure Sound (M : Program) (k : Key Position) : Prop where
  position : (M.instruction? k.position).isSome
  calls : ∀ c ∈ k.stack.innermostFirst, M.IsCall c

theorem instruction?_isSome : (M.instruction? p).isSome ↔ p.index < M.blockSize p.blockName := by
  cases hb : M.block? p.blockName <;> simp [Program.instruction?, Program.blockSize, hb]

theorem kindOf_eq {i : Instruction} (hi : M.instruction? p = some i) :
    M.graph.kindOf p = .ok i.kind := by
  simp [Program.graph, hi]

/-- A position that is a call has an instruction. -/
theorem isCall_iff : M.IsCall p ↔ M.graph.kindOf p = .ok .call := by
  simp only [IsCall, Program.graph, Except.ok.injEq]
  cases M.instruction? p <;> simp

theorem instruction?_of_nextOf (h : M.graph.nextOf p = .ok (some q)) :
    (M.instruction? q).isSome := by
  simp only [Program.graph] at h
  split_ifs at h with hlt
  cases h
  exact instruction?_isSome.2 hlt

theorem instruction?_of_firstOf (h : M.graph.firstOf b = .ok q) : (M.instruction? q).isSome := by
  simp only [Program.graph] at h
  split_ifs at h with hlt
  cases h
  exact instruction?_isSome.2 hlt

theorem check_eq_ok (h : (M.instruction? p).isSome) : M.graph.check p = .ok () := by
  obtain ⟨i, hi⟩ := Option.isSome_iff_exists.1 h
  obtain ⟨block, hb, -⟩ := instruction?_eq_some.1 hi
  have hlt := instruction?_isSome.1 h
  simp [Graph.check, Program.graph, hb, hlt, bind, Except.bind, pure, Except.pure]

/-- A step leads from an instruction to an instruction. -/
theorem Sound.step {k l : Key Position} (hk : M.Sound k) (h : M.graph.GuardedStep k l) :
    M.Sound l := by
  cases h with
  | next _ hq => exact ⟨instruction?_of_nextOf hq, hk.calls⟩
  | skip _ _ hq => exact ⟨instruction?_of_nextOf hq, hk.calls⟩
  | enter hc _ hq =>
    refine ⟨instruction?_of_firstOf hq, fun c hmem => ?_⟩
    rcases List.mem_cons.1 hmem with rfl | hmem
    · exact isCall_iff.2 hc.1
    · exact hk.calls c hmem
  | resume _ hq =>
    exact ⟨instruction?_of_nextOf hq, fun c hmem => hk.calls c (List.mem_cons_of_mem _ hmem)⟩
  | branch _ _ _ hq => exact ⟨instruction?_of_firstOf hq, hk.calls⟩

/-- The block that a call leads to is there. -/
theorem block?_of_calleeAt (h : (M.calleeAt p).entry = some b) :
    ∃ block, M.block? b = some block := by
  unfold calleeAt at h
  split at h
  · cases h
  · rename_i f hf
    obtain ⟨name, hname⟩ := Option.bind_eq_some_iff.1 hf
    obtain ⟨block, hblock, rfl⟩ := Option.map_eq_some_iff.1 h
    obtain ⟨entry, -, hentry⟩ := Option.bind_eq_some_iff.1 hblock
    refine ⟨block, block?_eq_some.2 ⟨f, ?_, ?_⟩⟩
    · rw [(mem_of_function? hname.2).2]
      exact hname.2
    · rw [(Function.mem_of_block? hentry).2]
      exact hentry

namespace WellFormed

theorem followerOf (h : M.WellFormed) {i : Instruction} (hi : M.instruction? p = some i)
    (hplain : i.kind.endsBlock = false) : ∃ q, M.graph.followerOf p = .ok q := by
  obtain ⟨q, hq, -⟩ := h.nextOf hi hplain
  exact ⟨q, followerOf_eq_ok.2 hq⟩

theorem returnOf (h : M.WellFormed) (hp : M.IsCall p) : ∃ q, M.graph.returnOf p = .ok q := by
  obtain ⟨i, hi, hkind⟩ := hp
  obtain ⟨q, hq, -⟩ := h.nextOf hi (by rw [hkind]; rfl)
  exact ⟨q, returnOf_eq_ok.2 hq⟩

end WellFormed

end Program

/-- A single step with an answer is a step without a fault. -/
theorem single_ok {P : Type} {target : Except Fault P} {stack : CallStack P}
    (h : ∃ q, target = .ok q) : ∃ list, Expansion.single target stack = .moves list ∧
      ∀ m ∈ list, ∃ mv, m = .ok mv := by
  obtain ⟨q, rfl⟩ := h
  exact ⟨_, rfl, by simp [Except.map]⟩

namespace Program.WellFormed

variable {M : Program} {s : State Position} {i : Instruction}

theorem expandCall (h : M.WellFormed) (hi : M.instruction? s.position = some i)
    (hkind : i.kind = .call) : expandCall M.graph s = .pruned ∨
      ∃ list, CallReach.expandCall M.graph s = .moves list ∧ ∀ m ∈ list, ∃ mv, m = .ok mv := by
  have hnext : ∃ list, Expansion.single (M.graph.followerOf s.position) s.stack = .moves list ∧
      ∀ m ∈ list, ∃ mv, m = .ok mv :=
    single_ok (h.followerOf hi (by rw [hkind]; rfl))
  simp only [CallReach.expandCall]
  split
  · rename_i entry hentry
    split_ifs
    · exact Or.inl rfl
    · obtain ⟨block, hblock⟩ := Program.block?_of_calleeAt hentry
      exact Or.inr (single_ok ⟨_, (h.firstOf hblock).1⟩)
    · exact Or.inr hnext
  · exact Or.inr hnext

theorem expandReturn (h : M.WellFormed) (hs : M.Sound s.key) :
    ∃ list, expandReturn M.graph s = .moves list ∧ ∀ m ∈ list, ∃ mv, m = .ok mv := by
  obtain ⟨p, d, ⟨_ | ⟨c, rest⟩⟩⟩ := s
  · exact ⟨[], rfl, by simp⟩
  · exact single_ok (h.returnOf (hs.calls c List.mem_cons_self))

theorem expandBranch (h : M.WellFormed) (hi : M.instruction? s.position = some i) :
    ∃ list, expandBranch M.graph s = .ok (.moves list) ∧ ∀ m ∈ list, ∃ mv, m = .ok mv := by
  obtain ⟨block, hb, -⟩ := Program.instruction?_eq_some.1 hi
  have hblock : M.graph.blockOf s.position = .ok s.position.blockName := by
    simp [Program.graph, hb]
  refine ⟨_, by simp only [CallReach.expandBranch, hblock]; rfl, fun m hm => ?_⟩
  obtain ⟨t, ht, rfl⟩ := List.mem_map.1 hm
  obtain ⟨name, hname, rfl⟩ : ∃ name ∈ block.successors,
      ⟨s.position.blockName.function, name⟩ = t := by
    simpa [Program.graph, hb] using ht
  obtain ⟨target, htarget⟩ := (h.closed hb).known_of_successor hname
  rw [(h.firstOf htarget).1]
  exact ⟨_, rfl⟩

/-- **The search of a well-formed program has an answer to every question**, at every instruction
and inside any calls. -/
theorem sure (h : M.WellFormed) {cost : StepCost Position}
    (hcost : ∀ p, (M.instruction? p).isSome → ∃ n, cost p = .ok n) :
    M.graph.Sure cost M.Sound where
  expands s hs := by
    obtain ⟨i, hi⟩ := Option.isSome_iff_exists.1 hs.position
    have hi' : M.instruction? s.position = some i := hi
    unfold expand
    rw [Program.kindOf_eq hi']
    cases hkind : i.kind with
    | call => simpa using h.expandCall hi' hkind
    | ret => exact Or.inr (by simpa using h.expandReturn hs)
    | terminator => exact Or.inr (h.expandBranch hi')
    | other =>
      exact Or.inr (by simpa using single_ok (h.followerOf hi' (by rw [hkind]; rfl)))
  steps k l hk hstep := hk.step hstep
  checked k hk := ⟨Program.check_eq_ok hk.position, _, rfl⟩
  priced k hk := hcost _ hk.position

end Program.WellFormed

end CallReach
