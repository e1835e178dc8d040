import CallReach.Proofs.Loaded
import Mathlib.Data.Set.Finite.List
import Mathlib.Data.Finset.Lattice.Fold
import Mathlib.Order.Lattice.Nat

/-!
# Every search ends by itself

A search of a program ends even when nothing bounds it and steps cost nothing.  The guard lets a
function be entered once, so only finitely many stacks come up; a block entry is admitted once under
each stack; and between block entries control goes through a block in order or returns to a caller,
which uses up what is left of the blocks on the stack.

* `Program.Within` : the places that a search can come to; `Program.within_finite` : they are
  finitely many.
* `Program.rank` : what is left of the blocks at a place.
* `Searcher.potential` : what is pending, and what may still be admitted;
  `Searcher.Round.potential_lt` : every round uses some of it up.
* `search_ends_by_itself` : the number of rounds is bounded by the program, the start and the
  initial calls.
-/

namespace CallReach

/-! ### The places that a search can come to -/

namespace Program

variable {M : Program} {initial : List Position} {k l : Key Position}

/-- A place at an instruction.  Some of the initial calls are pending (all are given with the
innermost first), and above them calls of different functions. -/
structure Within (M : Program) (initial : List Position) (k : Key Position) : Prop where
  position : (M.instruction? k.position).isSome
  stack : ∃ entered kept, k.stack.innermostFirst = entered ++ kept ∧ kept <:+ initial ∧
    (∀ c ∈ entered, (M.instruction? c).isSome) ∧
    entered.Pairwise fun c d => (M.calleeAt c).function ≠ (M.calleeAt d).function

/-- The guard keeps the functions on the stack different. -/
theorem Within.step (hk : M.Within initial k) (h : M.graph.GuardedStep k l) :
    M.Within initial l := by
  obtain ⟨hposition, entered, kept, hstack, hkept, hcalls, hdistinct⟩ := hk
  cases h with
  | next _ hq => exact ⟨instruction?_of_nextOf hq, entered, kept, hstack, hkept, hcalls, hdistinct⟩
  | skip _ _ hq =>
    exact ⟨instruction?_of_nextOf hq, entered, kept, hstack, hkept, hcalls, hdistinct⟩
  | branch _ _ _ hq =>
    exact ⟨instruction?_of_firstOf hq, entered, kept, hstack, hkept, hcalls, hdistinct⟩
  | @enter p q s f b hc hinactive hq =>
    refine ⟨instruction?_of_firstOf hq, p :: entered, kept, ?_, hkept, ?_, ?_⟩
    · rw [CallStack.push, hstack, List.cons_append]
    · exact List.forall_mem_cons.2 ⟨hposition, hcalls⟩
    · refine List.pairwise_cons.2 ⟨fun c hmem => ?_, hdistinct⟩
      have hfunction : (M.calleeAt p).function = some f := congrArg Callee.function hc.2.1
      rw [hfunction]
      refine (hinactive c ?_).symm
      rw [CallStack.mem_calls, hstack]
      exact List.mem_append_left _ hmem
  | @resume p q c s _ hq =>
    refine ⟨instruction?_of_nextOf hq, ?_⟩
    -- the call that is returned from was entered on the way, or is one of the initial calls
    cases entered with
    | nil =>
      refine ⟨[], s.innermostFirst, rfl, (List.suffix_cons c _).trans ?_, by simp, .nil⟩
      have hkept' : c :: s.innermostFirst = kept := hstack
      rwa [hkept']
    | cons d rest =>
      obtain ⟨-, hrest⟩ := List.cons.inj hstack
      exact ⟨rest, kept, hrest, hkept, fun x hx => hcalls x (List.mem_cons_of_mem _ hx),
        (List.pairwise_cons.1 hdistinct).2⟩

/-- The instruction at a position is listed. -/
theorem mem_positions_of_instruction? {p : Position} {i : Instruction}
    (h : M.instruction? p = some i) : (p, i) ∈ M.positions := by
  obtain ⟨block, hb, hblock⟩ := instruction?_eq_some.1 h
  obtain ⟨f, hf, hfind⟩ := block?_eq_some.1 hb
  obtain ⟨hmem, hname⟩ := mem_of_function? hf
  obtain ⟨hblockMem, hblockName⟩ := Function.mem_of_block? hfind
  have hlisted : (p, i) ∈ f.blockPositions block := by
    rw [Function.blockPositions, hname, hblockName, List.mem_mapIdx]
    obtain ⟨hlt, hget⟩ := List.getElem?_eq_some_iff.1 hblock
    exact ⟨p.index, hlt, by rw [hget]; rfl⟩
  exact List.mem_flatMap.2 ⟨f, hmem, List.mem_flatMap.2 ⟨block, hblockMem, hlisted⟩⟩

theorem instructions_finite (M : Program) : {p | (M.instruction? p).isSome}.Finite := by
  refine (M.positions.map (·.1)).finite_toSet.subset fun p hp => ?_
  obtain ⟨i, hi⟩ := Option.isSome_iff_exists.1 hp
  exact List.mem_map.2 ⟨(p, i), mem_positions_of_instruction? hi, rfl⟩

end Program

/-- Lists without repetition over a finite set are finitely many. -/
theorem nodup_lists_finite {α : Type} {s : Set α} (hs : s.Finite) :
    {xs : List α | xs.Nodup ∧ ∀ x ∈ xs, x ∈ s}.Finite := by
  classical
  have : Finite s := hs
  refine ((List.finite_length_le s hs.toFinset.card).image (List.map Subtype.val)).subset ?_
  rintro xs ⟨hnodup, hmem⟩
  have hsub : xs.toFinset ⊆ hs.toFinset := fun x hx => by simpa using hmem x (by simpa using hx)
  have hlength : xs.length ≤ hs.toFinset.card := by
    rw [← List.toFinset_card_of_nodup hnodup]
    exact Finset.card_le_card hsub
  exact ⟨xs.attachWith (· ∈ s) hmem, by simpa using hlength, List.attachWith_map_subtype_val _⟩

/-- **The places that a search can come to are finitely many.** -/
theorem Program.within_finite (M : Program) (initial : List Position) :
    {k | M.Within initial k}.Finite := by
  have hpositions := M.instructions_finite
  have hplaces := hpositions.prod ((nodup_lists_finite hpositions).prod
    initial.tails.finite_toSet)
  refine (hplaces.image fun x => (⟨x.1, ⟨x.2.1 ++ x.2.2⟩⟩ : Key Position)).subset fun k hk => ?_
  obtain ⟨hposition, entered, kept, hstack, hkept, hcalls, hdistinct⟩ := hk
  refine ⟨(k.position, entered, kept), ⟨hposition, ⟨?_, hcalls⟩, ?_⟩, ?_⟩
  · refine hdistinct.imp ?_
    rintro c d h rfl
    exact h rfl
  · exact (List.mem_tails _ _).2 hkept
  · simp only [← hstack]

/-! ### What is left of the blocks at a place -/

namespace Program

variable {M : Program} {p q c : Position} {s : CallStack Position}

/-- What is left of a block, from a position on. -/
def remaining (M : Program) (p : Position) : ℕ := M.blockSize p.blockName - p.index

/-- What is left of the blocks of a place and of the pending calls. -/
def rank (M : Program) (k : Key Position) : ℕ :=
  M.remaining k.position + (k.stack.innermostFirst.map M.remaining).sum

theorem nextOf_eq_ok (h : M.graph.nextOf p = .ok (some q)) :
    q.index ≠ 0 ∧ M.remaining q < M.remaining p := by
  simp only [Program.graph] at h
  split_ifs at h with hlt
  cases h
  refine ⟨Nat.succ_ne_zero _, ?_⟩
  show M.blockSize p.blockName - (p.index + 1) < M.blockSize p.blockName - p.index
  omega

theorem firstOf_eq_ok {b : BlockName} (h : M.graph.firstOf b = .ok q) : q.index = 0 := by
  simp only [Program.graph] at h
  split_ifs at h
  cases h
  rfl

/-- What the state behind a move adds to what is pending; block entries are paid for when they are
marked. -/
def extra (M : Program) : Except Fault (Move Position) → ℕ
  | .ok m => if m.position.index = 0 then 0 else M.rank m.key + 1
  | .error _ => 0

/-- The moves within a block and back to a caller leave less of the blocks than there was. -/
theorem extra_single {target : Except Fault Position} {n : ℕ}
    (h : ∀ q, target = .ok q → q.index ≠ 0 → M.rank ⟨q, s⟩ < n)
    {list : List (Except Fault (Move Position))}
    (hlist : Expansion.single target s = .moves list) : (list.map M.extra).sum ≤ n := by
  cases hlist
  cases target with
  | error fault => simp [Except.map, extra]
  | ok q =>
    by_cases hq : q.index = 0
    · simp [Except.map, extra, hq]
    · have := h q rfl hq
      simp only [Except.map, extra, hq, Move.key, List.map_cons, List.map_nil, List.sum_cons,
        List.sum_nil, if_false]
      omega

/-- **An expansion adds less than the expanded state accounts for**, block entries apart. -/
theorem expand_extra {s : State Position} {list : List (Except Fault (Move Position))}
    (h : expand M.graph s = .ok (.moves list)) : (list.map M.extra).sum ≤ M.rank s.key := by
  have hfollower : ∀ q, M.graph.followerOf s.position = .ok q → q.index ≠ 0 →
      M.rank ⟨q, s.stack⟩ < M.rank s.key := by
    intro q hq _
    have := (nextOf_eq_ok (followerOf_eq_ok.1 hq)).2
    simp only [rank, State.key]
    omega
  unfold expand at h
  split at h
  · have hlist := Except.ok.inj h
    unfold expandCall at hlist
    simp only at hlist
    split at hlist
    · split_ifs at hlist
      · exact extra_single (fun q hq hne => absurd (firstOf_eq_ok hq) hne) hlist
      · exact extra_single hfollower hlist
    · exact extra_single hfollower hlist
  · have hlist := Except.ok.inj h
    obtain ⟨p, d, ⟨_ | ⟨c, rest⟩⟩⟩ := s
    · cases hlist
      simp
    · refine extra_single (fun q hq _ => ?_) hlist
      have := (nextOf_eq_ok (returnOf_eq_ok.1 hq)).2
      simp only [rank, State.key, List.map_cons, List.sum_cons]
      omega
  · unfold expandBranch at h
    obtain ⟨b, -, hlist⟩ := bind_eq_ok.1 h
    cases Except.ok.inj hlist
    -- a terminator leads to block entries only
    refine (List.sum_eq_zero fun x hx => ?_).le.trans (Nat.zero_le _)
    obtain ⟨_, hmove, rfl⟩ := List.mem_map.1 hx
    obtain ⟨t, -, rfl⟩ := List.mem_map.1 hmove
    cases hfirst : M.graph.firstOf t with
    | error fault => rfl
    | ok q => simp [Except.map, extra, firstOf_eq_ok hfirst]
  · exact extra_single hfollower (Except.ok.inj h)
  · cases h

end Program

/-! ### What a search can still do -/

namespace Searcher

open scoped List

variable {M : Program} {K : Finset (Key Position)} {r e : Searcher Position BlockName String}
  {s : State Position}

/-- The places of `K` that the filter does not hold. -/
def unseen (K : Finset (Key Position)) (r : Searcher Position BlockName String) : ℕ :=
  (K.filter fun k => r.seen.contains r.graph.slot k = false).card

/-- What the pending states account for, and what the places of `K` that can still be marked may add
to it. -/
def potential (M : Program) (K : Finset (Key Position))
    (r : Searcher Position BlockName String) : ℕ :=
  (r.pending.map fun s => M.rank s.key + 1).sum + unseen K r * (K.sup M.rank + 1)

theorem pending_take {head : State Position} {rest : Frontier (State Position)}
    (h : r.verdict = .expand head rest) : r.pending ~ head :: rest.tickets.map (·.item) := by
  obtain ⟨t, hpop, rfl, -⟩ := verdict_eq_expand h
  exact (Frontier.pop?_eq_some hpop).1.map (·.item)

/-- A block entry that is marked can not be marked again. -/
theorem unseen_mark {seen : Seen Position} (hs : s.key ∈ K)
    (hentry : r.graph.isBlockEntry s.position = .ok true)
    (hnew : r.seen.wasSeen r.graph s = .ok false) (hmark : r.seen.mark r.graph s = .ok seen) :
    unseen K { r with seen } + 1 = unseen K r := by
  have hfresh : r.seen.contains r.graph.slot s.key = false := by
    by_contra hcontains
    have hdup := Seen.wasSeen_eq_true.2 ⟨hentry, by simpa using hcontains⟩
    cases hnew.symm.trans hdup
  have herase : (K.filter fun k => seen.contains r.graph.slot k = false) =
      (K.filter fun k => r.seen.contains r.graph.slot k = false).erase s.key := by
    ext k
    have hk := Seen.mark_eq_ok hmark k
    simp only [hentry, true_and] at hk
    simp only [Finset.mem_filter, Finset.mem_erase, ← Bool.not_eq_true, hk, not_or]
    tauto
  have hmem : s.key ∈ K.filter fun k => r.seen.contains r.graph.slot k = false :=
    Finset.mem_filter.2 ⟨hs, hfresh⟩
  show (K.filter fun k => seen.contains r.graph.slot k = false).card + 1 = _
  rw [herase]
  exact Finset.card_erase_add_one hmem

/-- Other positions are not marked. -/
theorem unseen_inside {seen : Seen Position} (hentry : r.graph.isBlockEntry s.position = .ok false)
    (hmark : r.seen.mark r.graph s = .ok seen) : unseen K { r with seen } = unseen K r := by
  have hcontains : ∀ k, seen.contains r.graph.slot k = r.seen.contains r.graph.slot k := by
    intro k
    have hk := Seen.mark_eq_ok hmark k
    simp only [hentry, Except.ok.injEq, Bool.false_eq_true, false_and, false_or] at hk
    exact Bool.eq_iff_iff.2 hk
  simp only [unseen, hcontains]

/-- A state that is received adds what it accounts for, unless it is at a block entry. -/
theorem accept_potential (hgraph : r.graph = M.graph) (hs : s.key ∈ K)
    (h : r.accept s = .ok e) :
    potential M K e ≤ potential M K r + if s.position.index = 0 then 0 else M.rank s.key + 1 := by
  rcases accept_cases h with ⟨-, rfl⟩ | ⟨-, -, rfl⟩ | ⟨hnew, frontier, seen, hpush, hmark, rfl⟩
  · exact Nat.le_add_right _ _
  · exact Nat.le_add_right _ _
  · have hpending : ((frontier.tickets.map (·.item)).map fun s => M.rank s.key + 1).sum =
        M.rank s.key + 1 + (r.pending.map fun s => M.rank s.key + 1).sum := by
      rw [(((Frontier.push?_eq_some hpush).1.map (·.item)).map _).sum_eq]
      rfl
    have hentry : r.graph.isBlockEntry s.position = .ok (s.position.index == 0) := by
      rw [hgraph]
      rfl
    have hpotential : potential M K { r with frontier, seen } =
        M.rank s.key + 1 + (r.pending.map fun s => M.rank s.key + 1).sum +
          unseen K { r with seen } * (K.sup M.rank + 1) := by
      rw [← hpending]
      rfl
    rw [hpotential, potential]
    by_cases hindex : s.position.index = 0
    · -- the place is marked now, which pays for the pending state
      have hcount := unseen_mark hs (by simp [hentry, hindex]) hnew hmark
      have hrank : M.rank s.key ≤ K.sup M.rank := Finset.le_sup hs
      rw [← hcount, Nat.add_mul, if_pos hindex]
      omega
    · -- nothing is marked, so the state has to be accounted for
      rw [unseen_inside (by simp [hentry, hindex]) hmark, if_neg hindex]
      omega

theorem followAll_potential (head : State Position) {list : List (Except Fault (Move Position))}
    (hgraph : r.graph = M.graph) (hlist : ∀ m, .ok m ∈ list → Move.key m ∈ K) :
    potential M K (r.followAll head list).1 ≤ potential M K r + (list.map M.extra).sum := by
  induction list generalizing r with
  | nil => exact Nat.le_add_right _ _
  | cons m rest ih =>
    rw [followAll]
    split
    · rename_i u hu
      obtain ⟨mv, n, rfl, -, hacc⟩ := follow_eq_ok hu
      have hfirst := accept_potential hgraph (hlist mv List.mem_cons_self) hacc
      have hrest := ih ((accept_frame hacc).1.trans hgraph) fun m hm =>
        hlist m (List.mem_cons_of_mem _ hm)
      simp only [List.map_cons, List.sum_cons, Program.extra]
      exact hrest.trans (by rw [← Nat.add_assoc]; exact Nat.add_le_add_right hfirst _)
    · exact Nat.le_add_right _ _

/-- **Every round uses up some of the potential.** -/
theorem Round.potential_lt (h : r.Round e) (hgraph : r.graph = M.graph)
    (hK : ∀ k ∈ K, ∀ l, M.graph.GuardedStep k l → l ∈ K) (hr : r.AllGood (· ∈ K)) :
    potential M K e < potential M K r := by
  obtain ⟨head, rest, hv, hs⟩ := h
  have hhead : head.key ∈ K := hr head (Or.inr ((mem_pending_take hv).2 (Or.inl rfl)))
  have htake : potential M K { r with frontier := rest, expanded := head :: r.expanded } +
      M.rank head.key + 1 = potential M K r := by
    have hpending := ((pending_take hv).map fun s => M.rank s.key + 1).sum_eq
    simp only [List.map_cons, List.sum_cons] at hpending
    unfold potential
    rw [hpending]
    show (List.map _ (rest.tickets.map (·.item))).sum + unseen K r * _ + _ + 1 = _
    omega
  unfold step expandState at hs
  split at hs
  · rename_i u hu
    obtain rfl := (Prod.mk.inj hs).1
    show potential M K u < _
    split at hu
    · simp at hu
    · obtain rfl := (Prod.mk.inj hu).1
      show potential M K { r with frontier := rest, expanded := head :: r.expanded } < _
      omega
    · rename_i list hx
      have hx' : expand M.graph head = .ok (.moves list) := hgraph ▸ hx
      have hmoves : ∀ m, .ok m ∈ list → Move.key m ∈ K := fun m hm =>
        hK _ hhead _ ((expand_yields hx' m).1 hm)
      have hbound := followAll_potential head
        (r := { r with frontier := rest, expanded := head :: r.expanded }) hgraph hmoves
      have hextra := Program.expand_extra hx'
      rw [hu] at hbound
      dsimp only at hbound
      omega
  · simp at hs

end Searcher

/-! ### The number of rounds -/

namespace Searcher

section Count

variable {P B F : Type} [DecidableEq P] [DecidableEq F] {r e : Searcher P B F}

theorem Round.iterations (h : r.Round e) : e.iterations = r.iterations + 1 := by
  obtain ⟨head, rest, -, hs⟩ := h
  obtain ⟨_, _, _, _, _, n, hframe, -, hcount⟩ := step_frame r head rest
  rw [hs] at hframe hcount
  exact (congrArg Searcher.iterations hframe).trans (hcount rfl)

/-- When every round uses up some of a measure, a run that is allowed more rounds than there is of
it does not come to the bound on them. -/
theorem runFor_ne_iterationBound {I : Searcher P B F → Prop} {μ : Searcher P B F → ℕ}
    (hround : ∀ a b, I a → a.Round b → I b ∧ μ b < μ a) {fuel : ℕ} (hr : I r) (hfuel : μ r < fuel)
    (hbound : r.iterations + μ r < r.config.maxIterations) {res : SearchResult}
    (h : (runFor fuel r).2 = .ok res) :
    res.reason ≠ .iterationBound ∧ res.stats.iterations ≤ r.iterations + μ r := by
  induction fuel generalizing r with
  | zero => exact absurd hfuel (Nat.not_lt_zero _)
  | succ fuel ih =>
    unfold runFor at h
    split at h
    · rename_i reason hv
      cases Except.ok.inj h
      refine ⟨?_, Nat.le_add_right _ _⟩
      rintro rfl
      obtain ⟨⟨⟩, -⟩ | ⟨t, rest, -, ⟨⟨⟩, -⟩ | ⟨-, hmax⟩ | ⟨⟨⟩, -⟩⟩ := verdict_eq_stop hv
      omega
    · rename_i head rest hv
      simp only at h
      split at h
      · rename_i u hu
        have hru : r.Round u := ⟨head, rest, hv, hu⟩
        obtain ⟨hIu, hless⟩ := hround r u hr hru
        have hcount := hru.iterations
        have hconfig := hru.turns.sameTask.config
        obtain ⟨hreason, hiterations⟩ := ih hIu (by omega) (by rw [hconfig]; omega) h
        exact ⟨hreason, by omega⟩
      · simp at h

end Count

end Searcher

/-- The potential of a new search is that of its start and of all places that can be marked. -/
theorem create_potential {M : Program} {K : Finset (Key Position)} {start target : Position}
    {calls : List Position} {config : Config Position} {r : Searcher Position BlockName String}
    (h : Searcher.create M.graph start target calls config = .ok r) :
    Searcher.potential M K r ≤
      M.rank ⟨start, .ofCalls calls⟩ + 1 + K.card * (K.sup M.rank + 1) := by
  obtain ⟨-, -, hkey, -⟩ := Searcher.create_frame h
  obtain ⟨frontier, seen, rfl, hpush, -⟩ := Searcher.create_eq_ok h
  have hpending := (((Frontier.push?_eq_some hpush).1.map (·.item)).map
    fun s => M.rank s.key + 1).sum_eq
  have hunseen := Finset.card_filter_le K fun k => seen.contains M.graph.slot k = false
  rw [← hkey]
  refine Nat.add_le_add ?_ (Nat.mul_le_mul_right _ hunseen)
  exact hpending.le

/-- **Every search ends by itself.**  For a loaded program, a start and initial calls there is a
number of rounds `N` that is enough: whatever the target, the step cost (a natural number at
instructions, also nothing at all), the bound on distances and the capacity of the frontier, a
search that may take more rounds than `N` returns a result, takes at most `N` rounds and does not
stop because of their number. -/
theorem search_ends_by_itself {M : Program} (hM : M.Loaded) (start : Position)
    (calls : List Position) (hstart : (M.instruction? start).isSome)
    (hcalls : ∀ c ∈ calls, M.IsCall c) :
    ∃ N, ∀ (target : Position) (config : Config Position),
      (∀ p, (M.instruction? p).isSome → ∃ n, config.cost p = .ok n) → N < config.maxIterations →
      ∃ r res, Searcher.create M.graph start target calls config = .ok r ∧ r.run.2 = .ok res ∧
        res.reason ≠ .iterationBound ∧ res.stats.iterations ≤ N := by
  have hfinite := M.within_finite calls.reverse
  have hK : ∀ k ∈ hfinite.toFinset, ∀ l, M.graph.GuardedStep k l → l ∈ hfinite.toFinset := by
    intro k hk l hstep
    have hwithin : M.Within calls.reverse k := hfinite.mem_toFinset.1 hk
    exact hfinite.mem_toFinset.2 (hwithin.step hstep)
  have hbegin : M.Within calls.reverse ⟨start, .ofCalls calls⟩ :=
    ⟨hstart, [], calls.reverse, rfl, List.suffix_rfl, by simp, .nil⟩
  refine ⟨M.rank ⟨start, .ofCalls calls⟩ + 1 +
    hfinite.toFinset.card * (hfinite.toFinset.sup M.rank + 1), fun target config hcost hN => ?_⟩
  obtain ⟨r, res, hr, hres, -⟩ := hM.wellFormed.search target hstart hcalls hcost
  have hpotential := create_potential (K := hfinite.toFinset) hr
  have hadmitted := Searcher.create_admitted hr
  obtain ⟨hgraph, hconfig, hkey, -⟩ := Searcher.create_frame hr
  have hzero : r.iterations = 0 := by
    obtain ⟨frontier, seen, rfl, -⟩ := Searcher.create_eq_ok hr
    rfl
  -- a new search has admitted its start alone, which is one of the places
  have hgood : r.AllGood (· ∈ hfinite.toFinset) := by
    intro s hs
    rw [(hadmitted s).1 hs, hkey]
    exact hfinite.mem_toFinset.2 hbegin
  have hround : ∀ a b : Searcher Position BlockName String,
      (a.graph = M.graph ∧ a.AllGood (· ∈ hfinite.toFinset)) → a.Round b →
      (b.graph = M.graph ∧ b.AllGood (· ∈ hfinite.toFinset)) ∧
        b.potential M hfinite.toFinset < a.potential M hfinite.toFinset := by
    intro a b ⟨hgraph, hgood⟩ hround
    have hturns := hround.turns
    refine ⟨⟨hturns.sameTask.graph.trans hgraph, ?_⟩, hround.potential_lt hgraph hK hgood⟩
    exact hturns.allGood (fun k l hk hstep => hK k hk l (hgraph ▸ hstep)) hgood
  obtain ⟨hreason, hiterations⟩ := Searcher.runFor_ne_iterationBound hround ⟨hgraph, hgood⟩
    (by rw [hconfig, hzero]; omega) (by rw [hconfig, hzero]; omega) (Searcher.run_eq_ok hres)
  exact ⟨r, res, hr, hres, hreason, by omega⟩

/-- Two functions that call each other without end. -/
def Document.pingPong : Document where
  functions := [
    ("main", { blocks := [("a", ["call ping", "ret"])] }),
    ("ping", { blocks := [("a", ["call pong", "br a"])] }),
    ("pong", { blocks := [("a", ["call ping", "br a"])] })]

/-- The program of `Document.pingPong`. -/
def Program.pingPong : Program where
  name := "<program>"
  functions := [
    { name := "main", entry := some "a", blocks := [
      { name := "a", instructions := [
        { opcode := "call", kind := .call, text := "call ping", callee := some "ping" },
        { opcode := "ret", kind := .ret, text := "ret" }] }] },
    { name := "ping", entry := some "a", blocks := [
      { name := "a", instructions := [
        { opcode := "call", kind := .call, text := "call pong", callee := some "pong" },
        { opcode := "br", kind := .terminator, text := "br a", targets := ["a"] }] }] },
    { name := "pong", entry := some "a", blocks := [
      { name := "a", instructions := [
        { opcode := "call", kind := .call, text := "call ping", callee := some "ping" },
        { opcode := "br", kind := .terminator, text := "br a", targets := ["a"] }] }] }]

/-- A search inside a call, at no cost, of a position that is not there. -/
theorem search_ends_by_itself_pingPong : Document.pingPong.build none = .ok Program.pingPong ∧
    ∃ N r res, Searcher.create Program.pingPong.graph ⟨"ping", "a", 0⟩ ⟨"island", "a", 0⟩
        [⟨"main", "a", 0⟩] ⟨1, N + 1, 5, .uniform 0⟩ = .ok r ∧ r.run.2 = .ok res ∧
      res.reason ≠ .iterationBound ∧ res.stats.iterations ≤ N := by
  have hbuild : Document.pingPong.build none = .ok Program.pingPong := by decide +kernel
  have hcall : Program.pingPong.IsCall ⟨"main", "a", 0⟩ := ⟨_, rfl, rfl⟩
  obtain ⟨N, hN⟩ := search_ends_by_itself (.described hbuild) ⟨"ping", "a", 0⟩
    [⟨"main", "a", 0⟩] rfl (by simpa using hcall)
  exact ⟨hbuild, N, hN ⟨"island", "a", 0⟩ ⟨1, N + 1, 5, .uniform 0⟩ (fun _ _ => ⟨0, rfl⟩)
    (Nat.lt_succ_self N)⟩

end CallReach
