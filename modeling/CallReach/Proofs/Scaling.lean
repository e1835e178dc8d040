import CallReach.Proofs.Bounds

/-!
# Costs in another unit

Multiply all step costs and the bound on distances by the same `k ≥ 1`.  Distances are compared with
each other and with their bound, and nothing else is done with them; all of these comparisons come
out as before.  So the search does the same in the other unit: `scale k` turns a search into the one
with the larger costs, and commutes with all that a search does.

* `Heap.map_merge` : a map that keeps the order of tickets keeps the shape of heaps.
* `Searcher.scale` : the search in the other unit; `Searcher.accept_scale`, `Searcher.step_scale`,
  `Searcher.verdict_scale` : what it does next.
* `Searcher.runFor_scale` : whole runs.
* `cost_scaling` : the same expansions, the same reason and counters, and `k` times the distance.
-/

namespace CallReach

/-! ### Heaps and queues -/

namespace Heap

variable {α β : Type}

/-- The heap with its tickets replaced, in the same shape. -/
def map (f : Ticket α → Ticket β) : Heap α → Heap β
  | .nil => .nil
  | .node rank root left right => .node rank (f root) (left.map f) (right.map f)

variable {f : Ticket α → Ticket β}

theorem rank_map (h : Heap α) : (h.map f).rank = h.rank := by
  cases h <;> rfl

theorem map_join (root : Ticket α) (a b : Heap α) :
    (join root a b).map f = join (f root) (a.map f) (b.map f) := by
  unfold join
  rw [rank_map, rank_map]
  split_ifs <;> rfl

theorem map_mergeNode (hf : ∀ a b, (f a).before (f b) = a.before b) (rank : ℕ) (root : Ticket α)
    (left right : Heap α) {mergeRight : Heap α → Heap α} {mergeRight' : Heap β → Heap β}
    (hright : ∀ b, (mergeRight b).map f = mergeRight' (b.map f)) (b : Heap α) :
    (mergeNode rank root left right mergeRight b).map f =
      mergeNode rank (f root) (left.map f) (right.map f) mergeRight' (b.map f) := by
  induction b with
  | nil => rfl
  | node rank' root' left' right' _ ih =>
    simp only [mergeNode, map, hf]
    split
    · rw [map_join, ih]
    · rw [map_join, hright]
      rfl

/-- **A map that keeps the order of tickets commutes with merging.** -/
theorem map_merge (hf : ∀ a b, (f a).before (f b) = a.before b) (a b : Heap α) :
    (merge a b).map f = merge (a.map f) (b.map f) := by
  induction a generalizing b with
  | nil => rfl
  | node rank root left right _ ih => exact map_mergeNode hf rank root left right ih b

theorem map_pop? (hf : ∀ a b, (f a).before (f b) = a.before b) (h : Heap α) :
    (h.map f).pop? = h.pop?.map fun (t, rest) => (f t, rest.map f) := by
  cases h with
  | nil => rfl
  | node rank root left right => simp [map, pop?, map_merge hf]

end Heap

/-! ### The other unit -/

variable {P B F : Type} {k : ℕ}

/-- A state in the other unit. -/
def State.scale (k : ℕ) (s : State P) : State P := { s with distance := k * s.distance }

/-- A waiting state in the other unit. -/
def Ticket.scale (k : ℕ) (t : Ticket (State P)) : Ticket (State P) :=
  ⟨k * t.distance, t.number, t.item.scale k⟩

theorem Ticket.before_scale (hk : 1 ≤ k) (a b : Ticket (State P)) :
    (a.scale k).before (b.scale k) = a.before b := by
  have hpos : (0 : Int) < k := by omega
  have hlt : (a.scale k).distance < (b.scale k).distance ↔ a.distance < b.distance :=
    Int.mul_lt_mul_left hpos
  have heq : (a.scale k).distance = (b.scale k).distance ↔ a.distance = b.distance :=
    Int.mul_eq_mul_left_iff hpos.ne'
  rw [Bool.eq_iff_iff]
  simp only [before, Bool.or_eq_true, Bool.and_eq_true, decide_eq_true_eq, beq_iff_eq, hlt, heq]
  rfl

/-- A queue in the other unit. -/
def Frontier.scale (k : ℕ) (q : Frontier (State P)) : Frontier (State P) :=
  { q with heap := q.heap.map (Ticket.scale k) }

namespace Frontier

theorem push?_scale (hk : 1 ≤ k) (q : Frontier (State P)) (s : State P) :
    (q.scale k).push? (s.scale k).distance (s.scale k) =
      (q.push? s.distance s).map (Frontier.scale k) := by
  have hinsert : (q.heap.insert ⟨s.distance, q.next, s⟩).map (Ticket.scale k) =
      (q.heap.map (Ticket.scale k)).insert ⟨(s.scale k).distance, q.next, s.scale k⟩ :=
    Heap.map_merge (Ticket.before_scale hk) _ _
  by_cases hfull : (q.size : Int) > q.capacity
  · have hfull' : ((q.scale k).size : Int) > (q.scale k).capacity := hfull
    rw [push?, push?, if_pos hfull, if_pos hfull']
    rfl
  · have hfull' : ¬ ((q.scale k).size : Int) > (q.scale k).capacity := hfull
    rw [push?, push?, if_neg hfull, if_neg hfull']
    simp only [Option.map_some, scale, hinsert]

theorem pop?_scale (hk : 1 ≤ k) (q : Frontier (State P)) :
    (q.scale k).pop? = q.pop?.map fun (t, rest) => (t.scale k, rest.scale k) := by
  rw [pop?, pop?, scale, Heap.map_pop? (Ticket.before_scale hk), Option.map_map, Option.map_map]
  rfl

theorem minDistance?_scale (q : Frontier (State P)) :
    (q.scale k).minDistance? = q.minDistance?.map ((k : Int) * ·) := by
  unfold minDistance? peek? scale
  cases q.heap <;> rfl

end Frontier

/-- Costs in the other unit; what is no cost is none there either. -/
def StepCost.scale (k : ℕ) (cost : StepCost P) : StepCost P := fun p => (cost p).map (k * ·)

/-- The distance that was found, in the other unit. -/
def SearchResult.scale (k : ℕ) (res : SearchResult) : SearchResult :=
  { res with distance := res.distance.map ((k : Int) * ·) }

namespace Searcher

/-- The search in the other unit. -/
def scale (k : ℕ) (r : Searcher P B F) : Searcher P B F :=
  { r with
    config := { r.config with
      maxDistance := k * r.config.maxDistance, cost := r.config.cost.scale k }
    start := r.start.scale k
    frontier := r.frontier.scale k
    expanded := r.expanded.map (State.scale k)
    result := r.result.map (SearchResult.scale k) }

/-! ### An expansion -/

section Expansion

variable [DecidableEq P]

theorem accept_scale (hk : 1 ≤ k) (r : Searcher P B F) (s : State P) :
    (r.scale k).accept (s.scale k) = (r.accept s).map (Searcher.scale k) := by
  have hpush : (r.scale k).frontier.push? (s.scale k).distance (s.scale k) =
      (r.frontier.push? s.distance s).map (Frontier.scale k) := Frontier.push?_scale hk _ _
  -- the filter and the checks do not look at the distance
  have hseen : (r.scale k).seen.wasSeen (r.scale k).graph (s.scale k) =
      r.seen.wasSeen r.graph s := rfl
  have hmark : (r.scale k).seen.mark (r.scale k).graph (s.scale k) = r.seen.mark r.graph s := rfl
  have hentry : (r.scale k).graph.isBlockEntry (s.scale k).position =
      r.graph.isBlockEntry s.position := rfl
  have hcheck : (r.scale k).graph.check (s.scale k).position = r.graph.check s.position := rfl
  simp only [accept, hpush, hseen, hmark, hentry, hcheck, bind, Except.bind]
  rcases r.seen.wasSeen r.graph s with fault | dup | dup
  · rfl
  · rcases r.graph.isBlockEntry s.position with fault | entry | entry
    · rfl
    · rcases r.frontier.push? s.distance s with _ | q
      · rfl
      · rcases r.seen.mark r.graph s with fault | seen <;> rfl
    · rcases r.graph.check s.position with fault | _
      · rfl
      · rcases r.frontier.push? s.distance s with _ | q
        · rfl
        · rcases r.seen.mark r.graph s with fault | seen <;> rfl
  · rfl

theorem follow_scale (hk : 1 ≤ k) (r : Searcher P B F) (s : State P)
    (m : Except Fault (Move P)) :
    (r.scale k).follow (s.scale k) m = (r.follow s m).map (Searcher.scale k) := by
  rcases m with fault | m
  · rfl
  · have hcost : (r.scale k).config.costOf (r.scale k).graph (s.scale k).position =
        (r.config.costOf r.graph s.position).map (k * ·) := by
      simp only [Config.costOf, scale, StepCost.scale, State.scale]
      cases r.config.cost s.position <;> rfl
    simp only [follow, hcost, bind, Except.bind]
    cases r.config.costOf r.graph s.position with
    | error fault => rfl
    | ok n =>
      have hadvance : (s.scale k).advance m.position ((k * n : ℕ) : Int) (some m.stack) =
          (s.advance m.position (n : Int) (some m.stack)).scale k := by
        simp [State.advance, State.scale, Int.mul_add]
      simp only [Except.map, hadvance]
      exact accept_scale hk r _

theorem followAll_scale (hk : 1 ≤ k) (r : Searcher P B F) (s : State P)
    (list : List (Except Fault (Move P))) :
    (r.scale k).followAll (s.scale k) list =
      ((r.followAll s list).1.scale k, (r.followAll s list).2) := by
  induction list generalizing r with
  | nil => rfl
  | cons m rest ih =>
    rw [followAll, followAll, follow_scale hk]
    cases r.follow s m with
    | error fault => rfl
    | ok u => exact ih u

variable [DecidableEq F]

theorem expandState_scale (hk : 1 ≤ k) (r : Searcher P B F) (s : State P) :
    (r.scale k).expandState (s.scale k) =
      ((r.expandState s).1.scale k, (r.expandState s).2) := by
  have hexpand : expand (r.scale k).graph (s.scale k) = expand r.graph s := rfl
  unfold expandState
  rw [hexpand]
  split
  · rfl
  · rfl
  · exact followAll_scale hk r s _

/-- **An expansion is the same in the other unit.** -/
theorem step_scale (hk : 1 ≤ k) (r : Searcher P B F) (head : State P)
    (rest : Frontier (State P)) :
    (r.scale k).step (head.scale k) (rest.scale k) =
      ((r.step head rest).1.scale k, (r.step head rest).2) := by
  have hexpand :=
    expandState_scale hk { r with frontier := rest, expanded := head :: r.expanded } head
  unfold step
  rw [show { r.scale k with
        frontier := rest.scale k, expanded := head.scale k :: (r.scale k).expanded } =
      scale k { r with frontier := rest, expanded := head :: r.expanded } from rfl, hexpand]
  generalize expandState { r with frontier := rest, expanded := head :: r.expanded } head = after
  obtain ⟨u, _ | fault⟩ := after <;> rfl

end Expansion

/-! ### Runs -/

/-- A verdict in the other unit. -/
def Verdict.scale (k : ℕ) : Verdict P → Verdict P
  | .stop reason => .stop reason
  | .expand head rest => .expand (head.scale k) (rest.scale k)

variable [DecidableEq P]

/-- **The verdict is the same in the other unit**: the nearest state and the bound on distances
are both `k` times as far. -/
theorem verdict_scale (hk : 1 ≤ k) (r : Searcher P B F) :
    (r.scale k).verdict = r.verdict.scale k := by
  have hpop : (r.scale k).frontier.pop? =
      r.frontier.pop?.map fun (t, rest) => (t.scale k, rest.scale k) := Frontier.pop?_scale hk _
  cases h : r.frontier.pop? with
  | none => simp [verdict, hpop, h, Verdict.scale]
  | some popped =>
    obtain ⟨t, rest⟩ := popped
    have hbound : ((k * r.config.maxDistance : ℕ) : Int) ≤ k * t.distance ↔
        (r.config.maxDistance : Int) ≤ t.distance := by
      rw [Int.natCast_mul, Int.mul_le_mul_left (by omega)]
    rw [h] at hpop
    rw [verdict_of_pop h, verdict_of_pop (r := r.scale k) hpop]
    show (if ((k * r.config.maxDistance : ℕ) : Int) ≤ k * t.distance then
        Verdict.stop .distanceBound
      else if r.config.maxIterations ≤ r.iterations then .stop .iterationBound
      else if t.item.position = r.target then .stop .found
      else .expand (t.item.scale k) (rest.scale k)) = _
    by_cases hfar : (r.config.maxDistance : Int) ≤ t.distance
    · rw [if_pos hfar, if_pos (hbound.2 hfar), Verdict.scale]
    · rw [if_neg hfar, if_neg (hbound.not.2 hfar)]
      split_ifs <;> rfl

omit [DecidableEq P] in
theorem finish_scale (r : Searcher P B F) (reason : StopReason) :
    (r.scale k).finish reason =
      ((r.finish reason).1.scale k, (r.finish reason).2.map (SearchResult.scale k)) := by
  have hmin : (r.scale k).frontier.minDistance? = r.frontier.minDistance?.map ((k : Int) * ·) :=
    Frontier.minDistance?_scale _
  have hresult : (⟨if reason = .found then (r.scale k).frontier.minDistance? else none, reason,
        (r.scale k).stats⟩ : SearchResult) =
      SearchResult.scale k
        ⟨if reason = .found then r.frontier.minDistance? else none, reason, r.stats⟩ := by
    rw [hmin]
    split_ifs <;> rfl
  simp only [finish, hresult]
  rfl

variable [DecidableEq F]

/-- **A run is the same in the other unit**, whether it ends with a result or with a fault. -/
theorem runFor_scale (hk : 1 ≤ k) (fuel : ℕ) (r : Searcher P B F) :
    runFor fuel (r.scale k) =
      ((runFor fuel r).1.scale k, (runFor fuel r).2.map (SearchResult.scale k)) := by
  induction fuel generalizing r with
  | zero =>
    cases hv : r.verdict with
    | stop reason =>
      have hv' : (r.scale k).verdict = .stop reason := by rw [verdict_scale hk, hv, Verdict.scale]
      rw [runFor_of_stop 0 hv, runFor_of_stop 0 hv', finish_scale]
    | expand head rest =>
      have hv' := verdict_scale hk r
      rw [hv] at hv'
      rw [runFor, runFor, hv, hv']
      exact finish_scale r .iterationBound
  | succ fuel ih =>
    cases hv : r.verdict with
    | stop reason =>
      have hv' : (r.scale k).verdict = .stop reason := by rw [verdict_scale hk, hv, Verdict.scale]
      rw [runFor_of_stop _ hv, runFor_of_stop _ hv', finish_scale]
    | expand head rest =>
      have hv' : (r.scale k).verdict = .expand (head.scale k) (rest.scale k) := by
        rw [verdict_scale hk, hv, Verdict.scale]
      rw [runFor_of_expand fuel hv, runFor_of_expand fuel hv', step_scale hk]
      -- both searches make the same step, and meet a fault in it together
      rcases r.step head rest with ⟨u, _ | fault⟩
      · exact ih u
      · rfl

/-! ### New searches -/

omit [DecidableEq F] in
theorem create_scale (hk : 1 ≤ k) (G : Graph P B F) (start target : P) (calls : List P)
    (config : Config P) :
    create G start target calls
        { config with maxDistance := k * config.maxDistance, cost := config.cost.scale k } =
      (create G start target calls config).map (Searcher.scale k) := by
  have hblank : blank G start target calls
        { config with maxDistance := k * config.maxDistance, cost := config.cost.scale k } =
      (blank G start target calls config).scale k := by
    simp [blank, scale, State.scale, Frontier.scale, Frontier.empty, Heap.map]
  have haccept := accept_scale hk (blank G start target calls config)
    (blank G start target calls config).start
  simp only [create, hblank, bind, Except.bind]
  rcases G.check start with fault | _
  · rfl
  · rcases checkCalls G calls with fault | _
    · rfl
    · exact haccept

end Searcher

/-- **Costs in another unit change distances and nothing else.**  With all step costs and the bound
on distances `k` times as large, a search can be made as before, expands states at the same
positions with the same stacks in the same order, and counts the same.  It ends with the same
fault, or for the same reason with `k` times the distance. -/
theorem cost_scaling [DecidableEq P] [DecidableEq F] (hk : 1 ≤ k) (G : Graph P B F)
    (start target : P) (calls : List P) (D I Q : ℕ) (cost : StepCost P) :
    (∀ fault, Searcher.create G start target calls ⟨D, I, Q, cost⟩ = .error fault ↔
      Searcher.create G start target calls ⟨k * D, I, Q, cost.scale k⟩ = .error fault) ∧
    ∀ r r', Searcher.create G start target calls ⟨D, I, Q, cost⟩ = .ok r →
      Searcher.create G start target calls ⟨k * D, I, Q, cost.scale k⟩ = .ok r' →
      r'.run.1.trace.map State.key = r.run.1.trace.map State.key ∧
      r'.run.1.stats = r.run.1.stats ∧
      (∀ fault, r.run.2 = .error fault ↔ r'.run.2 = .error fault) ∧
      ∀ distance reason stats, r.run.2 = .ok ⟨distance, reason, stats⟩ →
        r'.run.2 = .ok ⟨distance.map ((k : Int) * ·), reason, stats⟩ := by
  have hcreate := Searcher.create_scale hk G start target calls ⟨D, I, Q, cost⟩
  refine ⟨fun fault => ?_, fun r r' hr hr' => ?_⟩
  · simp only [hcreate]
    cases Searcher.create G start target calls ⟨D, I, Q, cost⟩ <;> simp [Except.map]
  · rw [hr] at hcreate
    obtain rfl : r' = r.scale k := Except.ok.inj (hr'.symm.trans hcreate)
    have hrun := Searcher.runFor_scale hk (r.config.maxIterations - r.iterations) r
    rw [← Searcher.run_of_create hr] at hrun
    rw [Searcher.run_of_create hr',
      show (r.scale k).config.maxIterations - (r.scale k).iterations =
        r.config.maxIterations - r.iterations from rfl, hrun]
    refine ⟨?_, rfl, fun fault => ?_, fun distance reason stats hres => ?_⟩
    · simp only [Searcher.trace, Searcher.scale, ← List.map_reverse, List.map_map]
      rfl
    · cases r.run.2 <;> simp [Except.map]
    · rw [hres]
      rfl

/-- Three times the cost, and three times the distance. -/
theorem cost_scaling_sample :
    1 ≤ 3 ∧ ∃ r r', Searcher.create Program.sample.graph ⟨"main", "a", 0⟩ ⟨"main", "a", 1⟩ []
        ⟨4, 5, 9, StepCost.uniform 1⟩ = .ok r ∧
      Searcher.create Program.sample.graph ⟨"main", "a", 0⟩ ⟨"main", "a", 1⟩ []
        ⟨3 * 4, 5, 9, (StepCost.uniform 1).scale 3⟩ = .ok r' ∧
      r'.run.1.trace.map State.key = r.run.1.trace.map State.key ∧
      r.run.2 = .ok ⟨some 3, .found, ⟨4, 1, 1, 0, 2⟩⟩ ∧
      r'.run.2 = .ok ⟨some 9, .found, ⟨4, 1, 1, 0, 2⟩⟩ := by
  have hk : 1 ≤ 3 := by decide
  obtain ⟨r, hr, hres⟩ := Searcher.run_of_toOption Program.sample.graph ⟨"main", "a", 0⟩
    ⟨"main", "a", 1⟩ [] ⟨4, 5, 9, StepCost.uniform 1⟩ ⟨some 3, .found, ⟨4, 1, 1, 0, 2⟩⟩
    (by decide +kernel)
  obtain ⟨hfaults, hruns⟩ := cost_scaling hk Program.sample.graph ⟨"main", "a", 0⟩
    ⟨"main", "a", 1⟩ [] 4 5 9 (StepCost.uniform 1)
  cases hr' : Searcher.create Program.sample.graph ⟨"main", "a", 0⟩ ⟨"main", "a", 1⟩ []
      ⟨3 * 4, 5, 9, (StepCost.uniform 1).scale 3⟩ with
  | error fault => cases hr.symm.trans ((hfaults fault).2 hr')
  | ok r' =>
    obtain ⟨htrace, -, -, hfound⟩ := hruns r r' hr hr'
    exact ⟨hk, r, r', hr, rfl, htrace, hres, hfound _ _ _ hres⟩

end CallReach
