import CallReach.Graph.OfProgram
import CallReach.Proofs.Admitted
import Mathlib.Order.Bounds.Basic

/-!
# Exact distances

The search marks a block entry when it is admitted, not when it is expanded, so a state that is
dropped as a duplicate could be nearer than the one before it.  It never is when every way into a
block entry costs the same at its last step or has been there before (`Graph.Steady`).  A search
that lost no state to a full frontier then tells the truth about the guarded walks to its target.

* `SearchResult.Exact` : what a result says about the costs of the ways to the target.
* `Searcher.exact_of_steady` : results are exact on a steady graph.
* `exact_of_constant_cost` : results are exact when all steps cost the same.

The proof keeps that every guarded step from an expanded state has been taken, at most at its price
(`Searcher.Covered`).  A walk from the start then either meets a pending state no farther than the
walk has come, or follows expanded states to its end, which the target never is.
-/

namespace CallReach

/-- The costs of the guarded walks from `origin` to a position. -/
def Graph.costsTo {P B F : Type} (G : Graph P B F) (w : P → ℕ) (origin : Key P) (target : P) :
    Set ℕ :=
  {n | ∃ ks s, Walk G.GuardedStep origin ks ⟨target, s⟩ ∧ n = cost w ks}

/-- A result is right about the costs of the ways to the target: a distance that was found is the
least of them, there are none when the search was exhausted, and all of them reach the bound on
distances when that bound ended it. -/
structure SearchResult.Exact (res : SearchResult) (bound : ℕ) (costs : Set ℕ) : Prop where
  found : res.reason = .found → ∃ n : ℕ, res.distance = some (n : Int) ∧ IsLeast costs n
  exhausted : res.reason = .exhausted → costs = ∅
  bounded : res.reason = .distanceBound → ∀ n ∈ costs, bound ≤ n

/-- A guarded walk that comes to a block entry does so at the price `last` of the entry and its
stack, or has been there before. -/
def Graph.Steady {P B F : Type} (G : Graph P B F) (w : P → ℕ) (origin : Key P)
    (last : Key P → ℕ) : Prop :=
  ∀ ks k l, Walk G.GuardedStep origin ks k → G.GuardedStep k l →
    G.isBlockEntry l.position = .ok true → l ∈ ks ++ [k] ∨ w k.position = last l

namespace Searcher

variable {P B F : Type} [DecidableEq P] {r e : Searcher P B F} {s : State P} {w : P → ℕ}
  {last : Key P → ℕ}

/-! ### Duplicates -/

/-- Every admitted block entry was admitted at most its last step ahead of the frontier. -/
def Timely (last : Key P → ℕ) (r : Searcher P B F) : Prop :=
  ∀ a, r.Admitted a → r.graph.isBlockEntry a.position = .ok true →
    ∃ b, r.Admitted b ∧ b.key = a.key ∧ r.Near b.distance (last a.key)

/-- What holds all the time in a search of a steady graph at the prices `w`. -/
structure Sound (w : P → ℕ) (last : Key P → ℕ) (r : Searcher P B F) : Prop where
  consistent : r.Consistent
  traced : r.Traced w
  prices : ∀ p, r.config.cost p = .ok (w p)
  steady : r.graph.Steady w r.start.key last
  timely : r.Timely last

/-- A state that is offered at a block entry costs its last step more than the state expanded last,
unless its key has been admitted on the way. -/
theorem Sound.arrival (hr : r.Sound w last) (ho : r.Offers s)
    (hentry : r.graph.isBlockEntry s.position = .ok true) :
    (∃ b, r.Admitted b ∧ b.key = s.key ∧ b.distance ≤ s.distance) ∨
      ∃ head older, r.expanded = head :: older ∧ s.distance = head.distance + last s.key := by
  obtain ⟨head, older, n, he, hstep, hn, hd⟩ := ho
  cases Except.ok.inj (hn.symm.trans (hr.prices head.position))
  obtain ⟨ks, hwalk, hcost, hplaces⟩ := hr.traced head (Or.inl (by simp [he]))
  rcases hr.steady ks head.key s.key hwalk hstep hentry with hmem | hlast
  · obtain ⟨before, after, heq⟩ := List.append_of_mem hmem
    obtain ⟨b, hb, hkey, hbd⟩ := hplaces before s.key after heq
    -- the way to the earlier visit is a part of the way to `head`, and costs no more
    have hle : cost w before ≤ cost w ks + w head.position := by
      have := congrArg (cost w) heq
      rw [cost_append, cost_singleton, cost_append] at this
      simp only [State.key] at this
      omega
    exact Or.inl ⟨b, hb, hkey, by omega⟩
  · exact Or.inr ⟨head, older, he, hlast ▸ hd⟩

/-- **A duplicate is no nearer than some state admitted under the same key.** -/
theorem Sound.duplicate (hr : r.Sound w last) (ho : r.Offers s)
    (hseen : r.seen.wasSeen r.graph s = .ok true) :
    ∃ b, r.Admitted b ∧ b.key = s.key ∧ b.distance ≤ s.distance := by
  obtain ⟨hentry, hcontains⟩ := Seen.wasSeen_eq_true.1 hseen
  obtain ⟨a, ha, hkey, haentry⟩ := (hr.consistent.seen_iff s.key).1 hcontains
  rcases hr.arrival ho hentry with hb | ⟨head, older, he, hd⟩
  · exact hb
  · obtain ⟨b, hb, hba, hnear⟩ := hr.timely a ha haentry
    refine ⟨b, hb, hba.trans hkey, ?_⟩
    rw [hd, ← hkey]
    exact hnear.1 head older he

theorem Turn.timely (h : r.Turn e) (hr : r.Sound w last) : e.Timely last := by
  intro a ha hentry
  -- what the search knew of a key before the turn still holds
  have old : ∀ b, r.Admitted b → b.key = a.key →
      ∃ c, e.Admitted c ∧ c.key = a.key ∧ e.Near c.distance (last a.key) := by
    intro b hb hkey
    have hpos : b.position = a.position := congrArg Key.position hkey
    have hbentry : r.graph.isBlockEntry b.position = .ok true := by
      rw [hpos, ← h.sameTask.graph]
      exact hentry
    obtain ⟨c, hc, hcb, hnear⟩ := hr.timely b hb hbentry
    exact ⟨c, h.admitted hc, hcb.trans hkey, hkey ▸ h.near hnear⟩
  rcases h.admitted_or_offers ha with ha' | ho
  · exact old a ha' rfl
  · rcases hr.arrival ho (h.sameTask.graph ▸ hentry) with ⟨b, hb, hkey, -⟩ | ⟨head, older, he, hd⟩
    · exact old b hb hkey
    · exact ⟨a, ha, rfl, h.near_of_offers hr.consistent he hd⟩

theorem Turn.sound (h : r.Turn e) (hr : r.Sound w last) : e.Sound w last where
  consistent := h.consistent hr.consistent
  traced := h.traced (fun p _ hn => Except.ok.inj (hn.symm.trans (hr.prices p))) hr.traced
  prices := h.sameTask.config ▸ hr.prices
  steady := by
    rw [h.sameTask.graph, h.sameTask.start]
    exact hr.steady
  timely := h.timely hr

theorem Turns.sound (h : r.Turns e) (hr : r.Sound w last) : e.Sound w last :=
  h.invariant (I := Sound w last) hr fun _ _ ha ht => ht.sound ha

theorem create_sound {G : Graph P B F} {start target : P} {calls : List P} {config : Config P}
    (h : create G start target calls config = .ok r) (hw : ∀ p, config.cost p = .ok (w p))
    (hG : G.Steady w ⟨start, .ofCalls calls⟩ last) : r.Sound w last := by
  have hadm := create_admitted h
  obtain ⟨hgraph, hconfig, hstart, -, hexpanded⟩ := create_frame h
  refine ⟨create_consistent h, create_traced w h, hconfig ▸ hw, ?_, fun a ha _ => ?_⟩
  · rw [hgraph, hstart]
    exact hG
  · -- the start is at no distance, and nothing else is there yet
    refine ⟨a, ha, rfl, fun head older he => ?_, fun b hb => ?_⟩
    · simp [hexpanded] at he
    · rw [(hadm a).1 ha, (hadm b).1 (Or.inr hb)]
      omega

theorem Turns.queueDropped_le (h : r.Turns e) : r.queueDropped ≤ e.queueDropped := by
  refine h.invariant (I := fun e => r.queueDropped ≤ e.queueDropped) le_rfl fun a b ha ht => ?_
  cases ht with
  | overflow => exact Nat.le_succ_of_le ha
  | take | enqueue | duplicate | prune | count | note => exact ha

/-! ### Every step from an expanded state is taken -/

/-- Every guarded step from an expanded state leads to an admitted state, at most at the price of
the step. -/
def Covered (w : P → ℕ) (r : Searcher P B F) : Prop :=
  ∀ a ∈ r.expanded, ∀ k, r.graph.GuardedStep a.key k →
    ∃ b, r.Admitted b ∧ b.key = k ∧ b.distance ≤ a.distance + w a.position

/-- A round takes all steps of the state it expands: a step ends at a new state, or at a duplicate
of one that is as near. -/
theorem Round.covered [DecidableEq F] (h : r.Round e) (hr : r.Sound w last) (hc : r.Covered w)
    (hfull : e.queueDropped = 0) : e.Covered w := by
  obtain ⟨head, rest, hv, hexp, hsteps⟩ := h.received
  intro a ha k hk
  rw [h.turns.sameTask.graph] at hk
  rw [hexp] at ha
  rcases List.mem_cons.1 ha with rfl | ha
  · obtain ⟨n, u, v, hn, hu, hoffer, hacc, hve⟩ := hsteps k hk
    cases Except.ok.inj (hn.symm.trans (hr.prices a.position))
    have huv := turn_of_accept hoffer hacc
    rcases accept_cases hacc with ⟨hdup, -⟩ | ⟨-, -, rfl⟩ | ⟨-, frontier, seen, hpush, -, rfl⟩
    · obtain ⟨b, hb, hkey, hle⟩ := (hu.sound hr).duplicate hoffer hdup
      exact ⟨b, hve.admitted (huv.admitted hb), hkey, hle⟩
    · -- a state lost to a full frontier would have been counted
      have := hve.queueDropped_le
      simp only at this
      omega
    · exact ⟨_, hve.admitted ((admitted_enqueue hpush).2 (Or.inl rfl)), rfl, le_rfl⟩
  · obtain ⟨b, hb, hkey, hle⟩ := hc a ha k hk
    exact ⟨b, h.turns.admitted hb, hkey, hle⟩

/-- **A walk from the start meets a pending state in time**, or has only passed expanded ones. -/
theorem Covered.reach (hc : r.Covered w) (hr : r.Consistent) {ks : List (Key P)} {k : Key P}
    (h : Walk r.graph.GuardedStep r.start.key ks k) :
    (∃ s ∈ r.pending, s.distance ≤ cost w ks) ∨
      ∃ s ∈ r.expanded, s.key = k ∧ s.distance ≤ cost w ks := by
  induction h with
  | nil =>
    rcases hr.started with hs | hs
    · exact Or.inr ⟨r.start, hs, rfl, by simp [hr.origin]⟩
    · exact Or.inl ⟨r.start, hs, by simp [hr.origin]⟩
  | @snoc ks k l _ hstep ih =>
    rw [cost_append, cost_singleton]
    rcases ih with ⟨s, hs, hle⟩ | ⟨s, hs, rfl, hle⟩
    · exact Or.inl ⟨s, hs, by omega⟩
    · -- the step from an expanded state was taken, so its end is pending or expanded as well
      obtain ⟨b, hb, rfl, hble⟩ := hc s hs l hstep
      have hb' : b.distance ≤ ((cost w ks + w s.key.position : ℕ) : Int) := by
        simp only [State.key]
        omega
      rcases hb with hb | hb
      · exact Or.inr ⟨b, hb, rfl, hb'⟩
      · exact Or.inl ⟨b, hb, hb'⟩

/-! ### Results -/

variable [DecidableEq F] {G : Graph P B F} {start target : P} {calls : List P} {config : Config P}
  {res : SearchResult}

/-- The rounds of a search without losses keep all steps of expanded states covered. -/
theorem covered_of_rounds (h : Relation.ReflTransGen Round r e) (hr : r.Sound w last)
    (hc : r.Covered w) (hfull : e.queueDropped = 0) : e.Covered w := by
  induction h with
  | refl => exact hc
  | @tail a b hrounds hround ih =>
    have hle := hround.turns.queueDropped_le
    exact hround.covered ((turns_of_rounds hrounds).sound hr) (ih (by omega)) hfull

omit [DecidableEq F] in
/-- Every way to the target costs at least the distance of some pending state. -/
theorem Covered.exists_pending_le (hc : r.Covered w) (hr : r.Consistent) {ks : List (Key P)}
    {s : CallStack P} (h : Walk r.graph.GuardedStep r.start.key ks ⟨r.target, s⟩) :
    ∃ b ∈ r.pending, b.distance ≤ cost w ks := by
  rcases hc.reach hr h with hb | ⟨a, ha, hkey, -⟩
  · exact hb
  · exact absurd (congrArg Key.position hkey) (hr.away a ha)

omit [DecidableEq F] in
/-- A search that covers the steps of its expanded states ends with an exact result. -/
theorem Covered.exact (hc : r.Covered w) (hr : r.Sound w last)
    (hend : r.verdict = .stop res.reason ∨ res.reason = .iterationBound)
    (hfin : (r.finish res.reason).2 = .ok res) :
    res.Exact r.config.maxDistance (r.graph.costsTo w r.start.key r.target) := by
  refine ⟨fun h => ?_, fun h => ?_, fun h => ?_⟩
  · have hv := hend.resolve_right (by simp [h])
    rw [h] at hv hfin
    -- the walk to the nearest pending state is one of the ways, and none is shorter
    obtain ⟨s, hs, htarget, hdist, hleast⟩ := hr.consistent.found hv hfin
    obtain ⟨ks, hwalk, hcost, -⟩ := hr.traced s (Or.inr hs)
    refine ⟨cost w ks, hcost ▸ hdist, ⟨ks, s.stack, htarget ▸ hwalk, rfl⟩, ?_⟩
    rintro _ ⟨ls, t, hway, rfl⟩
    obtain ⟨b, hb, hle⟩ := hc.exists_pending_le hr.consistent hway
    rw [← Int.ofNat_le, ← hcost]
    exact (hleast b hb).trans hle
  · have hv := hend.resolve_right (by simp [h])
    rw [h] at hv
    obtain ⟨-, hpop⟩ | ⟨t, rest, -, ⟨⟨⟩, -⟩ | ⟨⟨⟩, -⟩ | ⟨⟨⟩, -⟩⟩ := verdict_eq_stop hv
    refine Set.eq_empty_of_forall_notMem fun n ⟨ks, s, hwalk, _⟩ => ?_
    obtain ⟨b, hb, -⟩ := hc.exists_pending_le hr.consistent hwalk
    simp [pending, Frontier.pop?_eq_none hpop] at hb
  · have hv := hend.resolve_right (by simp [h])
    rw [h] at hv
    obtain ⟨⟨⟩, -⟩ | ⟨t, rest, hpop, ⟨-, hfar⟩ | ⟨⟨⟩, -⟩ | ⟨⟨⟩, -⟩⟩ := verdict_eq_stop hv
    rintro _ ⟨ls, s, hway, rfl⟩
    obtain ⟨b, hb, hle⟩ := hc.exists_pending_le hr.consistent hway
    exact Int.ofNat_le.1 (hfar.trans ((hr.consistent.popped_le hpop hb).trans hle))

/-- **Results are exact on a steady graph.** -/
theorem exact_of_steady (hcreate : create G start target calls config = .ok r)
    (hw : ∀ p, config.cost p = .ok (w p)) (hG : G.Steady w ⟨start, .ofCalls calls⟩ last)
    (hrun : r.run.2 = .ok res) (hfull : res.stats.queueDropped = 0) :
    res.Exact config.maxDistance (G.costsTo w ⟨start, .ofCalls calls⟩ target) := by
  obtain ⟨e, hrounds, hfin, hend⟩ := runFor_rounds (run_eq_ok hrun)
  have hdropped : e.queueDropped = 0 := by
    rw [← Except.ok.inj hfin] at hfull
    exact hfull
  have hturns := turns_of_rounds hrounds
  have hr := create_sound hcreate hw hG
  obtain ⟨hgraph, hconfig, hstart, htarget, hexpanded⟩ := create_frame hcreate
  have hcov : r.Covered w := by
    intro a ha
    simp [hexpanded] at ha
  have hexact := (covered_of_rounds hrounds hr hcov hdropped).exact (hturns.sound hr) hend hfin
  rw [hturns.sameTask.graph, hturns.sameTask.config, hturns.sameTask.start,
    hturns.sameTask.target, hgraph, hconfig, hstart, htarget] at hexact
  exact hexact

end Searcher

/-! ### Constant step costs -/

section Constant

variable {P B F : Type} [DecidableEq P] [DecidableEq F]

omit [DecidableEq P] [DecidableEq F] in
theorem steady_of_constant (G : Graph P B F) (c : ℕ) (origin : Key P) :
    G.Steady (fun _ => c) origin fun _ => c :=
  fun _ _ _ _ _ _ => Or.inr rfl

/-- **The search is exact when all steps cost the same.**  On any graph, from any start inside any
calls: a search that lost no state to a full frontier finds the least cost of a guarded walk to the
target, is exhausted only when there is no such walk, and ends at the bound on distances only when
every such walk costs at least that much. -/
theorem exact_of_constant_cost {G : Graph P B F} {start target : P} {calls : List P}
    {config : Config P} {c : ℕ} {r : Searcher P B F} {res : SearchResult}
    (hcreate : Searcher.create G start target calls config = .ok r)
    (hcost : config.cost = StepCost.uniform c) (hrun : r.run.2 = .ok res)
    (hfull : res.stats.queueDropped = 0) :
    res.Exact config.maxDistance (G.costsTo (fun _ => c) ⟨start, .ofCalls calls⟩ target) :=
  Searcher.exact_of_steady hcreate (congrFun hcost) (steady_of_constant G c _) hrun hfull

end Constant

/-- A caller, and a function that can go back to its first block, call itself and return. -/
def Program.sample : Program where
  name := "sample"
  functions := [
    { name := "main", entry := some "a", blocks := [
      { name := "a", instructions := [
        { opcode := "call", kind := .call, text := "call f", callee := some "f" },
        { opcode := "ret", kind := .ret, text := "ret" }] }] },
    { name := "f", entry := some "a", blocks := [
      { name := "a", instructions := [
        { opcode := "br", kind := .terminator, text := "br a b c", targets := ["a", "b", "c"] }] },
      { name := "b", instructions := [
        { opcode := "call", kind := .call, text := "call f", callee := some "f" },
        { opcode := "ret", kind := .ret, text := "ret" }] },
      { name := "c", instructions := [
        { opcode := "ret", kind := .ret, text := "ret" }] }] }]

/-- The way through the function and back costs three steps, and no way costs less. -/
theorem exact_of_constant_cost_sample :
    ∃ r res, Searcher.create Program.sample.graph ⟨"main", "a", 0⟩ ⟨"main", "a", 1⟩ []
        ⟨9, 9, 9, StepCost.uniform 1⟩ = .ok r ∧
      r.run.2 = .ok res ∧ res.stats.queueDropped = 0 ∧ res.reason = .found ∧
      res.distance = some 3 ∧
      res.Exact 9 (Program.sample.graph.costsTo (fun _ => 1) ⟨⟨"main", "a", 0⟩, .ofCalls []⟩
        ⟨"main", "a", 1⟩) := by
  obtain ⟨r, hr, hrun⟩ := Searcher.run_of_toOption Program.sample.graph ⟨"main", "a", 0⟩
    ⟨"main", "a", 1⟩ [] ⟨9, 9, 9, StepCost.uniform 1⟩ ⟨some 3, .found, ⟨4, 1, 1, 0, 2⟩⟩
    (by decide +kernel)
  exact ⟨r, _, hr, hrun, rfl, rfl, rfl, exact_of_constant_cost hr rfl hrun rfl⟩

end CallReach
