import CallReach.Proofs.Order
import CallReach.Proofs.Recursion

/-!
# The counters of a search

A state that is expanded has children: the states that it leads to.  Every child is admitted, or
dropped as a duplicate, or dropped because the frontier is full; and a state that was admitted waits
or has been expanded.  So the children of the states expanded so far, together with the start, are
as many as the expansions, the states that wait and the states dropped.

* `Graph.children` : how many states a state leads to, by the kind of its position.
* `Searcher.Balanced` : the counters agree with the states expanded; `Round.balanced` : every
  expansion keeps that.
* `Logged.peaked` : the peak of the frontier is the greatest of its lengths.
* `counters_balanced` : both of them, for all rounds of a run.
-/

namespace CallReach

section Children

variable {P B F : Type} [DecidableEq F]

/-- Whether a state stands at a call of a defined function that is active already, so that the guard
rejects it. -/
def Graph.rejects (G : Graph P B F) (s : State P) : Bool :=
  match G.kindOf s.position with
  | .ok .call => G.isDefinedCall (G.calleeOf s.position) && s.stack.isRecursive G s.position
  | _ => false

/-- How many states a state leads to: none at a return without pending calls and at a call that the
guard rejects, one for each successor that the block of a terminator lists, and one otherwise. -/
def Graph.children (G : Graph P B F) (s : State P) : ℕ :=
  match G.kindOf s.position with
  | .ok .ret => if s.stack.isEmpty then 0 else 1
  | .ok .terminator =>
    match G.blockOf s.position with
    | .ok b => (G.successorsOf b).length
    | .error _ => 0
  | _ => if G.rejects s then 0 else 1

variable {G : Graph P B F} {s : State P}

theorem rejects_iff : G.rejects s = true ↔ G.Reenters s.key := by
  unfold Graph.rejects
  split
  · rename_i hkind
    rw [Bool.and_eq_true, isDefinedCall_iff hkind]
    constructor
    · rintro ⟨⟨f, b, hc⟩, hrecursive⟩
      refine ⟨f, b, hc, fun hinactive => ?_⟩
      have hfalse := (isRecursive_eq_false hc).2 hinactive
      rw [State.key, hrecursive] at hfalse
      cases hfalse
    · rintro ⟨f, b, hc, hactive⟩
      simp only [State.key] at hc hactive
      exact ⟨⟨f, b, hc⟩, by simpa using mt (isRecursive_eq_false hc).1 hactive⟩
  · rename_i hkind
    constructor
    · rintro ⟨⟩
    · rintro ⟨f, b, hc, -⟩
      exact absurd hc.1 hkind

theorem expand_eq_pruned : expand G s = .ok .pruned ↔ G.rejects s = true :=
  expand_eq_pruned_iff.trans rejects_iff.symm

theorem children_of_rejects (h : G.rejects s = true) : G.children s = 0 := by
  obtain ⟨f, b, hc, -⟩ := rejects_iff.1 h
  have hkind : G.kindOf s.position = .ok .call := hc.1
  simp [Graph.children, hkind, h]

/-- The steps that an expansion tries are as many as the children of its state. -/
theorem length_moves {list : List (Except Fault (Move P))} (h : expand G s = .ok (.moves list)) :
    list.length = G.children s := by
  have hkept : G.rejects s = false := by
    by_contra hrejects
    rw [expand_eq_pruned.2 (by simpa using hrejects)] at h
    cases h
  unfold expand at h
  split at h
  · rename_i hkind
    simp only [Graph.children, hkind, hkept]
    simp only [expandCall, Except.ok.injEq] at h
    split at h
    · split_ifs at h <;> cases h <;> rfl
    · cases h
      rfl
  · rename_i hkind
    simp only [Graph.children, hkind]
    obtain ⟨p, d, ⟨_ | ⟨c, rest⟩⟩⟩ := s <;> cases h <;> rfl
  · rename_i hkind
    obtain ⟨b, hb, h⟩ := bind_eq_ok.1 h
    cases h
    simp [Graph.children, hkind, hb]
  · rename_i hkind
    simp only [Graph.children, hkind, hkept]
    cases h
    rfl
  · cases h

end Children

namespace Searcher

variable {P B F : Type} {r e u : Searcher P B F} {head : State P} {log : Log P}

/-- How many states wait or have been dropped. -/
def placed (r : Searcher P B F) : ℕ :=
  r.frontier.size + r.duplicatesDropped + r.queueDropped

/-- The number of waiting states is kept right. -/
def Sized (r : Searcher P B F) : Prop := r.frontier.size = r.frontier.tickets.length

/-! ### One expansion -/

section Round

variable [DecidableEq P]

/-- A state that is offered goes to one place. -/
theorem accept_placed {s : State P} (h : r.accept s = .ok e) : e.placed = r.placed + 1 := by
  rcases accept_cases h with ⟨-, rfl⟩ | ⟨-, -, rfl⟩ | ⟨-, frontier, _, hpush, -, rfl⟩
  · simp only [placed]
    omega
  · simp only [placed]
    omega
  · have hsize := (Frontier.push?_counts hpush).2.2.1
    simp only [placed]
    omega

theorem followAll_placed {list : List (Except Fault (Move P))}
    (h : r.followAll head list = (e, none)) : e.placed = r.placed + list.length := by
  induction list generalizing r with
  | nil =>
    cases h
    rfl
  | cons m rest ih =>
    rw [followAll] at h
    split at h
    · rename_i u hu
      obtain ⟨_, _, -, -, hacc⟩ := follow_eq_ok hu
      rw [ih h, accept_placed hacc, List.length_cons]
      omega
    · simp at h

theorem Turn.sized (h : r.Turn e) (hr : r.Sized) : e.Sized := by
  cases h with
  | take hv =>
    obtain ⟨t, hpop, -⟩ := verdict_eq_expand hv
    have hlen := (Frontier.pop?_eq_some hpop).1.length_eq
    have hsize := (Frontier.pop?_counts hpop).2.1
    simp only [Sized, List.length_cons] at hr hlen ⊢
    omega
  | enqueue _ _ hpush _ =>
    have hlen := (Frontier.push?_eq_some hpush).1.length_eq
    have hsize := (Frontier.push?_counts hpush).2.2.1
    simp only [Sized, List.length_cons] at hr hlen ⊢
    omega
  | duplicate | overflow | prune | count | note => exact hr

variable [DecidableEq F]

/-- The counters of a search agree with the states it has expanded. -/
structure Balanced (r : Searcher P B F) : Prop where
  /-- The number of waiting states is kept right. -/
  sized : r.Sized
  /-- Every state that was expanded is counted. -/
  counted : r.iterations = r.expanded.length
  /-- The children and the start have been expanded, wait or were dropped. -/
  balance : 1 + (r.expanded.map r.graph.children).sum = r.iterations + r.placed
  /-- The calls that the guard rejected are counted. -/
  pruned : r.recursionPruned = r.expanded.countP r.graph.rejects

/-- **An expansion keeps the balance.** -/
theorem Round.balanced (h : r.Round e) (hr : r.Balanced) : e.Balanced := by
  have hsized : e.Sized := h.turns.invariant hr.sized fun _ _ ha ht => ht.sized ha
  obtain ⟨head, rest, hv, hstep⟩ := h
  obtain ⟨t, hpop, rfl, -⟩ := verdict_eq_expand hv
  -- the state that is expanded leaves the frontier, which was not empty
  have hpos : rest.size + 1 = r.frontier.size := by
    have hlen := (Frontier.pop?_eq_some hpop).1.length_eq
    have hsize := (Frontier.pop?_counts hpop).2.1
    have hr' := hr.sized
    simp only [Sized, List.length_cons] at hr' hlen
    omega
  have hbalance := hr.balance
  have hcounted := hr.counted
  have hpruned := hr.pruned
  unfold step at hstep
  split at hstep
  · rename_i v hexpand
    cases hstep
    unfold expandState at hexpand
    split at hexpand
    · cases hexpand
    · rename_i hx
      have hrejects := expand_eq_pruned.1 hx
      cases hexpand
      refine ⟨hsized, by simp [hcounted], ?_, by simp [hpruned, hrejects]⟩
      simp only [placed, List.map_cons, List.sum_cons, children_of_rejects hrejects]
        at hbalance ⊢
      omega
    · rename_i list hx
      have hkept : r.graph.rejects t.item = false := by
        by_contra hrejects
        rw [expand_eq_pruned.2 (by simpa using hrejects)] at hx
        cases hx
      have hplaced := followAll_placed hexpand
      obtain ⟨_, _, _, _, hframe⟩ := followAll_frame
        { r with frontier := rest, expanded := t.item :: r.expanded } t.item list
      rw [hexpand] at hframe
      simp only at hframe
      subst hframe
      refine ⟨hsized, by simp [hcounted], ?_, by simp [hpruned, hkept]⟩
      rw [length_moves hx] at hplaced
      simp only [placed, List.map_cons, List.sum_cons] at hbalance hplaced ⊢
      omega
  · cases hstep

theorem rounds_balanced (h : Relation.ReflTransGen Round r e) (hr : r.Balanced) : e.Balanced := by
  induction h with
  | refl => exact hr
  | tail _ hround ih => exact hround.balanced ih

theorem create_balanced {G : Graph P B F} {start target : P} {calls : List P} {config : Config P}
    (h : create G start target calls config = .ok r) : r.Balanced := by
  obtain ⟨frontier, seen, rfl, hpush, -⟩ := create_eq_ok h
  have hlen := (Frontier.push?_eq_some hpush).1.length_eq
  have hsize := (Frontier.push?_counts hpush).2.2.1
  refine ⟨hsize.trans hlen.symm, rfl, ?_, rfl⟩
  simp only [placed, hsize]
  rfl

end Round

/-! ### The peak of the frontier -/

/-- The peak is the greatest of the lengths that the frontier had, and one more than it may hold
before a push at most. -/
structure Peaked (lengths : List ℕ) (q : Frontier (State P)) : Prop where
  greatest : IsGreatest {n | n ∈ lengths} q.peak
  current : q.size ≤ q.peak
  bounded : q.peak ≤ q.capacity + 1

variable {lengths : List ℕ} {q rest : Frontier (State P)}

theorem Peaked.take (h : Peaked lengths q) {t : Ticket (State P)}
    (hpop : q.pop? = some (t, rest)) : Peaked (lengths ++ [rest.size]) rest := by
  obtain ⟨hcapacity, hsize, -, hpeak⟩ := Frontier.pop?_counts hpop
  have hcurrent := h.current
  refine ⟨⟨?_, fun n hn => ?_⟩, by omega, by rw [hpeak, hcapacity]; exact h.bounded⟩
  · rw [hpeak]
    exact List.mem_append_left _ h.greatest.1
  · rw [hpeak]
    rcases List.mem_append.1 hn with hn | hn
    · exact h.greatest.2 hn
    · rw [List.mem_singleton.1 hn]
      omega

theorem Peaked.enqueue (h : Peaked lengths q) {d : Int} {s : State P}
    (hpush : q.push? d s = some rest) : Peaked (lengths ++ [rest.size]) rest := by
  obtain ⟨hroom, hcapacity, hsize, -, hpeak⟩ := Frontier.push?_counts hpush
  have hbounded := h.bounded
  refine ⟨⟨?_, fun n hn => ?_⟩, by omega, by omega⟩
  · rcases max_choice q.peak rest.size with hmax | hmax
    · rw [hpeak, hmax]
      exact List.mem_append_left _ h.greatest.1
    · rw [hpeak, hmax]
      exact List.mem_append_right _ List.mem_cons_self
  · rw [hpeak]
    rcases List.mem_append.1 hn with hn | hn
    · exact (h.greatest.2 hn).trans (le_max_left _ _)
    · rw [List.mem_singleton.1 hn]
      exact le_max_right _ _

/-- **The peak of the frontier is the greatest of its lengths**, at every moment of a run. -/
theorem Logged.peaked [DecidableEq P] (h : r.Logged log u)
    (hr : Peaked [r.frontier.size] r.frontier) : Peaked log.lengths u.frontier := by
  induction h with
  | begin => exact hr
  | take _ _ hpop ih => exact ih.take hpop
  | enqueue _ _ _ hpush _ ih => exact ih.enqueue hpush
  | other _ _ hfrontier _ ih =>
    rw [hfrontier]
    exact ih

/-- The length of the frontier at the beginning is in the log. -/
theorem Logged.first_length [DecidableEq P] (h : r.Logged log u) :
    r.frontier.size ∈ log.lengths := by
  induction h with
  | begin => exact List.mem_cons_self
  | take _ _ _ ih | enqueue _ _ _ _ _ ih => exact List.mem_append_left _ ih
  | other _ _ _ _ ih => exact ih

theorem Logged.capacity [DecidableEq P] (h : r.Logged log u) :
    u.frontier.capacity = r.frontier.capacity := by
  induction h with
  | begin => rfl
  | take _ _ hpop ih => exact (Frontier.pop?_counts hpop).1.trans ih
  | enqueue _ _ _ hpush _ ih => exact (Frontier.push?_counts hpush).2.1.trans ih
  | other _ _ hfrontier _ ih => rw [hfrontier, ih]

theorem create_peaked [DecidableEq P] {G : Graph P B F} {start target : P} {calls : List P}
    {config : Config P} (h : create G start target calls config = .ok r) :
    Peaked [r.frontier.size] r.frontier ∧ r.frontier.size = 1 ∧
      r.frontier.capacity = config.maxQueueLength := by
  obtain ⟨frontier, seen, rfl, hpush, -⟩ := create_eq_ok h
  obtain ⟨-, hcapacity, hsize, -, hpeak⟩ := Frontier.push?_counts hpush
  have hcapacity' : frontier.capacity = config.maxQueueLength := hcapacity
  have hone : frontier.size = 1 := hsize
  have hpeak' : frontier.peak = 1 := by
    rw [hpeak, hone]
    rfl
  refine ⟨⟨?_, ?_, ?_⟩, hone, hcapacity'⟩
  · simp [hone, hpeak', IsGreatest, upperBounds]
  · rw [hone, hpeak']
  · simp only [hpeak', hcapacity']
    omega

end Searcher

section Accounting

variable {P B F : Type} [DecidableEq P] [DecidableEq F] {G : Graph P B F} {start target : P}
  {calls : List P} {config : Config P} {r : Searcher P B F}

/-- **Every state is accounted for.**  After any number of expansions without a fault, the start and
the children of the states expanded are as many as the expansions, the states that wait and the
states dropped, as duplicates or at a full frontier; the calls that the guard rejected are counted;
and the peak is the greatest length that the frontier had at any moment.  A search that returns
reports the counters of such a moment. -/
theorem counters_balanced (hcreate : Searcher.create G start target calls config = .ok r) :
    (∀ u, Relation.ReflTransGen Searcher.Round r u →
      u.iterations = u.expanded.length ∧
      1 + (u.expanded.map G.children).sum =
        u.iterations + u.frontier.tickets.length + u.duplicatesDropped + u.queueDropped ∧
      u.recursionPruned = u.expanded.countP G.rejects ∧
      (∃ log, r.Logged log u) ∧
      (∀ log, r.Logged log u → IsGreatest {n | n ∈ log.lengths} u.frontier.peak) ∧
      1 ≤ u.frontier.peak ∧ u.frontier.peak ≤ config.maxQueueLength + 1) ∧
    ∀ res, r.run.2 = .ok res →
      ∃ u, Relation.ReflTransGen Searcher.Round r u ∧ res.stats = u.stats := by
  refine ⟨fun u hu => ?_, fun res hres => ?_⟩
  · have hgraph : u.graph = G :=
      (Searcher.turns_of_rounds hu).sameTask.graph.trans (Searcher.create_frame hcreate).1
    obtain ⟨hsized, hcounted, hbalance, hpruned⟩ :=
      Searcher.rounds_balanced hu (Searcher.create_balanced hcreate)
    obtain ⟨hpeak, hone, hcapacity⟩ := Searcher.create_peaked hcreate
    obtain ⟨log, hlog⟩ := (Searcher.turns_of_rounds hu).logged
    have hpeaked := hlog.peaked hpeak
    rw [hgraph, Searcher.placed, hsized] at hbalance
    rw [hgraph] at hpruned
    refine ⟨hcounted, by omega, hpruned, ⟨log, hlog⟩, fun _ h => (h.peaked hpeak).greatest, ?_, ?_⟩
    · -- the frontier had the start in it
      exact hpeaked.greatest.2 (hone ▸ hlog.first_length)
    · have hbounded := hpeaked.bounded
      rw [hlog.capacity, hcapacity] at hbounded
      exact_mod_cast hbounded
  · obtain ⟨u, hu, hfinish, -⟩ := Searcher.runFor_rounds (Searcher.run_eq_ok hres)
    refine ⟨u, hu, ?_⟩
    rw [← Except.ok.inj hfinish]

end Accounting

/-- The frontier holds one state: of the three ways from the first block of the function one is a
duplicate, one is taken and leads to a call that the guard rejects, and one is dropped. -/
theorem counters_balanced_sample :
    ∃ r u, Searcher.create Program.sample.graph ⟨"main", "a", 0⟩ ⟨"f", "d", 0⟩ []
        ⟨9, 9, 0, StepCost.uniform 1⟩ = .ok r ∧
      r.run.2 = .ok ⟨none, .exhausted, ⟨3, 1, 1, 1, 1⟩⟩ ∧
      Relation.ReflTransGen Searcher.Round r u ∧ u.stats = ⟨3, 1, 1, 1, 1⟩ ∧
      1 + (u.expanded.map Program.sample.graph.children).sum = 3 + u.frontier.tickets.length + 2 ∧
      u.expanded.countP Program.sample.graph.rejects = 1 := by
  obtain ⟨r, hr, hrun⟩ := Searcher.run_of_toOption Program.sample.graph ⟨"main", "a", 0⟩
    ⟨"f", "d", 0⟩ [] ⟨9, 9, 0, StepCost.uniform 1⟩ ⟨none, .exhausted, ⟨3, 1, 1, 1, 1⟩⟩
    (by decide +kernel)
  obtain ⟨hrounds, hresult⟩ := counters_balanced hr
  obtain ⟨u, hu, hstats⟩ := hresult _ hrun
  obtain ⟨-, hbalance, hpruned, -⟩ := hrounds u hu
  simp only [Searcher.stats, Stats.mk.injEq] at hstats
  obtain ⟨hiterations, hrejected, hduplicates, hqueue, hpeak⟩ := hstats
  refine ⟨r, u, hr, hrun, hu, ?_, by omega, by omega⟩
  simp [Searcher.stats, ← hiterations, ← hrejected, ← hduplicates, ← hqueue, ← hpeak]

end CallReach
