import CallReach.Proofs.Searcher

/-!
# The states that a search admits

Invariants of the search that hold at every moment of every run, whatever the graph, the costs and
the bounds.

* `Searcher.Consistent` : the frontier is in order, the filter holds the keys of the block entries
  that were admitted, nothing pending is nearer than what was expanded, and the target is never
  expanded.
* `Searcher.Traced` : every admitted state is the end of a guarded walk from the start, all of whose
  places were admitted too, each at its own cost.
* `Searcher.Near` : how far a distance can be ahead of the frontier; it never gets farther ahead.
-/

namespace CallReach

namespace Searcher

variable {P B F : Type} [DecidableEq P] {r e : Searcher P B F} {s : State P}

/-! ### What a turn admits -/

theorem mem_pending_take {head : State P} {rest : Frontier (State P)}
    (h : r.verdict = .expand head rest) :
    s ∈ r.pending ↔ s = head ∨ s ∈ rest.tickets.map (·.item) := by
  obtain ⟨t, hpop, rfl, -⟩ := verdict_eq_expand h
  have hperm := (Frontier.pop?_eq_some hpop).1.map (·.item)
  rw [pending, hperm.mem_iff, List.map_cons, List.mem_cons]

omit [DecidableEq P] in
theorem mem_pending_enqueue {new : State P} {q : Frontier (State P)}
    (h : r.frontier.push? new.distance new = some q) :
    s ∈ q.tickets.map (·.item) ↔ s = new ∨ s ∈ r.pending := by
  have hperm := (Frontier.push?_eq_some h).1.map (·.item)
  rw [hperm.mem_iff, List.map_cons, List.mem_cons, pending]

theorem admitted_take {head : State P} {rest : Frontier (State P)}
    (h : r.verdict = .expand head rest) :
    Admitted { r with frontier := rest, expanded := head :: r.expanded } s ↔ r.Admitted s := by
  show s ∈ head :: r.expanded ∨ s ∈ rest.tickets.map (·.item) ↔ s ∈ r.expanded ∨ s ∈ r.pending
  rw [mem_pending_take h, List.mem_cons]
  tauto

omit [DecidableEq P] in
theorem admitted_enqueue {new : State P} {q : Frontier (State P)} {seen : Seen P}
    (h : r.frontier.push? new.distance new = some q) :
    Admitted { r with frontier := q, seen } s ↔ s = new ∨ r.Admitted s := by
  show s ∈ r.expanded ∨ s ∈ q.tickets.map (·.item) ↔ s = new ∨ s ∈ r.expanded ∨ s ∈ r.pending
  rw [mem_pending_enqueue h]
  tauto

theorem Turn.admitted (h : r.Turn e) (hs : r.Admitted s) : e.Admitted s := by
  cases h with
  | take hv => exact (admitted_take hv).2 hs
  | enqueue _ _ hpush _ => exact (admitted_enqueue hpush).2 (Or.inr hs)
  | duplicate | overflow | prune | count | note => exact hs

theorem Turns.admitted (h : r.Turns e) (hs : r.Admitted s) : e.Admitted s :=
  h.invariant (I := fun e => e.Admitted s) hs fun _ _ ha ht => ht.admitted ha

/-- Only offers are admitted. -/
theorem Turn.admitted_or_offers (h : r.Turn e) (hs : e.Admitted s) : r.Admitted s ∨ r.Offers s := by
  cases h with
  | take hv => exact Or.inl ((admitted_take hv).1 hs)
  | enqueue ho _ hpush _ =>
    rcases (admitted_enqueue hpush).1 hs with rfl | hs
    · exact Or.inr ho
    · exact Or.inl hs
  | duplicate | overflow | prune | count | note => exact Or.inl hs

/-! ### The order in which states are expanded, and the filter -/

/-- What a search keeps in order at every moment. -/
structure Consistent (r : Searcher P B F) : Prop where
  /-- The nearest pending state is at the root of the heap. -/
  ordered : r.frontier.heap.Ordered
  /-- Pending states wait at their own distances. -/
  priced : ∀ t ∈ r.frontier.tickets, t.distance = t.item.distance
  /-- No pending state is nearer than the one expanded last. -/
  settled : ∀ head older, r.expanded = head :: older → ∀ s ∈ r.pending, head.distance ≤ s.distance
  /-- The filter holds the keys of the admitted states at block entries. -/
  seen_iff : ∀ k, r.seen.contains r.graph.slot k = true ↔
    ∃ s, r.Admitted s ∧ s.key = k ∧ r.graph.isBlockEntry s.position = .ok true
  /-- The start has been admitted. -/
  started : r.Admitted r.start
  /-- The start is at no distance. -/
  origin : r.start.distance = 0
  /-- The target is not expanded. -/
  away : ∀ s ∈ r.expanded, s.position ≠ r.target

omit [DecidableEq P] in
theorem Offers.distance_ge (h : r.Offers s) :
    ∃ head older, r.expanded = head :: older ∧ head.distance ≤ s.distance := by
  obtain ⟨head, older, n, he, -, -, hd⟩ := h
  exact ⟨head, older, he, by omega⟩

/-- The ticket that is taken first is that of a pending state, at its own distance. -/
theorem Consistent.popped (hr : r.Consistent) {t : Ticket (State P)} {rest : Frontier (State P)}
    (hpop : r.frontier.pop? = some (t, rest)) :
    t.item ∈ r.pending ∧ t.distance = t.item.distance := by
  have ht : t ∈ r.frontier.tickets :=
    (Frontier.pop?_eq_some hpop).1.mem_iff.2 List.mem_cons_self
  exact ⟨List.mem_map_of_mem ht, hr.priced t ht⟩

/-- It is a nearest one. -/
theorem Consistent.popped_le (hr : r.Consistent) {t : Ticket (State P)}
    {rest : Frontier (State P)} (hpop : r.frontier.pop? = some (t, rest)) (hs : s ∈ r.pending) :
    t.distance ≤ s.distance := by
  obtain ⟨u, hu, rfl⟩ := List.mem_map.1 hs
  rw [← hr.priced u hu]
  exact Ticket.distance_le_of_not_before ((Frontier.pop_least hr.ordered hpop).1 u hu)

theorem Turn.consistent (h : r.Turn e) (hr : r.Consistent) : e.Consistent := by
  have hstart := h.admitted hr.started
  cases h with
  | take hv =>
    obtain ⟨t, hpop, hitem, -, -, haway⟩ := verdict_eq_expand hv
    have hperm := (Frontier.pop?_eq_some hpop).1
    refine ⟨(Frontier.pop_least hr.ordered hpop).2, fun u hu => ?_, ?_, fun k => ?_, hstart,
      hr.origin, ?_⟩
    · exact hr.priced u (hperm.mem_iff.2 (List.mem_cons_of_mem _ hu))
    · rintro _ _ ⟨⟩ s hs
      rw [← hitem, ← (hr.popped hpop).2]
      exact hr.popped_le hpop ((mem_pending_take hv).2 (Or.inr hs))
    · simp only [hr.seen_iff k, admitted_take hv]
    · intro s hs
      rcases List.mem_cons.1 hs with rfl | hs
      · exact haway
      · exact hr.away s hs
  | @enqueue new q seen ho hnew hpush hmark =>
    obtain ⟨hperm, hord⟩ := Frontier.push?_eq_some hpush
    refine ⟨hord hr.ordered, fun u hu => ?_, fun head older he s hs => ?_, fun k => ?_, hstart,
      hr.origin, hr.away⟩
    · rcases List.mem_cons.1 (hperm.mem_iff.1 hu) with rfl | hu
      · rfl
      · exact hr.priced u hu
    · rcases (mem_pending_enqueue hpush).1 hs with rfl | hs
      · obtain ⟨head', older', he', hle⟩ := ho.distance_ge
        cases he.symm.trans he'
        exact hle
      · exact hr.settled head older he s hs
    · simp only [Seen.mark_eq_ok hmark k, hr.seen_iff k, admitted_enqueue hpush]
      constructor
      · rintro (⟨hentry, rfl⟩ | ⟨s, hs, hk⟩)
        · exact ⟨new, Or.inl rfl, rfl, hentry⟩
        · exact ⟨s, Or.inr hs, hk⟩
      · rintro ⟨s, rfl | hs, rfl, hentry⟩
        · exact Or.inl ⟨hentry, rfl⟩
        · exact Or.inr ⟨s, hs, rfl, hentry⟩
  | duplicate | overflow | prune | count | note =>
    exact ⟨hr.ordered, hr.priced, hr.settled, hr.seen_iff, hr.started, hr.origin, hr.away⟩

theorem Turns.consistent (h : r.Turns e) (hr : r.Consistent) : e.Consistent :=
  h.invariant (I := Consistent) hr fun _ _ ha ht => ht.consistent ha

/-- A search that has found its target gives the distance of a nearest pending state, which is
there. -/
theorem Consistent.found (hr : r.Consistent) {res : SearchResult}
    (hv : r.verdict = .stop .found) (hfin : (r.finish .found).2 = .ok res) :
    ∃ s ∈ r.pending, s.position = r.target ∧ res.distance = some s.distance ∧
      ∀ b ∈ r.pending, s.distance ≤ b.distance := by
  obtain ⟨⟨⟩, -⟩ | ⟨t, rest, hpop, ⟨⟨⟩, -⟩ | ⟨⟨⟩, -⟩ | ⟨-, htarget⟩⟩ := verdict_eq_stop hv
  obtain ⟨hmem, hown⟩ := hr.popped hpop
  refine ⟨t.item, hmem, htarget, ?_, fun b hb => ?_⟩
  · rw [← Except.ok.inj hfin, ← hown]
    simp [Frontier.minDistance?, (Frontier.pop?_eq_some hpop).2]
  · rw [← hown]
    exact hr.popped_le hpop hb

/-! ### The walks that lead to admitted states -/

/-- Every admitted state is the end of a guarded walk from the start.  Its distance is the cost of
the walk, and every place of the walk was admitted at the cost of the way to it. -/
def Traced (w : P → ℕ) (r : Searcher P B F) : Prop :=
  ∀ a, r.Admitted a → ∃ ks, Walk r.graph.GuardedStep r.start.key ks a.key ∧ a.distance = cost w ks ∧
    ∀ before k after, ks ++ [a.key] = before ++ k :: after →
      ∃ b, r.Admitted b ∧ b.key = k ∧ b.distance = cost w before

theorem Turn.traced {w : P → ℕ} (h : r.Turn e) (hw : ∀ p n, r.config.cost p = .ok n → n = w p)
    (hr : r.Traced w) : e.Traced w := by
  intro a ha
  rw [h.sameTask.graph, h.sameTask.start]
  rcases h.admitted_or_offers ha with hold | ⟨head, older, n, he, hstep, hn, hd⟩
  · obtain ⟨ks, hwalk, hcost, hplaces⟩ := hr a hold
    refine ⟨ks, hwalk, hcost, fun before k after heq => ?_⟩
    obtain ⟨b, hb, hkb⟩ := hplaces before k after heq
    exact ⟨b, h.admitted hb, hkb⟩
  · -- a new state is one step beyond the walk that led to the state expanded last
    obtain ⟨ks, hwalk, hcost, hplaces⟩ := hr head (Or.inl (by simp [he]))
    have hprice := hw head.position n hn
    have hcost' : a.distance = cost w (ks ++ [head.key]) := by
      rw [cost_append, cost_singleton, hd, hcost, hprice]
      simp [State.key]
    refine ⟨ks ++ [head.key], hwalk.snoc hstep, hcost', fun before k after heq => ?_⟩
    rcases concat_eq_append_cons heq with ⟨rfl, rfl, -⟩ | ⟨later, -, heq⟩
    · exact ⟨a, ha, rfl, hcost'⟩
    · obtain ⟨b, hb, hkb⟩ := hplaces before k later heq
      exact ⟨b, h.admitted hb, hkb⟩

theorem Turns.traced {w : P → ℕ} (h : r.Turns e) (hw : ∀ p n, r.config.cost p = .ok n → n = w p)
    (hr : r.Traced w) : e.Traced w := by
  refine (h.invariant (I := fun e => e.config = r.config ∧ e.Traced w) ⟨rfl, hr⟩
    fun a b ha ht => ?_).2
  exact ⟨ht.sameTask.config.trans ha.1, ht.traced (ha.1 ▸ hw) ha.2⟩

/-! ### How far distances are ahead -/

/-- `d` is at most `n` more than the distances of the state expanded last and of pending ones. -/
def Near (r : Searcher P B F) (d : Int) (n : ℕ) : Prop :=
  (∀ head older, r.expanded = head :: older → d ≤ head.distance + n) ∧
    ∀ s ∈ r.pending, d ≤ s.distance + n

/-- As the search goes on, no distance gets farther ahead. -/
theorem Turn.near (h : r.Turn e) {d : Int} {n : ℕ} (hd : r.Near d n) : e.Near d n := by
  cases h with
  | take hv =>
    refine ⟨?_, fun s hs => hd.2 s ((mem_pending_take hv).2 (Or.inr hs))⟩
    rintro _ _ ⟨⟩
    exact hd.2 _ ((mem_pending_take hv).2 (Or.inl rfl))
  | enqueue ho _ hpush _ =>
    refine ⟨hd.1, fun s hs => ?_⟩
    rcases (mem_pending_enqueue hpush).1 hs with rfl | hs
    · obtain ⟨head, older, he, hle⟩ := ho.distance_ge
      have := hd.1 head older he
      omega
    · exact hd.2 s hs
  | duplicate | overflow | prune | count | note => exact hd

/-- A state that is offered at the price `n` is `n` ahead when it is admitted. -/
theorem Turn.near_of_offers (h : r.Turn e) (hr : r.Consistent) {head : State P}
    {older : List (State P)} {n : ℕ} (he : r.expanded = head :: older)
    (hd : s.distance = head.distance + n) : e.Near s.distance n := by
  refine h.near ⟨fun head' older' he' => ?_, fun b hb => ?_⟩
  · cases he.symm.trans he'
    omega
  · have := hr.settled head older he b hb
    omega

/-! ### New searches -/

theorem create_admitted {G : Graph P B F} {start target : P} {calls : List P} {config : Config P}
    (h : create G start target calls config = .ok r) (a : State P) :
    r.Admitted a ↔ a = r.start := by
  obtain ⟨frontier, seen, rfl, hpush, -⟩ := create_eq_ok h
  have hperm := (Frontier.push?_eq_some hpush).1.map (·.item)
  show a ∈ [] ∨ a ∈ frontier.tickets.map (·.item) ↔ _
  rw [hperm.mem_iff]
  simp [Frontier.tickets, Frontier.empty, Heap.toList, blank]

theorem create_consistent {G : Graph P B F} {start target : P} {calls : List P} {config : Config P}
    (h : create G start target calls config = .ok r) : r.Consistent := by
  have hadm := create_admitted h
  obtain ⟨frontier, seen, rfl, hpush, hmark⟩ := create_eq_ok h
  obtain ⟨hperm, hord⟩ := Frontier.push?_eq_some hpush
  refine ⟨hord trivial, fun t ht => ?_, by rintro _ _ ⟨⟩, fun k => ?_, (hadm _).2 rfl, rfl,
    by simp [blank]⟩
  · rcases List.mem_cons.1 (hperm.mem_iff.1 ht) with rfl | ht
    · rfl
    · simp [Frontier.tickets, Frontier.empty, Heap.toList] at ht
  · have hk := Seen.mark_eq_ok hmark k
    simp only [Seen.contains_empty, Bool.false_eq_true, or_false] at hk
    simp only [hadm, exists_eq_left]
    refine hk.trans ?_
    constructor
    · rintro ⟨he, rfl⟩
      exact ⟨rfl, he⟩
    · rintro ⟨rfl, he⟩
      exact ⟨he, rfl⟩

theorem create_traced {G : Graph P B F} {start target : P} {calls : List P} {config : Config P}
    (w : P → ℕ) (h : create G start target calls config = .ok r) : r.Traced w := by
  have hadm := create_admitted h
  have hzero := (create_consistent h).origin
  intro a ha
  cases (hadm a).1 ha
  refine ⟨[], .nil, hzero, fun before k after heq => ?_⟩
  cases before with
  | nil =>
    cases heq
    exact ⟨r.start, ha, rfl, hzero⟩
  | cons x xs => simp at heq

end Searcher

end CallReach
