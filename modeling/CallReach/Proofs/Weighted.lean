import CallReach.Proofs.Exactness

/-!
# Exact distances with weights

When leaving a position costs by its kind, a block entry can be reached at different prices: by a
call at the price of calls, and by a branch at the price of terminators.  In a program both happen
only at the entry of the innermost function, under the call that opened it, and a branch comes there
after that call.  So the graph is steady for a search without initial calls.

* `Graph.Opens` : the place where the innermost pending call has led.
* `steady_of_weights` : a graph whose positions are never followed by a block entry is steady.
* `exact_of_weights` : results about a program are exact for every table of weights.
-/

namespace CallReach

/-- What leaving a position costs by its kind. -/
def Weights.price {P B F : Type} (w : Weights) (G : Graph P B F) (p : P) : ℕ :=
  match G.kindOf p with
  | .ok k => w.of k
  | .error _ => w.default

section Steady

variable {P B F : Type} {G : Graph P B F} {w : Weights}

theorem stepCost_eq_price (p : P) : w.stepCost G p = .ok (w.price G p) := by
  unfold Weights.stepCost Weights.price
  cases G.kindOf p <;> rfl

theorem price_of_kind {p : P} {k : Kind} (h : G.kindOf p = .ok k) : w.price G p = w.of k := by
  simp [Weights.price, h]

/-- The first position of the function that the innermost pending call calls. -/
def Graph.Opens (G : Graph P B F) (k : Key P) : Prop :=
  ∃ c rest f b, k.stack = ⟨c :: rest⟩ ∧ G.Calls c f b ∧ G.firstOf b = .ok k.position

open Classical in
/-- The price of the step that leads to a block entry for the first time. -/
noncomputable def Weights.arrival (w : Weights) (G : Graph P B F) (k : Key P) : ℕ :=
  if G.Opens k then w.of .call else w.of .terminator

/-- A walk that starts without pending calls passes the entry that its innermost call has opened. -/
theorem Walk.passes_opened {May : CallStack P → F → Prop} {start q : P} {ks : List (Key P)}
    {k : Key P} (h : Walk (G.Flow May) ⟨start, .empty⟩ ks k) (ho : G.Opens ⟨q, k.stack⟩) :
    ⟨q, k.stack⟩ ∈ ks ++ [k] := by
  obtain ⟨c, rest, f, b, hs, hc, hq⟩ := ho
  simp only at hs hq
  obtain ⟨before, f', b', e, after, -, hc', -, he, heq⟩ :=
    h.entered (show c :: rest <:+ k.stack.innermostFirst by simp [hs])
  obtain ⟨rfl, rfl⟩ := hc.unique hc'
  cases Except.ok.inj (hq.symm.trans he)
  rw [heq, hs]
  simp

/-- **Weights keep a graph steady** when block entries are reached by calls and branches only. -/
theorem steady_of_weights (w : Weights) (start : P)
    (hnext : ∀ p q, G.nextOf p = .ok (some q) → G.isBlockEntry q ≠ .ok true) :
    G.Steady (w.price G) ⟨start, .empty⟩ (w.arrival G) := by
  intro ks k l hwalk hstep hentry
  cases hstep with
  | next _ hq => exact absurd hentry (hnext _ _ hq)
  | skip _ _ hq => exact absurd hentry (hnext _ _ hq)
  | resume _ hq => exact absurd hentry (hnext _ _ hq)
  | @enter p q s f b hc hmay hq =>
    have ho : G.Opens ⟨q, s.push p⟩ := ⟨p, s.innermostFirst, f, b, rfl, hc, hq⟩
    rw [Weights.arrival, if_pos ho]
    exact Or.inr (price_of_kind hc.1)
  | @branch p q s b t hp hb ht hq =>
    by_cases ho : G.Opens ⟨q, s⟩
    · exact Or.inl (hwalk.passes_opened ho)
    · rw [Weights.arrival, if_neg ho]
      exact Or.inr (price_of_kind hp)

end Steady

/-- In a program, what follows a position of a block is not the first position of one. -/
theorem Program.next_not_entry (M : Program) (p q : Position)
    (h : M.graph.nextOf p = .ok (some q)) : M.graph.isBlockEntry q ≠ .ok true := by
  simp only [Program.graph] at h ⊢
  split_ifs at h
  cases h
  simp

/-- **The search is exact for every table of weights** when it starts without pending calls.  In any
program, from any start: a search that lost no state to a full frontier finds the least weight of a
guarded walk to the target, is exhausted only when there is no such walk, and ends at the bound on
distances only when every such walk weighs at least that much. -/
theorem exact_of_weights {M : Program} {w : Weights} {start target : Position}
    {config : Config Position} {r : Searcher Position BlockName String} {res : SearchResult}
    (hcreate : Searcher.create M.graph start target [] config = .ok r)
    (hcost : config.cost = w.stepCost M.graph) (hrun : r.run.2 = .ok res)
    (hfull : res.stats.queueDropped = 0) :
    res.Exact config.maxDistance (M.graph.costsTo (w.price M.graph) ⟨start, .empty⟩ target) := by
  have hprice : ∀ p, config.cost p = .ok (w.price M.graph p) := by
    intro p
    rw [hcost]
    exact stepCost_eq_price p
  have hsteady := steady_of_weights w start M.next_not_entry
  exact Searcher.exact_of_steady hcreate hprice hsteady hrun hfull

/-- Through the function and back: a call, a branch and a return. -/
theorem exact_of_weights_sample :
    ∃ r res, Searcher.create Program.sample.graph ⟨"main", "a", 0⟩ ⟨"main", "a", 1⟩ []
        ⟨20, 9, 9, Weights.stepCost ⟨[(.call, 5), (.terminator, 2)], 1⟩ Program.sample.graph⟩ =
        .ok r ∧
      r.run.2 = .ok res ∧ res.stats.queueDropped = 0 ∧ res.reason = .found ∧
      res.distance = some 8 ∧
      res.Exact 20 (Program.sample.graph.costsTo
        (Weights.price ⟨[(.call, 5), (.terminator, 2)], 1⟩ Program.sample.graph)
        ⟨⟨"main", "a", 0⟩, .empty⟩ ⟨"main", "a", 1⟩) := by
  obtain ⟨r, hr, hrun⟩ := Searcher.run_of_toOption Program.sample.graph ⟨"main", "a", 0⟩
    ⟨"main", "a", 1⟩ []
    ⟨20, 9, 9, Weights.stepCost ⟨[(.call, 5), (.terminator, 2)], 1⟩ Program.sample.graph⟩
    ⟨some 8, .found, ⟨4, 1, 1, 0, 2⟩⟩ (by decide +kernel)
  exact ⟨r, _, hr, hrun, rfl, rfl, rfl, exact_of_weights hr rfl hrun rfl⟩

end CallReach
