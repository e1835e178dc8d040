import CallReach.Proofs.Exactness

/-!
# Calls and returns match

A state of the search carries a stack that is pushed and popped one call at a time.  Here the stack
is described by the positions that were left on the way alone: a call is pending when the positions
after it leave no return over for it (`Graph.surplus`), and returns that no call accounts for
consume the initial calls, the innermost first.

* `Graph.unreturned` : the calls of a sequence that are pending after it.
* `Graph.Matched` : a sequence of positions in which every return goes on after the innermost
  pending call.
* `Walk.matched` : the positions of every walk are matched, and its last stack holds the pending
  calls.
* `admitted_realized` : every state that a search admits is the end of a matched sequence with that
  stack and that cost.
-/

namespace CallReach

namespace Graph

variable {P B F : Type} (G : Graph P B F)

/-- Whether a position is a call that is entered. -/
def enters (p : P) : Bool :=
  match G.kindOf p with
  | .ok .call => G.isDefinedCall (G.calleeOf p)
  | _ => false

/-- Whether a position is a return. -/
def isReturn (p : P) : Bool :=
  match G.kindOf p with
  | .ok .ret => true
  | _ => false

/-- The number of returns in a sequence that no call before them in the sequence accounts for. -/
def surplus : List P → ℕ
  | [] => 0
  | p :: ps =>
    if G.isReturn p then surplus ps + 1
    else if G.enters p then surplus ps - 1
    else surplus ps

/-- The calls of a sequence that have not been returned from: what comes after them has no return
left over. -/
def unreturned : List P → List P
  | [] => []
  | p :: ps =>
    if G.enters p && G.surplus ps == 0 then p :: unreturned ps else unreturned ps

/-- The initial calls that have not been returned from, when returns without a call of their own
consume them from the innermost one on. -/
def unconsumed (initial ps : List P) : List P :=
  initial.take (initial.length - G.surplus ps)

/-- How `q` can come after `p`, when `before` are the positions left before `p`. -/
inductive Follows (initial before : List P) : P → P → Prop
  /-- An ordinary instruction is followed by the next one. -/
  | next {p q : P} : G.kindOf p = .ok .other → G.nextOf p = .ok (some q) →
      Follows initial before p q
  /-- So is a call that cannot be entered. -/
  | skip {p q : P} : G.kindOf p = .ok .call → (¬ ∃ f b, G.Calls p f b) →
      G.nextOf p = .ok (some q) → Follows initial before p q
  /-- A call is followed by the first position of its function. -/
  | enter {p q : P} {f : F} {b : B} : G.Calls p f b → G.firstOf b = .ok q →
      Follows initial before p q
  /-- A terminator is followed by the first position of a successor of its block. -/
  | branch {p q : P} {b t : B} : G.kindOf p = .ok .terminator → G.blockOf p = .ok b →
      t ∈ G.successorsOf b → G.firstOf t = .ok q → Follows initial before p q
  /-- A return is followed by what comes after the last call that has not been returned from. -/
  | resume {p q c : P} {outer : List P} : G.kindOf p = .ok .ret →
      G.unreturned before = outer ++ [c] → G.nextOf c = .ok (some q) → Follows initial before p q
  /-- When there is none, it is followed by what comes after the innermost initial call that is
  left. -/
  | resumeInitial {p q c : P} {outer : List P} : G.kindOf p = .ok .ret →
      G.unreturned before = [] → G.unconsumed initial before = outer ++ [c] →
      G.nextOf c = .ok (some q) → Follows initial before p q

/-- The positions `before` and then `p` form a sequence from `start` in which calls and returns
match. -/
structure Matched (initial : List P) (start : P) (before : List P) (p : P) : Prop where
  starts : (before ++ [p]).head? = some start
  follows : ∀ earlier a b later, before ++ [p] = earlier ++ a :: b :: later →
    G.Follows initial earlier a b

/-- A state is what a matched sequence leads to: its stack holds the initial calls that are left and
then the calls not returned from, and its distance is the cost of all positions but the last. -/
structure Realizes (w : P → ℕ) (initial : List P) (start : P) (s : State P)
    (before : List P) : Prop where
  matched : G.Matched initial start before s.position
  stack : s.stack.calls = G.unconsumed initial before ++ G.unreturned before
  distance : s.distance = ((before.map w).sum : ℕ)

/-- The costs of the matched sequences from `start` to `target`. -/
def matchedCosts (w : P → ℕ) (initial : List P) (start target : P) : Set ℕ :=
  {n | ∃ before, G.Matched initial start before target ∧ n = (before.map w).sum}

end Graph

/-! ### One more position -/

section Concat

variable {P B F : Type} {G : Graph P B F} {x : P} {ps initial : List P}

theorem enters_iff : G.enters x = true ↔ ∃ f b, G.Calls x f b := by
  unfold Graph.enters
  split
  · rename_i hx
    exact isDefinedCall_iff hx
  · rename_i hx
    simp only [Bool.false_eq_true, false_iff, not_exists]
    exact fun f b hc => hx hc.1

theorem isReturn_iff : G.isReturn x = true ↔ G.kindOf x = .ok .ret := by
  unfold Graph.isReturn
  split <;> simp_all

theorem enters_of_isReturn (hx : G.isReturn x = true) : G.enters x = false := by
  simp [Graph.enters, isReturn_iff.1 hx]

theorem surplus_concat (hx : G.isReturn x = false) : G.surplus (ps ++ [x]) = G.surplus ps := by
  induction ps with
  | nil => simp [Graph.surplus, hx]
  | cons p ps ih => simp only [List.cons_append, Graph.surplus, ih]

theorem unreturned_concat (hx : G.isReturn x = false) (hc : G.enters x = false) :
    G.unreturned (ps ++ [x]) = G.unreturned ps := by
  induction ps with
  | nil => simp [Graph.unreturned, hc]
  | cons p ps ih => simp only [List.cons_append, Graph.unreturned, ih, surplus_concat hx]

theorem unreturned_concat_call (hx : G.isReturn x = false) (hc : G.enters x = true) :
    G.unreturned (ps ++ [x]) = G.unreturned ps ++ [x] := by
  induction ps with
  | nil => simp [Graph.unreturned, Graph.surplus, hc]
  | cons p ps ih =>
    simp only [List.cons_append, Graph.unreturned, ih, surplus_concat hx]
    split_ifs <;> rfl

/-- **A return takes away the last pending call**, and is left over when there is none. -/
theorem concat_return (ps : List P) (hx : G.isReturn x = true) :
    G.unreturned (ps ++ [x]) = (G.unreturned ps).dropLast ∧
      G.surplus (ps ++ [x]) =
        if G.unreturned ps = [] then G.surplus ps + 1 else G.surplus ps := by
  -- the two facts go together: whether a call is kept depends on the returns left over after it
  induction ps with
  | nil => simp [Graph.unreturned, Graph.surplus, hx, enters_of_isReturn hx]
  | cons p ps ih =>
    obtain ⟨hun, hsur⟩ := ih
    simp only [List.cons_append, Graph.unreturned, Graph.surplus, hun, hsur]
    by_cases hp : G.isReturn p = true
    · simp only [hp, enters_of_isReturn hp, Bool.false_and, Bool.false_eq_true, if_false, if_true]
      refine ⟨trivial, ?_⟩
      split_ifs <;> rfl
    · by_cases hc : G.enters p = true
      · -- the return is the one of `p` when nothing after `p` is pending or left over
        by_cases hnil : G.unreturned ps = [] <;> by_cases hzero : G.surplus ps = 0 <;>
          simp [hp, hc, hnil, hzero, List.dropLast_cons_of_ne_nil]
        omega
      · simp [hp, hc]

/-- The calls pending after a sequence: the initial ones that are left, then its own. -/
def Graph.pendingAfter (G : Graph P B F) (initial ps : List P) : List P :=
  G.unconsumed initial ps ++ G.unreturned ps

@[simp] theorem pendingAfter_nil : G.pendingAfter initial [] = initial := by
  simp [Graph.pendingAfter, Graph.unconsumed, Graph.surplus, Graph.unreturned]

theorem pendingAfter_concat (hx : G.isReturn x = false) (hc : G.enters x = false) :
    G.pendingAfter initial (ps ++ [x]) = G.pendingAfter initial ps := by
  simp only [Graph.pendingAfter, Graph.unconsumed, surplus_concat hx, unreturned_concat hx hc]

theorem pendingAfter_concat_call (hc : G.enters x = true) :
    G.pendingAfter initial (ps ++ [x]) = G.pendingAfter initial ps ++ [x] := by
  have hx : G.isReturn x = false := by
    by_contra h
    simp [enters_of_isReturn (by simpa using h)] at hc
  simp only [Graph.pendingAfter, Graph.unconsumed, surplus_concat hx,
    unreturned_concat_call hx hc, List.append_assoc]

theorem pendingAfter_concat_return (hx : G.isReturn x = true) :
    G.pendingAfter initial (ps ++ [x]) = (G.pendingAfter initial ps).dropLast := by
  obtain ⟨hun, hsur⟩ := concat_return ps hx
  simp only [Graph.pendingAfter, Graph.unconsumed, hun, hsur]
  by_cases hnil : G.unreturned ps = []
  · simp only [hnil, if_true, List.append_nil, List.dropLast_nil]
    rw [List.dropLast_eq_take, List.take_take, List.length_take]
    congr 1
    omega
  · rw [if_neg hnil, List.dropLast_append_of_ne_nil hnil]

end Concat

/-! ### Walks are matched -/

section Walks

variable {P B F : Type} {G : Graph P B F} {May : CallStack P → F → Prop} {initial before : List P}
  {start p q : P} {k l : Key P}

theorem CallStack.calls_push (s : CallStack P) (c : P) : (s.push c).calls = s.calls ++ [c] := by
  simp [CallStack.push, CallStack.calls]

theorem Graph.Matched.snoc (h : G.Matched initial start before p)
    (hq : G.Follows initial before p q) : G.Matched initial start (before ++ [p]) q := by
  refine ⟨?_, fun earlier a b later heq => ?_⟩
  · rw [List.head?_append, h.starts, Option.some_or]
  · rw [List.append_cons earlier a] at heq
    rcases concat_eq_append_cons heq with ⟨hlast, rfl, -⟩ | ⟨later', -, hinner⟩
    · obtain ⟨rfl, ha⟩ := List.append_inj' hlast rfl
      cases ha
      exact hq
    · exact h.follows earlier a b later' (by rw [hinner, ← List.append_cons])

/-- One step goes to a position that can follow, and the stack keeps to the pending calls. -/
theorem follows_of_flow (hs : k.stack.calls = G.pendingAfter initial before)
    (h : G.Flow May k l) :
    G.Follows initial before k.position l.position ∧
      l.stack.calls = G.pendingAfter initial (before ++ [k.position]) := by
  have plain : ∀ {x : P}, G.isReturn x = false → G.enters x = false →
      k.stack.calls = G.pendingAfter initial (before ++ [x]) :=
    fun hx hc => hs.trans (pendingAfter_concat hx hc).symm
  cases h with
  | @next p q s hp hq =>
    exact ⟨.next hp hq, plain (by simp [Graph.isReturn, hp]) (by simp [Graph.enters, hp])⟩
  | @skip p q s hp hn hq =>
    exact ⟨.skip hp hn hq, plain (by simp [Graph.isReturn, hp]) (by simpa using mt enters_iff.1 hn)⟩
  | @enter p q s f b hc hmay hq =>
    refine ⟨.enter hc hq, ?_⟩
    rw [pendingAfter_concat_call (enters_iff.2 ⟨f, b, hc⟩), ← hs]
    exact s.calls_push p
  | @resume p q c s hp hq =>
    have hpop : s.calls ++ [c] = G.unconsumed initial before ++ G.unreturned before :=
      (s.calls_push c).symm.trans hs
    refine ⟨?_, ?_⟩
    · -- the top of the stack is the last call not returned from, or an initial call
      rcases (G.unreturned before).eq_nil_or_concat with hnil | ⟨outer, x, hx⟩
      · rw [hnil, List.append_nil] at hpop
        exact .resumeInitial hp hnil hpop.symm hq
      · rw [List.concat_eq_append] at hx
        rw [hx, ← List.append_assoc] at hpop
        cases (List.append_inj' hpop rfl).2
        exact .resume hp hx hq
    · rw [pendingAfter_concat_return (isReturn_iff.2 hp), Graph.pendingAfter, ← hpop,
        List.dropLast_concat]
  | @branch p q s b t hp hb ht hq =>
    exact ⟨.branch hp hb ht hq, plain (by simp [Graph.isReturn, hp]) (by simp [Graph.enters, hp])⟩

/-- **The positions of a walk are matched**, and its last stack holds the calls pending then. -/
theorem Walk.matched {ks : List (Key P)}
    (h : Walk (G.Flow May) ⟨start, .ofCalls initial⟩ ks k) :
    G.Matched initial start (ks.map (·.position)) k.position ∧
      k.stack.calls = G.pendingAfter initial (ks.map (·.position)) := by
  induction h with
  | nil =>
    refine ⟨⟨rfl, fun earlier a b later heq => ?_⟩, ?_⟩
    · have := congrArg List.length heq
      simp at this
      omega
    · simp [CallStack.calls, CallStack.ofCalls]
  | @snoc ks k l _ hstep ih =>
    obtain ⟨hfollows, hstack⟩ := follows_of_flow ih.2 hstep
    rw [List.map_append]
    exact ⟨ih.1.snoc hfollows, hstack⟩

end Walks

/-! ### Searches -/

namespace Searcher

variable {P B F : Type} [DecidableEq P] {G : Graph P B F} {start target : P} {calls : List P}
  {config : Config P} {w : P → ℕ} {r e : Searcher P B F} {s : State P}

theorem realizes_of_turns (hcreate : create G start target calls config = .ok r)
    (hw : ∀ p n, config.cost p = .ok n → n = w p) (h : r.Turns e) (hs : e.Admitted s) :
    ∃ before, G.Realizes w calls start s before := by
  obtain ⟨hgraph, hconfig, hstart, -, -⟩ := create_frame hcreate
  obtain ⟨ks, hwalk, hdist, -⟩ := h.traced (hconfig ▸ hw) (create_traced w hcreate) s hs
  rw [h.sameTask.graph, h.sameTask.start, hgraph, hstart] at hwalk
  obtain ⟨hmatched, hstack⟩ := hwalk.matched
  refine ⟨_, hmatched, hstack, ?_⟩
  rw [hdist, cost, List.map_map]
  rfl

end Searcher

/-- **Every state that a search admits is real.**  Whatever the graph, the initial calls, the costs
and the bounds, and however long the search has run: an admitted state is the end of a sequence of
positions in which calls and returns match, its stack holds the calls that are pending there, and
its distance is the cost of the sequence.  So a distance that was found is the cost of a matched
sequence to the target, never less than the least one. -/
theorem admitted_realized {P B F : Type} [DecidableEq P] [DecidableEq F] {G : Graph P B F}
    {start target : P} {calls : List P} {config : Config P} {w : P → ℕ} {r : Searcher P B F}
    (hcreate : Searcher.create G start target calls config = .ok r)
    (hw : ∀ p n, config.cost p = .ok n → n = w p) :
    (∀ fuel s, (Searcher.runFor fuel r).1.Admitted s →
      ∃ before, G.Realizes w calls start s before) ∧
    ∀ res, r.run.2 = .ok res → res.reason = .found →
      ∃ n : ℕ, res.distance = some (n : Int) ∧ n ∈ G.matchedCosts w calls start target ∧
        ∀ m, IsLeast (G.matchedCosts w calls start target) m → m ≤ n := by
  refine ⟨fun fuel s hs => ?_, fun res hrun hfound => ?_⟩
  · exact Searcher.realizes_of_turns hcreate hw (Searcher.runFor_turns fuel r) hs
  · obtain ⟨e, hrounds, hfin, hend⟩ := Searcher.runFor_rounds (Searcher.run_eq_ok hrun)
    have hturns := Searcher.turns_of_rounds hrounds
    have hv := hend.resolve_right (by simp [hfound])
    rw [hfound] at hv hfin
    have he := hturns.consistent (Searcher.create_consistent hcreate)
    obtain ⟨s, hs, htarget, hdist, -⟩ := he.found hv hfin
    obtain ⟨before, hreal⟩ := Searcher.realizes_of_turns hcreate hw hturns (Or.inr hs)
    rw [hturns.sameTask.target, (Searcher.create_frame hcreate).2.2.2.1] at htarget
    have hmem : (before.map w).sum ∈ G.matchedCosts w calls start target :=
      ⟨before, htarget ▸ hreal.matched, rfl⟩
    exact ⟨_, hreal.distance ▸ hdist, hmem, fun m hm => hm.2 hmem⟩

/-- From inside the function, called by an initial call: a branch and the return from that call. -/
theorem admitted_realized_sample :
    ∃ r res, Searcher.create Program.sample.graph ⟨"f", "a", 0⟩ ⟨"main", "a", 1⟩
        [⟨"main", "a", 0⟩] ⟨9, 9, 9, StepCost.uniform 1⟩ = .ok r ∧
      r.run.2 = .ok res ∧ res.reason = .found ∧ res.distance = some 2 ∧
      (∀ fuel s, (Searcher.runFor fuel r).1.Admitted s → ∃ before,
        Program.sample.graph.Realizes (fun _ => 1) [⟨"main", "a", 0⟩] ⟨"f", "a", 0⟩ s before) ∧
      2 ∈ Program.sample.graph.matchedCosts (fun _ => 1) [⟨"main", "a", 0⟩] ⟨"f", "a", 0⟩
        ⟨"main", "a", 1⟩ := by
  obtain ⟨r, hr, hrun⟩ := Searcher.run_of_toOption Program.sample.graph ⟨"f", "a", 0⟩
    ⟨"main", "a", 1⟩ [⟨"main", "a", 0⟩] ⟨9, 9, 9, StepCost.uniform 1⟩
    ⟨some 2, .found, ⟨3, 1, 1, 0, 2⟩⟩ (by decide +kernel)
  obtain ⟨hreal, hfound⟩ := admitted_realized hr fun p n hn => (Except.ok.inj hn).symm
  obtain ⟨n, hn, hmem, -⟩ := hfound _ hrun rfl
  cases hn
  exact ⟨r, _, hr, hrun, rfl, rfl, hreal, hmem⟩

end CallReach
