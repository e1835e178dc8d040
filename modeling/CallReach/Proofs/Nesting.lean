import CallReach.Proofs.Matching
import CallReach.Proofs.Recursion
import CallReach.Proofs.Termination
import Mathlib.Data.List.Perm.Subperm

/-!
# The pending calls are nested

Blocks never branch out of their function, a return goes on in the function of its call, and a call
goes on in the function it calls.  So the calls that a search has entered form a chain: each lies in
the function that the one below it calls, and the position lies in the function that the last one
calls.  The guard keeps the functions they call apart.

* `Program.Chain` : calls that lead from one function to another, one inside the other.
* `Program.Nested` : how the calls entered since the start stand above the initial ones.
* `Program.Nested.step`, `Program.nested_of_walk` : a guarded step and a guarded walk keep that.
* `Searcher.runFor_justified` : a call is left out only where the guard sees recursion.
* `admitted_nested` : what this says about a search, and about the call graph when it leaves out a
  call.
-/

namespace CallReach

/-! ### Chains of calls -/

namespace Program

variable {M : Program} {f g h : String} {c p q : Position} {cs ds : List Position} {b : BlockName}

/-- Calls, the outermost first, that lead from the function `f` to another one: the first call lies
in `f`, and each further call in the function that the call before it calls. -/
inductive Chain (M : Program) (f : String) : List Position → String → Prop
  | nil : Chain M f [] f
  | snoc {cs : List Position} {c : Position} {g : String} {b : BlockName} :
      Chain M f cs c.function → M.graph.Calls c g b → Chain M f (cs ++ [c]) g

/-- Some call in `f` enters `g`: an edge of the call graph. -/
def CallEdge (M : Program) (f g : String) : Prop :=
  ∃ c b, c.function = f ∧ M.graph.Calls c g b

/-- A chain can be cut at each of its calls. -/
theorem Chain.split (hc : M.Chain f (cs ++ c :: ds) h) :
    M.Chain f cs c.function ∧ ∃ g b, M.graph.Calls c g b ∧ M.Chain g ds h := by
  generalize hall : cs ++ c :: ds = all at hc
  induction hc generalizing ds with
  | nil => simp at hall
  | @snoc es e h b hchain hcall ih =>
    rcases concat_eq_append_cons hall.symm with ⟨rfl, rfl, rfl⟩ | ⟨later, rfl, rfl⟩
    · exact ⟨hchain, h, b, hcall, .nil⟩
    · obtain ⟨hbefore, g, b', hcall', hafter⟩ := ih rfl
      exact ⟨hbefore, g, b', hcall', hafter.snoc hcall⟩

theorem Chain.calls (hc : M.Chain f cs g) (hmem : c ∈ cs) : ∃ h b, M.graph.Calls c h b := by
  obtain ⟨before, after, rfl⟩ := List.append_of_mem hmem
  obtain ⟨-, h, b, hcall, -⟩ := hc.split
  exact ⟨h, b, hcall⟩

/-- A chain follows the edges of the call graph. -/
theorem Chain.reaches (hc : M.Chain f cs g) : Relation.ReflTransGen M.CallEdge f g := by
  induction hc with
  | nil => exact .refl
  | snoc _ hcall ih => exact ih.tail ⟨_, _, rfl, hcall⟩

/-- A call at the end of a chain, of a function that some call of the chain calls, closes a cycle of
the call graph. -/
theorem Chain.cycle (hc : M.Chain f cs p.function) (hcall : M.graph.Calls p g b) (hmem : c ∈ cs)
    (hsame : (M.calleeAt c).function = some g) :
    Relation.ReflTransGen M.CallEdge f g ∧ Relation.TransGen M.CallEdge g g := by
  obtain ⟨before, after, rfl⟩ := List.append_of_mem hmem
  obtain ⟨hbefore, g', b', hcall', hafter⟩ := hc.split
  have hg : g' = g := by
    have : (M.calleeAt c).function = some g' := congrArg Callee.function hcall'.2.1
    exact Option.some.inj (this.symm.trans hsame)
  subst hg
  exact ⟨hbefore.reaches.tail ⟨c, b', rfl, hcall'⟩,
    Relation.TransGen.tail' hafter.reaches ⟨p, b, rfl, hcall⟩⟩

/-! ### The functions of positions -/

theorem function_nextOf (h : M.graph.nextOf p = .ok (some q)) : q.function = p.function := by
  simp only [Program.graph] at h
  split_ifs at h
  cases h
  rfl

theorem function_firstOf (h : M.graph.firstOf b = .ok q) : q.function = b.function := by
  simp only [Program.graph] at h
  split_ifs at h
  cases h
  rfl

/-- Blocks branch to blocks of their function only. -/
theorem function_branch {t : BlockName} (hb : M.graph.blockOf p = .ok b)
    (ht : t ∈ M.graph.successorsOf b) (hq : M.graph.firstOf t = .ok q) :
    q.function = p.function := by
  simp only [Program.graph] at hb
  split_ifs at hb
  cases hb
  obtain ⟨name, -, rfl⟩ := List.mem_map.1 ht
  exact function_firstOf hq

/-- A call leads to the function it calls, and that function has a body. -/
theorem function_calls (hc : M.graph.Calls c f b) :
    b.function = f ∧ ∃ g ∈ M.functions, g.name = f ∧ g.isDeclaration = false := by
  obtain ⟨g, hg, hb⟩ := calleeAt_eq hc.2.1
  obtain ⟨hmem, hname⟩ := mem_of_function? hg
  obtain ⟨block, hblock, rfl⟩ := Option.map_eq_some_iff.1 hb
  obtain ⟨entry, -, hentry⟩ := Option.bind_eq_some_iff.1 hblock
  refine ⟨hname, g, hmem, hname, ?_⟩
  have hblocks := List.ne_nil_of_mem (Function.mem_of_block? hentry).1
  simpa [Function.isDeclaration] using hblocks

/-! ### Steps and walks keep calls nested -/

/-- How calls are nested at the position `p`, when the initial calls `kept` are pending and above
them the calls `pushed`, which were entered since the function `base` was come to: those lead from
`base` to the function of `p`, and none of them calls what a call below it calls. -/
structure Nested (M : Program) (base : String) (kept pushed : List Position) (p : Position) :
    Prop where
  chain : M.Chain base pushed p.function
  fresh : ∀ c ∈ pushed, ∀ d ∈ kept, (M.calleeAt d).function ≠ (M.calleeAt c).function
  distinct : pushed.Pairwise fun d c => (M.calleeAt d).function ≠ (M.calleeAt c).function

namespace Nested

variable {base : String} {kept pushed : List Position}

theorem move (hn : M.Nested base kept pushed p) (hq : q.function = p.function) :
    M.Nested base kept pushed q :=
  ⟨hq ▸ hn.chain, hn.fresh, hn.distinct⟩

/-- The guard lets a call be entered only when no call below it calls the same function. -/
theorem push {s : CallStack Position} (hn : M.Nested base kept pushed p)
    (hs : s.calls = kept ++ pushed) (hc : M.graph.Calls p g b) (hinactive : M.graph.Inactive s g)
    (hq : q.function = g) : M.Nested base kept (pushed ++ [p]) q := by
  have hbelow : ∀ d ∈ kept ++ pushed, (M.calleeAt d).function ≠ (M.calleeAt p).function := by
    intro d hd
    have hp : (M.calleeAt p).function = some g := congrArg Callee.function hc.2.1
    rw [hp]
    exact hinactive d (hs ▸ hd)
  refine ⟨hq ▸ hn.chain.snoc hc, fun c hmem d hd => ?_, ?_⟩
  · rcases List.mem_append.1 hmem with hmem | hmem
    · exact hn.fresh c hmem d hd
    · rw [List.mem_singleton.1 hmem]
      exact hbelow d (List.mem_append_left _ hd)
  · refine List.pairwise_append.2 ⟨hn.distinct, List.pairwise_singleton _ _, fun d hd c hmem => ?_⟩
    rw [List.mem_singleton.1 hmem]
    exact hbelow d (List.mem_append_right _ hd)

/-- A return goes on in the function of the call it returns from. -/
theorem pop (hn : M.Nested base kept (pushed ++ [c]) p) (hq : q.function = c.function) :
    M.Nested base kept pushed q where
  chain := hq ▸ hn.chain.split.1
  fresh d hd := hn.fresh d (List.mem_append_left _ hd)
  distinct := (List.pairwise_append.1 hn.distinct).1

/-- When nothing has been entered, the position says where calls lead from. -/
theorem here (M : Program) (kept : List Position) (hq : q.function = base) :
    M.Nested base kept [] q :=
  ⟨hq ▸ .nil, by simp, .nil⟩

variable {initial before : List Position} {k l : Key Position}

/-- **A guarded step keeps calls nested.**  Only a return from an initial call changes the function
that they lead from. -/
theorem step (hn : M.Nested base (M.graph.unconsumed initial before) (M.graph.unreturned before)
      k.position)
    (hs : k.stack.calls = M.graph.pendingAfter initial before) (h : M.graph.GuardedStep k l) :
    ∃ base', M.Nested base' (M.graph.unconsumed initial (before ++ [k.position]))
        (M.graph.unreturned (before ++ [k.position])) l.position ∧
      (initial = [] → base' = base) := by
  -- a position that is no return leaves the initial calls as they are
  have kept : ∀ {x : Position}, M.graph.isReturn x = false →
      M.graph.unconsumed initial (before ++ [x]) = M.graph.unconsumed initial before :=
    fun hx => by rw [Graph.unconsumed, surplus_concat hx, Graph.unconsumed]
  have plain : ∀ {x q : Position}, M.graph.isReturn x = false → M.graph.enters x = false →
      q.function = k.position.function →
      ∃ base', M.Nested base' (M.graph.unconsumed initial (before ++ [x]))
          (M.graph.unreturned (before ++ [x])) q ∧ (initial = [] → base' = base) := by
    intro x q hx hc hq
    rw [kept hx, unreturned_concat hx hc]
    exact ⟨base, hn.move hq, fun _ => rfl⟩
  cases h with
  | next hp hq =>
    exact plain (by simp [Graph.isReturn, hp]) (by simp [Graph.enters, hp]) (function_nextOf hq)
  | skip hp hno hq =>
    exact plain (by simp [Graph.isReturn, hp]) (by simpa using mt enters_iff.1 hno)
      (function_nextOf hq)
  | branch hp hb ht hq =>
    exact plain (by simp [Graph.isReturn, hp]) (by simp [Graph.enters, hp])
      (function_branch hb ht hq)
  | @enter p q s f b hc hinactive hq =>
    have hx : M.graph.isReturn p = false := by simp [Graph.isReturn, hc.1]
    rw [kept hx, unreturned_concat_call hx (enters_iff.2 ⟨f, b, hc⟩)]
    refine ⟨base, hn.push hs hc hinactive ?_, fun _ => rfl⟩
    exact (function_firstOf hq).trans (function_calls hc).1
  | @resume p q c s hp hq =>
    have hpop : s.calls ++ [c] = M.graph.unconsumed initial before ++ M.graph.unreturned before :=
      (s.calls_push c).symm.trans hs
    obtain ⟨hun, hsur⟩ := concat_return before (isReturn_iff.2 hp)
    rcases (M.graph.unreturned before).eq_nil_or_concat with hnil | ⟨outer, x, hx⟩
    · -- the return is from an initial call
      rw [hun, hnil]
      refine ⟨c.function, here M _ (function_nextOf hq), ?_⟩
      rintro rfl
      simp [hnil, Graph.unconsumed] at hpop
    · rw [List.concat_eq_append] at hx
      have hkept : M.graph.unconsumed initial (before ++ [p]) =
          M.graph.unconsumed initial before := by
        rw [Graph.unconsumed, hsur, if_neg (by simp [hx]), Graph.unconsumed]
      rw [hx, ← List.append_assoc] at hpop
      cases (List.append_inj' hpop rfl).2
      rw [hx] at hn
      rw [hkept, hun, hx, List.dropLast_concat]
      exact ⟨base, hn.pop (function_nextOf hq), fun _ => rfl⟩

end Nested

/-- **A guarded walk keeps calls nested.**  The calls entered on the way and not returned from lead
to the last position, from the start when there were no initial calls. -/
theorem nested_of_walk {start : Position} {initial : List Position} {ks : List (Key Position)}
    {k : Key Position} (h : Walk M.graph.GuardedStep ⟨start, .ofCalls initial⟩ ks k) :
    ∃ base, M.Nested base (M.graph.unconsumed initial (ks.map (·.position)))
        (M.graph.unreturned (ks.map (·.position))) k.position ∧
      (initial = [] → base = start.function) := by
  induction h with
  | nil => exact ⟨start.function, .here M _ rfl, fun _ => rfl⟩
  | @snoc ks k l hwalk hstep ih =>
    obtain ⟨base, hn, hbase⟩ := ih
    obtain ⟨base', hn', hbase'⟩ := hn.step hwalk.matched.2 hstep
    rw [List.map_append]
    exact ⟨base', hn', fun hnil => (hbase' hnil).trans (hbase hnil)⟩

/-- The calls entered are at most as many as the functions with a body. -/
theorem Nested.length_le {base : String} {kept pushed : List Position}
    (hn : M.Nested base kept pushed p) :
    pushed.length ≤ (M.functions.filter fun f => !f.isDeclaration).length := by
  have hnodup : (pushed.map fun c => (M.calleeAt c).function).Nodup :=
    List.pairwise_map.2 hn.distinct
  have hsubset : (pushed.map fun c => (M.calleeAt c).function) ⊆
      (M.functions.filter fun f => !f.isDeclaration).map fun f => some f.name := by
    intro name hname
    obtain ⟨c, hmem, rfl⟩ := List.mem_map.1 hname
    obtain ⟨f, b, hc⟩ := hn.chain.calls hmem
    obtain ⟨-, g, hg, rfl, hbody⟩ := function_calls hc
    refine List.mem_map.2 ⟨g, List.mem_filter.2 ⟨hg, by simp [hbody]⟩, ?_⟩
    exact (congrArg Callee.function hc.2.1).symm
  simpa using (List.subperm_of_subset hnodup hsubset).length_le

end Program

/-! ### Searches -/

namespace Searcher

variable {P B F : Type} [DecidableEq P] [DecidableEq F] {r : Searcher P B F}

/-- A call has been left out only if a state at a call of an active function was expanded. -/
def Justified (r : Searcher P B F) : Prop :=
  0 < r.recursionPruned → ∃ s ∈ r.expanded, r.graph.Reenters s.key

theorem step_justified (head : State P) (rest : Frontier (State P)) (hr : r.Justified) :
    (r.step head rest).1.Justified := by
  obtain ⟨_, _, _, _, pruned, _, hframe, hpruned, -⟩ := step_frame r head rest
  rw [hframe]
  intro hpos
  rcases hpruned with rfl | hx
  · obtain ⟨s, hs, hreenters⟩ := hr hpos
    exact ⟨s, List.mem_cons_of_mem _ hs, hreenters⟩
  · exact ⟨head, List.mem_cons_self, expand_eq_pruned_iff.1 hx⟩

theorem runFor_justified (fuel : ℕ) (hr : r.Justified) : (runFor fuel r).1.Justified :=
  runFor_invariant (fun _ head rest ha _ => step_justified head rest ha) (fun _ _ ha => ha) fuel hr

omit [DecidableEq F] in
theorem create_justified {G : Graph P B F} {start target : P} {calls : List P} {config : Config P}
    (h : create G start target calls config = .ok r) : r.Justified := by
  obtain ⟨frontier, seen, rfl, -⟩ := create_eq_ok h
  intro hpos
  exact absurd hpos (lt_irrefl 0)

/-- Every admitted state is the end of a guarded walk. -/
theorem walk_of_admitted {G : Graph P B F} {start target : P} {calls : List P} {config : Config P}
    (h : create G start target calls config = .ok r) {fuel : ℕ} {s : State P}
    (hs : (runFor fuel r).1.Admitted s) :
    ∃ ks, Walk G.GuardedStep ⟨start, .ofCalls calls⟩ ks s.key := by
  obtain ⟨hgraph, -, hkey, -⟩ := create_frame h
  have hbegin : r.AllGood fun k => ∃ ks, Walk G.GuardedStep ⟨start, .ofCalls calls⟩ ks k := by
    intro a ha
    rw [(create_admitted h a).1 ha, hkey]
    exact ⟨[], .nil⟩
  refine (runFor_turns fuel r).allGood (fun k l hk hstep => ?_) hbegin s hs
  obtain ⟨ks, hwalk⟩ := hk
  exact ⟨_, hwalk.snoc (hgraph ▸ hstep)⟩

end Searcher

/-- **The pending calls of a search are nested.**  In any program, from any instruction inside any
calls, at any costs and within any bounds, a search can be made, and however long it runs:

* every state that it admits is the end of a sequence of positions in which calls and returns
  match, and its stack holds first the initial calls that are left, then the calls of the sequence
  that have not been returned from; these form a chain, and none calls a function that a call below
  it calls;
* without initial calls the chain leads from the function of the start to that of the position, and
  is at most as long as there are functions with a body;
* without initial calls a call is left out only if some function that can be reached from that of
  the start lies on a cycle of the call graph. -/
theorem admitted_nested {M : Program} (start target : Position) (calls : List Position)
    (config : Config Position) (hstart : (M.instruction? start).isSome)
    (hcalls : ∀ c ∈ calls, M.IsCall c) :
    ∃ r, Searcher.create M.graph start target calls config = .ok r ∧
      (∀ fuel s, (Searcher.runFor fuel r).1.Admitted s → ∃ before kept pushed base,
        M.graph.Matched calls start before s.position ∧
        kept = M.graph.unconsumed calls before ∧ pushed = M.graph.unreturned before ∧
        kept <+: calls ∧ s.stack.calls = kept ++ pushed ∧ M.Nested base kept pushed s.position) ∧
      (calls = [] → ∀ fuel,
        (∀ s, (Searcher.runFor fuel r).1.Admitted s →
          M.Nested start.function [] s.stack.calls s.position ∧
          s.stack.calls.length ≤ (M.functions.filter fun f => !f.isDeclaration).length) ∧
        (0 < (Searcher.runFor fuel r).1.recursionPruned →
          ∃ f, Relation.ReflTransGen M.CallEdge start.function f ∧
            Relation.TransGen M.CallEdge f f)) := by
  obtain ⟨r, hr, -⟩ := Program.create_sound target config hstart hcalls
  refine ⟨r, hr, fun fuel s hs => ?_, ?_⟩
  · obtain ⟨ks, hwalk⟩ := Searcher.walk_of_admitted hr hs
    obtain ⟨hmatched, hstack⟩ := hwalk.matched
    obtain ⟨base, hn, -⟩ := Program.nested_of_walk hwalk
    exact ⟨_, _, _, base, hmatched, rfl, rfl, List.take_prefix _ _, hstack, hn⟩
  · rintro rfl fuel
    have hnested : ∀ s, (Searcher.runFor fuel r).1.Admitted s →
        M.Nested start.function [] s.stack.calls s.position := by
      intro s hs
      obtain ⟨ks, hwalk⟩ := Searcher.walk_of_admitted hr hs
      obtain ⟨base, hn, hbase⟩ := Program.nested_of_walk hwalk
      have hstack := hwalk.matched.2
      simp only [Graph.pendingAfter, Graph.unconsumed, List.take_nil, List.nil_append] at hstack hn
      rw [← hbase rfl]
      exact hstack ▸ hn
    refine ⟨fun s hs => ⟨hnested s hs, (hnested s hs).length_le⟩, fun hpos => ?_⟩
    -- the expanded call of an active function closes the cycle
    obtain ⟨s, hs, f, b, hc, hactive⟩ :=
      Searcher.runFor_justified fuel (Searcher.create_justified hr) hpos
    rw [(Searcher.runFor_turns fuel r).sameTask.graph, (Searcher.create_frame hr).1] at hc hactive
    simp only [Graph.Inactive, not_forall, not_not] at hactive
    obtain ⟨c, hmem, hsame⟩ := hactive
    exact ⟨f, (hnested s (Or.inl hs)).chain.cycle hc hmem hsame⟩

/-- From outside, the two functions of `Program.pingPong` are entered one after the other, and the
second call of the first one is left out; from inside a call, that call stands below. -/
theorem admitted_nested_pingPong :
    (∃ r, Searcher.create Program.pingPong.graph ⟨"main", "a", 0⟩ ⟨"island", "a", 0⟩ []
        ⟨9, 9, 9, .uniform 1⟩ = .ok r ∧ 0 < (Searcher.runFor 9 r).1.recursionPruned ∧
      ∃ f, Relation.ReflTransGen Program.pingPong.CallEdge "main" f ∧
        Relation.TransGen Program.pingPong.CallEdge f f) ∧
    ∃ r, Searcher.create Program.pingPong.graph ⟨"ping", "a", 0⟩ ⟨"island", "a", 0⟩
        [⟨"main", "a", 0⟩] ⟨9, 9, 9, .uniform 1⟩ = .ok r ∧
      ∀ fuel s, (Searcher.runFor fuel r).1.Admitted s → ∃ kept pushed base,
        kept <+: [⟨"main", "a", 0⟩] ∧ s.stack.calls = kept ++ pushed ∧
        Program.pingPong.Nested base kept pushed s.position := by
  have hpruned : (Searcher.create Program.pingPong.graph ⟨"main", "a", 0⟩ ⟨"island", "a", 0⟩ []
      ⟨9, 9, 9, .uniform 1⟩).toOption.map (fun r => (Searcher.runFor 9 r).1.recursionPruned) =
      some 1 := by decide +kernel
  have hcall : Program.pingPong.IsCall ⟨"main", "a", 0⟩ := ⟨_, rfl, rfl⟩
  refine ⟨?_, ?_⟩
  · obtain ⟨r, hr, -, hnone⟩ := admitted_nested (M := Program.pingPong) ⟨"main", "a", 0⟩
      ⟨"island", "a", 0⟩ [] ⟨9, 9, 9, .uniform 1⟩ rfl (by simp)
    rw [hr] at hpruned
    have hone : (Searcher.runFor 9 r).1.recursionPruned = 1 := Option.some.inj hpruned
    have hpos : 0 < (Searcher.runFor 9 r).1.recursionPruned := by omega
    exact ⟨r, hr, hpos, (hnone rfl 9).2 hpos⟩
  · obtain ⟨r, hr, hall, -⟩ := admitted_nested (M := Program.pingPong) ⟨"ping", "a", 0⟩
      ⟨"island", "a", 0⟩ [⟨"main", "a", 0⟩] ⟨9, 9, 9, .uniform 1⟩ rfl (by simpa using hcall)
    refine ⟨r, hr, fun fuel s hs => ?_⟩
    obtain ⟨-, kept, pushed, base, -, -, -, hprefix, hstack, hn⟩ := hall fuel s hs
    exact ⟨kept, pushed, base, hprefix, hstack, hn⟩

end CallReach
