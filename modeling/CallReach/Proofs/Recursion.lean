import CallReach.Proofs.Exactness
import Mathlib.Data.List.TakeWhile

/-!
# What the guard against recursion hides

The search does not enter a call of a function that some pending call calls.  A walk that does enter
such calls, and comes to the target before it returns from any of them, loses nothing by that: each
recursive activation is cut out together with what lies between it and the one it repeats, and the
rest is a guarded walk that is no longer.  So the guard hides only walks that return from a
recursive activation.

* `Graph.collapse` : a stack without the calls that are cut out; no two of its calls are of one
  function.
* `Walk.collapsed` : a walk that keeps its recursive activations has a guarded one that is no
  longer, to the same position with the collapsed stack.
* `Program.oneEntry` : calls of one function of a program lead to one block.
* `found_of_keepsReentries` : what a search says about such a walk.
-/

namespace CallReach

section Collapse

variable {P B F : Type} (G : Graph P B F)

/-- A place whose position is a call, to be entered, of a function that a pending call calls. -/
def Graph.Reenters (k : Key P) : Prop :=
  ∃ f b, G.Calls k.position f b ∧ ¬ G.Inactive k.stack f

/-- Among the places of a walk, the calls that enter an active function are pending to the end. -/
def Graph.KeepsReentries (ks : List (Key P)) : Prop :=
  ∀ before a b after, ks = before ++ a :: b :: after → G.Reenters a →
    ∀ k ∈ after, b.stack.innermostFirst <:+ k.stack.innermostFirst

/-- Calls of one function lead to one block. -/
def Graph.OneEntry : Prop :=
  ∀ p p' f b b', G.Calls p f b → G.Calls p' f b' → b = b'

theorem keepsReentries_of_concat {G : Graph P B F} {ks : List (Key P)} {l : Key P}
    (h : G.KeepsReentries (ks ++ [l])) : G.KeepsReentries ks := by
  rintro before a b after rfl ha k hk
  exact h before a b (after ++ [l]) (by simp) ha k (List.mem_append_left _ hk)

variable [DecidableEq F]

/-- The pending calls, the innermost first, with the recursive activations cut out: a call of an
active function is dropped together with all calls made since the earlier call of that function. -/
def Graph.collapse (G : Graph P B F) : List P → List P
  | [] => []
  | c :: rest =>
    match (Graph.collapse G rest).dropWhile
      fun e => decide ((G.calleeOf e).function ≠ (G.calleeOf c).function) with
    | [] => c :: Graph.collapse G rest
    | e :: below => e :: below

variable {G}

/-- A call joins the collapsed stack on top, or cuts it back to the call of the same function. -/
theorem collapse_cons (c : P) (rest : List P) :
    (G.collapse (c :: rest) = c :: G.collapse rest ∧
      ∀ e ∈ G.collapse rest, (G.calleeOf e).function ≠ (G.calleeOf c).function) ∨
    ∃ e below, G.collapse (c :: rest) = e :: below ∧ e :: below <:+ G.collapse rest ∧
      (G.calleeOf e).function = (G.calleeOf c).function := by
  rw [Graph.collapse]
  split
  · rename_i hdrop
    rw [List.dropWhile_eq_nil_iff] at hdrop
    exact Or.inl ⟨rfl, fun e he => of_decide_eq_true (hdrop e he)⟩
  · rename_i e below hdrop
    have hhead := List.head?_dropWhile_not
      (fun e => decide ((G.calleeOf e).function ≠ (G.calleeOf c).function)) (G.collapse rest)
    rw [hdrop] at hhead
    exact Or.inr ⟨e, below, rfl, hdrop ▸ List.dropWhile_suffix _, by simpa using hhead⟩

theorem collapse_subset (s : List P) : G.collapse s ⊆ s := by
  induction s with
  | nil => exact List.Subset.refl _
  | cons c rest ih =>
    rcases collapse_cons (G := G) c rest with ⟨heq, -⟩ | ⟨e, below, heq, hsuffix, -⟩
    · rw [heq]
      exact List.cons_subset_cons c ih
    · rw [heq]
      exact fun x hx => List.mem_cons_of_mem c (ih (hsuffix.subset hx))

end Collapse

/-- The search leaves out exactly the calls of active functions. -/
theorem expand_eq_pruned_iff {P B F : Type} [DecidableEq F] {G : Graph P B F} {s : State P} :
    expand G s = .ok .pruned ↔ G.Reenters s.key := by
  constructor
  · intro h
    unfold expand at h
    split at h
    · rename_i hkind
      simp only [expandCall, Except.ok.injEq] at h
      split at h
      · split_ifs at h with hdefined hrecursive
        · obtain ⟨f, b, hc⟩ := (isDefinedCall_iff hkind).1 hdefined
          refine ⟨f, b, hc, fun hinactive => ?_⟩
          have hfalse : s.stack.isRecursive G s.position = false :=
            (isRecursive_eq_false hc).2 hinactive
          rw [hrecursive] at hfalse
          cases hfalse
        · cases h
        · cases h
      · cases h
    · -- a return and a branch lead to moves, however many
      unfold expandReturn at h
      split at h <;> cases h
    · obtain ⟨b, -, h⟩ := bind_eq_ok.1 h
      cases h
    · cases h
    · cases h
  · rintro ⟨f, b, hc, hactive⟩
    simp only [State.key] at hc hactive
    have hdefined := (isDefinedCall_iff hc.1).2 ⟨f, b, hc⟩
    have hrecursive : s.stack.isRecursive G s.position = true := by
      simpa using mt (isRecursive_eq_false hc).1 hactive
    rw [hc.2.1] at hdefined
    simp [expand, hc.1, expandCall, hc.2.1, hdefined, hrecursive]

/-! ### Cutting out recursive activations -/

section Cut

variable {P B F : Type} [DecidableEq F] {G : Graph P B F} {start : P}

/-- A guarded walk to a call goes on to the function it calls: by entering it, or, when the function
is active, by going back to where it was entered before. -/
theorem Walk.enter_collapsed (hG : G.OneEntry) {ls : List (Key P)} {p q : P} {s : List P} {f : F}
    {b : B} (h : Walk G.GuardedStep ⟨start, .empty⟩ ls ⟨p, ⟨G.collapse s⟩⟩)
    (hc : G.Calls p f b) (hq : G.firstOf b = .ok q) :
    ∃ ls', Walk G.GuardedStep ⟨start, .empty⟩ ls' ⟨q, ⟨G.collapse (p :: s)⟩⟩ ∧
      ls'.length ≤ ls.length + 1 := by
  rcases collapse_cons (G := G) p s with ⟨heq, hin⟩ | ⟨e, below, heq, hsuffix, hsame⟩
  · have hmay : G.Inactive ⟨G.collapse s⟩ f := by
      intro e he
      rw [CallStack.mem_calls] at he
      have := hin e he
      rwa [hc.2.1] at this
    rw [heq]
    exact ⟨_, h.snoc (.enter hc hmay hq), by simp⟩
  · -- the walk up to the earlier call of `f`, and the step into `f` from there, do
    obtain ⟨before, f', b', q', after, hbefore, he, hmay, hq', hplaces⟩ := h.entered hsuffix
    have hf : f' = f := by
      rw [he.2.1, hc.2.1] at hsame
      exact Option.some.inj hsame
    subst hf
    cases hG _ _ _ _ _ he hc
    cases Except.ok.inj (hq.symm.trans hq')
    have hlen := congrArg List.length hplaces
    simp only [List.length_append, List.length_cons, List.length_nil] at hlen
    rw [heq]
    refine ⟨_, hbefore.snoc (.enter he hmay hq), ?_⟩
    simp only [List.length_append, List.length_cons, List.length_nil]
    omega

/-- A call that a walk returns from is not one of those cut out. -/
theorem collapse_of_returned {ks : List (Key P)} {p q c : P} {rest : List P}
    (h : Walk G.Step ⟨start, .empty⟩ ks ⟨p, ⟨c :: rest⟩⟩)
    (hk : G.KeepsReentries (ks ++ [⟨p, ⟨c :: rest⟩⟩] ++ [⟨q, ⟨rest⟩⟩])) :
    G.collapse (c :: rest) = c :: G.collapse rest := by
  obtain ⟨before, f, b, e, after, -, hc, -, -, hplaces⟩ := h.entered (List.suffix_refl (c :: rest))
  -- a call of an active function would still be pending after the return
  have hin : G.Inactive ⟨rest⟩ f := by
    by_contra hact
    have hkept := hk before ⟨c, ⟨rest⟩⟩ ⟨e, ⟨c :: rest⟩⟩ (after ++ [⟨q, ⟨rest⟩⟩])
      (by rw [hplaces]; simp) ⟨f, b, hc, hact⟩ ⟨q, ⟨rest⟩⟩ (by simp)
    have hlen := hkept.length_le
    simp only [List.length_cons] at hlen
    omega
  rcases collapse_cons (G := G) c rest with ⟨heq, -⟩ | ⟨e, below, -, hsuffix, hsame⟩
  · exact heq
  · have hmem : e ∈ rest := collapse_subset rest (hsuffix.subset List.mem_cons_self)
    rw [hc.2.1] at hsame
    exact absurd hsame (hin e (CallStack.mem_calls.2 hmem))

/-- **A walk that keeps its recursive activations can do without them.** -/
theorem Walk.collapsed (hG : G.OneEntry) {ks : List (Key P)} {k : Key P}
    (h : Walk G.Step ⟨start, .empty⟩ ks k) (hk : G.KeepsReentries (ks ++ [k])) :
    ∃ ls, Walk G.GuardedStep ⟨start, .empty⟩ ls
        ⟨k.position, ⟨G.collapse k.stack.innermostFirst⟩⟩ ∧ ls.length ≤ ks.length := by
  induction h with
  | nil => exact ⟨[], .nil, le_rfl⟩
  | @snoc ks k l hwalk hstep ih =>
    obtain ⟨ls, hls, hlen⟩ := ih (keepsReentries_of_concat hk)
    -- all steps but recursive calls are made from the collapsed stack as they are
    have one : ∀ {m}, G.GuardedStep ⟨k.position, ⟨G.collapse k.stack.innermostFirst⟩⟩ m →
        ∃ ls, Walk G.GuardedStep ⟨start, .empty⟩ ls m ∧ ls.length ≤ (ks ++ [k]).length := by
      intro m hm
      exact ⟨_, hls.snoc hm, by simpa using hlen⟩
    cases hstep with
    | next hp hq => exact one (.next hp hq)
    | skip hp hn hq => exact one (.skip hp hn hq)
    | branch hp hb ht hq => exact one (.branch hp hb ht hq)
    | @enter p q s f b hc _ hq =>
      obtain ⟨ls', hls', hlen'⟩ := hls.enter_collapsed hG hc hq
      exact ⟨ls', hls', hlen'.trans (by simpa using hlen)⟩
    | @resume p q c s hp hq =>
      rw [CallStack.push, collapse_of_returned hwalk hk] at one
      exact one (.resume (s := ⟨G.collapse s.innermostFirst⟩) hp hq)

end Cut

/-! ### Programs -/

theorem Program.calleeAt_eq {M : Program} {p : Position} {f : String} {b : BlockName}
    (h : M.calleeAt p = { function := some f, entry := some b }) :
    ∃ g, M.function? f = some g ∧ (g.entryBlock?.map fun b => ⟨g.name, b.name⟩) = some b := by
  unfold Program.calleeAt at h
  split at h
  · cases h
  · rename_i g hg
    obtain ⟨name, -, hname⟩ := Option.bind_eq_some_iff.1 hg
    have hsame : g.name = name := by simpa using List.find?_some hname
    simp only [Callee.mk.injEq, Option.some.injEq] at h
    obtain ⟨rfl, hentry⟩ := h
    exact ⟨g, hsame ▸ hname, hentry⟩

theorem Program.oneEntry (M : Program) : M.graph.OneEntry := by
  intro p p' f b b' h h'
  obtain ⟨g, hg, hb⟩ := Program.calleeAt_eq h.2.1
  obtain ⟨g', hg', hb'⟩ := Program.calleeAt_eq h'.2.1
  cases Option.some.inj (hg.symm.trans hg')
  exact Option.some.inj (hb.symm.trans hb')

/-- **The guard hides only walks that return from a recursive activation.**  Take any walk of a
program, without pending calls at its start, that enters every call it meets and whose recursive
activations are all pending at its end.  A search at constant cost that lost no state to a full
frontier, and was not cut off by the bound on expansions, finds the target no farther than the walk
goes, or ends at the bound on distances and the walk costs at least that much. -/
theorem found_of_keepsReentries {M : Program} {start target : Position}
    {config : Config Position} {c : ℕ} {r : Searcher Position BlockName String}
    {res : SearchResult} (hcreate : Searcher.create M.graph start target [] config = .ok r)
    (hcost : config.cost = StepCost.uniform c) (hrun : r.run.2 = .ok res)
    (hfull : res.stats.queueDropped = 0) (hstop : res.reason ≠ .iterationBound)
    {ks : List (Key Position)} {s : CallStack Position}
    (hwalk : Walk M.graph.Step ⟨start, .empty⟩ ks ⟨target, s⟩)
    (hkept : M.graph.KeepsReentries (ks ++ [⟨target, s⟩])) :
    (res.reason = .found ∧
      ∃ n : ℕ, res.distance = some (n : Int) ∧ n ≤ cost (fun _ => c) ks) ∨
    (res.reason = .distanceBound ∧ config.maxDistance ≤ cost (fun _ => c) ks) := by
  obtain ⟨ls, hls, hlen⟩ := hwalk.collapsed M.oneEntry hkept
  have hle : cost (fun _ => c) ls ≤ cost (fun _ => c) ks := by
    rw [cost_constant, cost_constant]
    exact Nat.mul_le_mul_right c hlen
  have hmem : cost (fun _ => c) ls ∈
      M.graph.costsTo (fun _ => c) ⟨start, .ofCalls []⟩ target := ⟨ls, _, hls, rfl⟩
  have hexact := Searcher.exact_of_steady hcreate (congrFun hcost)
    (steady_of_constant M.graph c _) hrun hfull
  cases hreason : res.reason with
  | found =>
    obtain ⟨n, hn, hleast⟩ := hexact.found hreason
    exact Or.inl ⟨rfl, n, hn, (hleast.2 hmem).trans hle⟩
  | exhausted =>
    rw [hexact.exhausted hreason] at hmem
    exact hmem.elim
  | distanceBound => exact Or.inr ⟨rfl, (hexact.bounded hreason _ hmem).trans hle⟩
  | iterationBound => exact absurd hreason hstop

/-- Places whose stacks only grow keep all activations. -/
theorem keepsReentries_of_growing {P B F : Type} {G : Graph P B F} {ks : List (Key P)}
    (h : ks.Pairwise fun a b => a.stack.innermostFirst <:+ b.stack.innermostFirst) :
    G.KeepsReentries ks := by
  rintro before a b after rfl - k hk
  have hab := (List.pairwise_append.1 h).2.1
  exact List.rel_of_pairwise_cons (List.pairwise_cons.1 hab).2 hk

/-- The places of a walk of `Program.sample`: into the function, and from its second block into it
again. -/
def Program.sampleWalk : List (Key Position) :=
  [⟨⟨"main", "a", 0⟩, ⟨[]⟩⟩, ⟨⟨"f", "a", 0⟩, ⟨[⟨"main", "a", 0⟩]⟩⟩,
    ⟨⟨"f", "b", 0⟩, ⟨[⟨"main", "a", 0⟩]⟩⟩,
    ⟨⟨"f", "a", 0⟩, ⟨[⟨"f", "b", 0⟩, ⟨"main", "a", 0⟩]⟩⟩]

theorem Program.walk_sampleWalk :
    Walk Program.sample.graph.Step ⟨⟨"main", "a", 0⟩, .empty⟩ Program.sampleWalk
      ⟨⟨"f", "c", 0⟩, ⟨[⟨"f", "b", 0⟩, ⟨"main", "a", 0⟩]⟩⟩ := by
  have hmain : Program.sample.graph.Calls ⟨"main", "a", 0⟩ "f" ⟨"f", "a"⟩ := ⟨rfl, rfl, rfl⟩
  have hself : Program.sample.graph.Calls ⟨"f", "b", 0⟩ "f" ⟨"f", "a"⟩ := ⟨rfl, rfl, rfl⟩
  have hfirst : Program.sample.graph.firstOf ⟨"f", "a"⟩ = .ok ⟨"f", "a", 0⟩ := rfl
  have hloop : ∀ s, Program.sample.graph.Step ⟨⟨"f", "a", 0⟩, s⟩ ⟨⟨"f", "b", 0⟩, s⟩ :=
    fun _ => .branch (b := ⟨"f", "a"⟩) (t := ⟨"f", "b"⟩) rfl rfl (by decide) rfl
  have hexit : ∀ s, Program.sample.graph.Step ⟨⟨"f", "a", 0⟩, s⟩ ⟨⟨"f", "c", 0⟩, s⟩ :=
    fun _ => .branch (b := ⟨"f", "a"⟩) (t := ⟨"f", "c"⟩) rfl rfl (by decide) rfl
  exact .snoc (.snoc (.snoc (.snoc .nil (.enter hmain trivial hfirst)) (hloop _))
    (.enter hself trivial hfirst)) (hexit _)

/-- The search finds the last block of the function without the second activation. -/
theorem found_of_keepsReentries_sample :
    ∃ r res, Searcher.create Program.sample.graph ⟨"main", "a", 0⟩ ⟨"f", "c", 0⟩ []
        ⟨9, 9, 9, StepCost.uniform 1⟩ = .ok r ∧
      r.run.2 = .ok res ∧ res.stats.queueDropped = 0 ∧ res.reason = .found ∧
      Program.sample.graph.Reenters ⟨⟨"f", "b", 0⟩, ⟨[⟨"main", "a", 0⟩]⟩⟩ ∧
      cost (fun _ => 1) Program.sampleWalk = 4 ∧
      ∃ n : ℕ, res.distance = some (n : Int) ∧ n ≤ 4 := by
  obtain ⟨r, hr, hrun⟩ := Searcher.run_of_toOption Program.sample.graph ⟨"main", "a", 0⟩
    ⟨"f", "c", 0⟩ [] ⟨9, 9, 9, StepCost.uniform 1⟩ ⟨some 2, .found, ⟨3, 1, 1, 0, 2⟩⟩
    (by decide +kernel)
  have hkept : Program.sample.graph.KeepsReentries (Program.sampleWalk ++
      [⟨⟨"f", "c", 0⟩, ⟨[⟨"f", "b", 0⟩, ⟨"main", "a", 0⟩]⟩⟩]) :=
    keepsReentries_of_growing (by decide)
  have hfound := found_of_keepsReentries hr rfl hrun rfl (by simp) Program.walk_sampleWalk hkept
  refine ⟨r, _, hr, hrun, rfl, rfl, ⟨"f", ⟨"f", "a"⟩, ⟨rfl, rfl, rfl⟩, ?_⟩, rfl, ?_⟩
  · exact fun h => h ⟨"main", "a", 0⟩ (by decide) rfl
  · rcases hfound with ⟨-, hn⟩ | ⟨⟨⟩, -⟩
    exact hn

end CallReach
