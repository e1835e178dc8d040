import CallReach.Search.Searcher
import Mathlib.Algebra.BigOperators.Group.List.Basic
import Mathlib.Algebra.Ring.Nat

/-!
# Walks of a graph

Control passes from one position to the next with the calls that are pending.  `Graph.Flow` lists
the ways in which it can pass; whether a call may be entered is a parameter, so that the same rules
give two relations:

* `Graph.Step` : every defined call is entered.
* `Graph.GuardedStep` : a call of a function that some pending call calls is not entered.

A `Walk` is a sequence of such steps with the places it leaves, and `cost` adds up what leaving them
costs.

* `Walk.entered` : the calls pending at the end of a walk were entered on the way, in their order.
* `expand_yields` : the expansions of the search are exactly the guarded steps.
-/

namespace CallReach

section Flow

variable {P B F : Type} (G : Graph P B F)

/-- `p` is a call of `f` that can be entered: `f` is not intrinsic and starts with the block `b`. -/
def Graph.Calls (p : P) (f : F) (b : B) : Prop :=
  G.kindOf p = .ok .call ∧ G.calleeOf p = { function := some f, entry := some b } ∧
    G.isIntrinsic f = false

/-- No pending call calls `f`. -/
def Graph.Inactive (s : CallStack P) (f : F) : Prop :=
  ∀ c ∈ s.calls, (G.calleeOf c).function ≠ some f

/-- How control can pass from one place to another, when `May s f` says that `f` may be entered
while the calls of `s` are pending. -/
inductive Graph.Flow (May : CallStack P → F → Prop) : Key P → Key P → Prop
  /-- An ordinary instruction is followed by the next one. -/
  | next {p q : P} {s : CallStack P} :
      G.kindOf p = .ok .other → G.nextOf p = .ok (some q) → Flow May ⟨p, s⟩ ⟨q, s⟩
  /-- So is a call that cannot be entered. -/
  | skip {p q : P} {s : CallStack P} : G.kindOf p = .ok .call → (¬ ∃ f b, G.Calls p f b) →
      G.nextOf p = .ok (some q) → Flow May ⟨p, s⟩ ⟨q, s⟩
  /-- A call that can be entered leads to the first position of its function. -/
  | enter {p q : P} {s : CallStack P} {f : F} {b : B} :
      G.Calls p f b → May s f → G.firstOf b = .ok q → Flow May ⟨p, s⟩ ⟨q, s.push p⟩
  /-- A return goes on after the innermost call. -/
  | resume {p q c : P} {s : CallStack P} :
      G.kindOf p = .ok .ret → G.nextOf c = .ok (some q) → Flow May ⟨p, s.push c⟩ ⟨q, s⟩
  /-- A terminator leads to the first position of each successor of its block. -/
  | branch {p q : P} {s : CallStack P} {b t : B} : G.kindOf p = .ok .terminator →
      G.blockOf p = .ok b → t ∈ G.successorsOf b → G.firstOf t = .ok q → Flow May ⟨p, s⟩ ⟨q, s⟩

/-- A step in which every call that can be entered is entered. -/
def Graph.Step : Key P → Key P → Prop := G.Flow fun _ _ => True

/-- A step in which a call of an active function is not entered. -/
def Graph.GuardedStep : Key P → Key P → Prop := G.Flow G.Inactive

/-- A sequence of steps from `a`: the places it leaves, in order, and the place it reaches. -/
inductive Walk (R : Key P → Key P → Prop) (a : Key P) : List (Key P) → Key P → Prop
  | nil : Walk R a [] a
  | snoc {ks : List (Key P)} {k l : Key P} : Walk R a ks k → R k l → Walk R a (ks ++ [k]) l

/-- What it costs to leave the places of a walk, at a price for each position. -/
def cost (w : P → ℕ) (ks : List (Key P)) : ℕ := (ks.map fun k => w k.position).sum

@[simp] theorem cost_nil (w : P → ℕ) : cost w [] = 0 := rfl

@[simp] theorem cost_append (w : P → ℕ) (ks ls : List (Key P)) :
    cost w (ks ++ ls) = cost w ks + cost w ls := by
  simp [cost]

@[simp] theorem cost_singleton (w : P → ℕ) (k : Key P) : cost w [k] = w k.position := by
  simp [cost]

theorem cost_constant (c : ℕ) (ks : List (Key P)) : cost (fun _ => c) ks = ks.length * c := by
  rw [cost, List.map_const']
  exact List.sum_replicate_nat

/-- Where a list with one more item at its end is split. -/
theorem concat_eq_append_cons {α : Type} {xs ys zs : List α} {x a : α}
    (h : xs ++ [x] = ys ++ a :: zs) :
    (xs = ys ∧ x = a ∧ zs = []) ∨ ∃ later, zs = later ++ [x] ∧ xs = ys ++ a :: later := by
  rcases zs.eq_nil_or_concat with rfl | ⟨later, y, rfl⟩
  · obtain ⟨hxs, hx⟩ := List.append_inj' h rfl
    exact Or.inl ⟨hxs, List.singleton_inj.1 hx, rfl⟩
  · rw [List.concat_eq_append] at h ⊢
    obtain ⟨hxs, hx⟩ := List.append_inj' (h.trans (List.append_assoc ys (a :: later) [y]).symm) rfl
    cases hx
    exact Or.inr ⟨later, rfl, hxs⟩

end Flow

/-! ### The steps from a place, by the kind of its position -/

section Kinds

variable {P B F : Type} {G : Graph P B F} {May : CallStack P → F → Prop} {p : P}
  {s : CallStack P} {k : Key P}

theorem kind_unique {x y : Kind} (hx : G.kindOf p = .ok x) (hy : G.kindOf p = .ok y) : x = y :=
  Except.ok.inj (hx.symm.trans hy)

theorem Graph.Calls.unique {f f' : F} {b b' : B} (h : G.Calls p f b) (h' : G.Calls p f' b') :
    f = f' ∧ b = b' := by
  simpa using h.2.1.symm.trans h'.2.1

theorem flow_other_iff (hp : G.kindOf p = .ok .other) :
    G.Flow May ⟨p, s⟩ k ↔ ∃ q, G.nextOf p = .ok (some q) ∧ k = ⟨q, s⟩ := by
  constructor
  · intro h
    cases h with
    | next _ hq => exact ⟨_, hq, rfl⟩
    | skip hk => cases kind_unique hp hk
    | enter hc => cases kind_unique hp hc.1
    | resume hk => cases kind_unique hp hk
    | branch hk => cases kind_unique hp hk
  · rintro ⟨q, hq, rfl⟩
    exact .next hp hq

theorem flow_skip_iff (hp : G.kindOf p = .ok .call) (hn : ¬ ∃ f b, G.Calls p f b) :
    G.Flow May ⟨p, s⟩ k ↔ ∃ q, G.nextOf p = .ok (some q) ∧ k = ⟨q, s⟩ := by
  constructor
  · intro h
    cases h with
    | next hk => cases kind_unique hp hk
    | skip _ _ hq => exact ⟨_, hq, rfl⟩
    | enter hc => exact absurd ⟨_, _, hc⟩ hn
    | resume hk => cases kind_unique hp hk
    | branch hk => cases kind_unique hp hk
  · rintro ⟨q, hq, rfl⟩
    exact .skip hp hn hq

theorem flow_call_iff {f : F} {b : B} (hc : G.Calls p f b) :
    G.Flow May ⟨p, s⟩ k ↔ May s f ∧ ∃ q, G.firstOf b = .ok q ∧ k = ⟨q, s.push p⟩ := by
  constructor
  · intro h
    cases h with
    | next hk => cases kind_unique hc.1 hk
    | skip _ hn => exact absurd ⟨f, b, hc⟩ hn
    | enter hc' hmay hq =>
      obtain ⟨rfl, rfl⟩ := hc.unique hc'
      exact ⟨hmay, _, hq, rfl⟩
    | resume hk => cases kind_unique hc.1 hk
    | branch hk => cases kind_unique hc.1 hk
  · rintro ⟨hmay, q, hq, rfl⟩
    exact .enter hc hmay hq

theorem flow_ret_iff (hp : G.kindOf p = .ok .ret) :
    G.Flow May ⟨p, s⟩ k ↔
      ∃ c t q, s = t.push c ∧ G.nextOf c = .ok (some q) ∧ k = ⟨q, t⟩ := by
  constructor
  · intro h
    cases h with
    | next hk => cases kind_unique hp hk
    | skip hk => cases kind_unique hp hk
    | enter hc => cases kind_unique hp hc.1
    | resume _ hq => exact ⟨_, _, _, rfl, hq, rfl⟩
    | branch hk => cases kind_unique hp hk
  · rintro ⟨c, t, q, rfl, hq, rfl⟩
    exact .resume hp hq

theorem flow_branch_iff {b : B} (hp : G.kindOf p = .ok .terminator) (hb : G.blockOf p = .ok b) :
    G.Flow May ⟨p, s⟩ k ↔ ∃ t ∈ G.successorsOf b, ∃ q, G.firstOf t = .ok q ∧ k = ⟨q, s⟩ := by
  constructor
  · intro h
    cases h with
    | next hk => cases kind_unique hp hk
    | skip hk => cases kind_unique hp hk
    | enter hc => cases kind_unique hp hc.1
    | resume hk => cases kind_unique hp hk
    | branch _ hb' ht hq =>
      cases Except.ok.inj (hb.symm.trans hb')
      exact ⟨_, ht, _, hq, rfl⟩
  · rintro ⟨t, ht, q, hq, rfl⟩
    exact .branch hp hb ht hq

end Kinds

/-! ### The calls that a walk has entered -/

/-- **Every pending call was entered on the way.**  A walk that starts with no pending calls passes,
for each call `c` on its last stack, from `c` to the first position of the function that `c` calls,
with the calls below `c` pending. -/
theorem Walk.entered {P B F : Type} {G : Graph P B F} {May : CallStack P → F → Prop} {start : P}
    {ks : List (Key P)} {k : Key P} (h : Walk (G.Flow May) ⟨start, .empty⟩ ks k) {c : P}
    {rest : List P} (hs : c :: rest <:+ k.stack.innermostFirst) :
    ∃ before f b e after, Walk (G.Flow May) ⟨start, .empty⟩ before ⟨c, ⟨rest⟩⟩ ∧
      G.Calls c f b ∧ May ⟨rest⟩ f ∧ G.firstOf b = .ok e ∧
      ks ++ [k] = before ++ ⟨c, ⟨rest⟩⟩ :: ⟨e, ⟨c :: rest⟩⟩ :: after := by
  induction h with
  | nil => simp [CallStack.empty] at hs
  | @snoc ks k l hw hstep ih =>
    -- a step keeps what was pending before it, except that a call is new on top
    have old : c :: rest <:+ k.stack.innermostFirst →
        ∃ before f b e after, Walk (G.Flow May) ⟨start, .empty⟩ before ⟨c, ⟨rest⟩⟩ ∧
          G.Calls c f b ∧ May ⟨rest⟩ f ∧ G.firstOf b = .ok e ∧
          ks ++ [k] ++ [l] = before ++ ⟨c, ⟨rest⟩⟩ :: ⟨e, ⟨c :: rest⟩⟩ :: after := by
      intro hk
      obtain ⟨before, f, b, e, after, hb, hc, hmay, he, heq⟩ := ih hk
      exact ⟨before, f, b, e, after ++ [l], hb, hc, hmay, he, by rw [heq]; simp⟩
    cases hstep with
    | next _ _ => exact old hs
    | skip _ _ _ => exact old hs
    | @enter p q s f b hc hmay hq =>
      rcases List.suffix_cons_iff.1 hs with heq | hs
      · obtain ⟨rfl, rfl⟩ := List.cons.inj heq
        exact ⟨ks, f, b, q, [], hw, hc, hmay, hq, by simp [CallStack.push]⟩
      · exact old hs
    | resume _ _ => exact old (hs.trans (List.suffix_cons _ _))
    | branch _ _ _ _ => exact old hs

/-! ### Expansions are guarded steps -/

section Expand

variable {P B F : Type} {G : Graph P B F}

theorem followerOf_eq_ok {p q : P} : G.followerOf p = .ok q ↔ G.nextOf p = .ok (some q) := by
  unfold Graph.followerOf
  rcases G.nextOf p with _ | _ | r <;>
    simp [bind, Except.bind, pure, Except.pure, throw, throwThe, MonadExceptOf.throw]

theorem returnOf_eq_ok {c q : P} : G.returnOf c = .ok q ↔ G.nextOf c = .ok (some q) := by
  unfold Graph.returnOf
  rcases G.nextOf c with _ | _ | r <;>
    simp [bind, Except.bind, pure, Except.pure, throw, throwThe, MonadExceptOf.throw]

theorem CallStack.mem_calls {s : CallStack P} {c : P} : c ∈ s.calls ↔ c ∈ s.innermostFirst := by
  simp [CallStack.calls]

/-- The moves that an expansion offers. -/
def Expansion.Yields (e : Expansion P) (m : Move P) : Prop :=
  match e with
  | .pruned => False
  | .moves list => .ok m ∈ list

/-- The place that a move leads to. -/
def Move.key (m : Move P) : Key P := ⟨m.position, m.stack⟩

theorem yields_single {target : Except Fault P} {s : CallStack P} {m : Move P} :
    (Expansion.single target s).Yields m ↔ ∃ q, target = .ok q ∧ m.key = ⟨q, s⟩ := by
  obtain ⟨p, t⟩ := m
  cases target <;> simp [Expansion.single, Expansion.Yields, Except.map, Move.key, eq_comm]

theorem isDefinedCall_iff {p : P} (hp : G.kindOf p = .ok .call) :
    G.isDefinedCall (G.calleeOf p) = true ↔ ∃ f b, G.Calls p f b := by
  rcases hc : G.calleeOf p with ⟨_ | f, _ | b⟩ <;> simp [Graph.isDefinedCall, Graph.Calls, hp, hc]

variable [DecidableEq F]

theorem isRecursive_eq_false {s : CallStack P} {p : P} {f : F} {b : B} (h : G.Calls p f b) :
    s.isRecursive G p = false ↔ G.Inactive s f := by
  simp [CallStack.isRecursive, Graph.Inactive, h.2.1, CallStack.mem_calls]

theorem expandCall_yields {s : State P} {m : Move P} (hp : G.kindOf s.position = .ok .call) :
    (expandCall G s).Yields m ↔ G.GuardedStep s.key m.key := by
  by_cases hc : ∃ f b, G.Calls s.position f b
  · obtain ⟨f, b, hc⟩ := hc
    have hd := (isDefinedCall_iff hp).2 ⟨f, b, hc⟩
    rw [Graph.GuardedStep, State.key, flow_call_iff hc, ← isRecursive_eq_false hc]
    simp only [expandCall, hc.2.1] at hd ⊢
    rw [if_pos hd]
    cases hr : s.stack.isRecursive G s.position
    · simp [yields_single]
    · simp [Expansion.Yields]
  · have hd : G.isDefinedCall (G.calleeOf s.position) = false := by
      simpa using mt (isDefinedCall_iff hp).1 hc
    rw [Graph.GuardedStep, State.key, flow_skip_iff hp hc]
    have he : expandCall G s = .single (G.followerOf s.position) s.stack := by
      simp only [expandCall]
      split
      · simp [hd]
      · rfl
    simp [he, yields_single, followerOf_eq_ok]

/-- **An expansion offers exactly the guarded steps.** -/
theorem expand_yields {s : State P} {e : Expansion P} (h : expand G s = .ok e) (m : Move P) :
    e.Yields m ↔ G.GuardedStep s.key m.key := by
  unfold expand at h
  split at h
  · rename_i hp
    cases h
    exact expandCall_yields hp
  · rename_i hp
    cases h
    rw [Graph.GuardedStep, State.key, flow_ret_iff hp]
    obtain ⟨p, d, ⟨_ | ⟨c, rest⟩⟩⟩ := s
    · simp [expandReturn, CallStack.pop, Expansion.Yields, CallStack.push]
    · simp only [expandReturn, CallStack.pop, yields_single, returnOf_eq_ok]
      constructor
      · rintro ⟨q, hq, hm⟩
        exact ⟨c, ⟨rest⟩, q, rfl, hq, hm⟩
      · rintro ⟨c', t, q, hs, hq, hm⟩
        simp only [CallStack.push, CallStack.mk.injEq, List.cons.injEq] at hs
        obtain ⟨rfl, rfl⟩ := hs
        exact ⟨q, hq, hm⟩
  · rename_i hp
    rw [Graph.GuardedStep, State.key]
    unfold expandBranch at h
    cases hb : G.blockOf s.position with
    | error f => simp [hb, bind, Except.bind] at h
    | ok b =>
      rw [flow_branch_iff hp hb]
      simp only [hb, bind, Except.bind, pure, Except.pure, Except.ok.injEq] at h
      subst h
      have hmem : (Expansion.moves ((G.successorsOf b).map fun t =>
          (G.firstOf t).map fun p => ⟨p, s.stack⟩)).Yields m ↔
          ∃ t ∈ G.successorsOf b, (Expansion.single (G.firstOf t) s.stack).Yields m := by
        simp [Expansion.Yields, Expansion.single, eq_comm]
      simp only [hmem, yields_single]
  · rename_i hp
    cases h
    rw [Graph.GuardedStep, State.key, flow_other_iff hp]
    simp [yields_single, followerOf_eq_ok]
  · cases h

end Expand

end CallReach
