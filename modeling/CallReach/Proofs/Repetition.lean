import CallReach.Proofs.Accounting
import CallReach.Proofs.Nesting
import CallReach.Proofs.Remembered
import Mathlib.Algebra.BigOperators.Group.Finset.Basic
import Mathlib.Algebra.Order.BigOperators.Group.List
import Mathlib.Algebra.Order.Group.Nat

/-!
# How often a place is expanded

The filter remembers block entries only, because control goes through a block in a straight line.
But the line can also be entered in its middle: the search may start there, and every return out of
a call leads to the position after it.  The filter stops none of these, so a place inside a block is
expanded as often as the line before it is entered.

* `Searcher.expansions`, `Searcher.returnsTo` : how often a place was expanded, and how often a call
  was returned from.
* `Searcher.entry_expansions` : a block entry is expanded once.
* `Searcher.inside_admissions` : a position inside a block is entered from the one before it, by
  returns out of a call there, and by the start.
* `repeated_expansions` : the bound for a whole block, and when nothing is expanded twice.
* `expanded_twice` : a function with two returns makes its caller go on twice.
-/

namespace CallReach

namespace Searcher

variable {P B F : Type} [DecidableEq P]

/-- How often a place has been expanded. -/
def expansions (r : Searcher P B F) (k : Key P) : ℕ := (r.expanded.map State.key).count k

/-- How often a place has entered the frontier. -/
def admissions (r : Searcher P B F) (k : Key P) : ℕ :=
  r.expansions k + (r.pending.map State.key).count k

/-- How often the search has returned out of a call, to where the calls of a stack are pending. -/
def returnsTo (r : Searcher P B F) (call : P) (stack : CallStack P) : ℕ :=
  r.expanded.countP fun s => r.graph.isReturn s.position && s.stack == stack.push call

variable {r e : Searcher P B F} {k : Key P} {s head : State P}

theorem expansions_cons {older : List (State P)} (h : r.expanded = head :: older) :
    r.expansions k = (older.map State.key).count k + if head.key = k then 1 else 0 := by
  rw [expansions, h, List.map_cons, List.count_cons]
  simp only [beq_iff_eq]

theorem expansions_le_admissions : r.expansions k ≤ r.admissions k := Nat.le_add_right _ _

/-- Taking a state to be expanded admits nothing. -/
theorem admissions_take {rest : Frontier (State P)} (h : r.verdict = .expand head rest) :
    admissions { r with frontier := rest, expanded := head :: r.expanded } k =
      r.admissions k := by
  obtain ⟨t, hpop, rfl, -⟩ := verdict_eq_expand h
  have hpending : (r.pending.map State.key).count k =
      ((rest.tickets.map (·.item)).map State.key).count k + if t.item.key = k then 1 else 0 := by
    have hperm := ((Frontier.pop?_eq_some hpop).1.map (·.item)).map State.key
    rw [pending, hperm.count_eq, List.map_cons, List.map_cons, List.count_cons]
    simp only [beq_iff_eq]
  rw [admissions, admissions, expansions_cons rfl, hpending]
  show _ + _ + ((rest.tickets.map (·.item)).map State.key).count k = _
  rw [expansions]
  omega

omit [DecidableEq P] in
theorem pending_enqueue [DecidableEq P] {frontier : Frontier (State P)}
    (h : r.frontier.push? s.distance s = some frontier) :
    ((frontier.tickets.map (·.item)).map State.key).count k =
      (r.pending.map State.key).count k + if s.key = k then 1 else 0 := by
  have hperm := ((Frontier.push?_eq_some h).1.map (·.item)).map State.key
  rw [hperm.count_eq, List.map_cons, List.map_cons, List.count_cons]
  simp only [beq_iff_eq, pending]

theorem admissions_enqueue {frontier : Frontier (State P)} {seen : Seen P}
    (h : r.frontier.push? s.distance s = some frontier) :
    admissions { r with frontier, seen } k = r.admissions k + if s.key = k then 1 else 0 := by
  show r.expansions k + ((frontier.tickets.map (·.item)).map State.key).count k = _
  rw [pending_enqueue h, admissions, Nat.add_assoc]

/-! ### Block entries -/

/-- No block entry has entered the frontier twice with the same calls pending. -/
def EntriesOnce (r : Searcher P B F) : Prop :=
  ∀ k, r.graph.isBlockEntry k.position = .ok true → r.admissions k ≤ 1

theorem Turn.entriesOnce (h : r.Turn e) (hc : r.Consistent) (hr : r.EntriesOnce) :
    e.EntriesOnce := by
  cases h with
  | take hv =>
    intro k hk
    rw [admissions_take hv]
    exact hr k hk
  | @enqueue new frontier seen _ hnew hpush hmark =>
    intro k hk
    rw [admissions_enqueue hpush]
    by_cases hkey : new.key = k
    · -- a key that had been admitted would have been seen
      have hzero : r.admissions k = 0 := by
        by_contra hpos
        have hmem : ∃ a, r.Admitted a ∧ a.key = k := by
          rcases Nat.eq_zero_or_pos (r.expansions k) with hnone | hsome
          · have hpending : 0 < (r.pending.map State.key).count k := by
              rw [admissions, hnone] at hpos
              omega
            obtain ⟨a, ha, hak⟩ := List.mem_map.1 (List.count_pos_iff.1 hpending)
            exact ⟨a, Or.inr ha, hak⟩
          · obtain ⟨a, ha, hak⟩ := List.mem_map.1 (List.count_pos_iff.1 hsome)
            exact ⟨a, Or.inl ha, hak⟩
        obtain ⟨a, ha, hak⟩ := hmem
        have hentry : r.graph.isBlockEntry a.position = .ok true := by
          rw [← hk, ← hak]
          rfl
        have hcontains := (hc.seen_iff new.key).2 ⟨a, ha, hak.trans hkey.symm, hentry⟩
        have hdup := Seen.wasSeen_eq_true.2 ⟨by rw [← hk, ← hkey]; rfl, hcontains⟩
        cases hnew.symm.trans hdup
      rw [if_pos hkey, hzero]
    · rw [if_neg hkey]
      exact hr k hk
  | duplicate | overflow | prune | count | note => exact hr

theorem create_admissions {G : Graph P B F} {start target : P} {calls : List P}
    {config : Config P} (h : create G start target calls config = .ok r) (k : Key P) :
    r.admissions k = if r.start.key = k then 1 else 0 := by
  obtain ⟨frontier, seen, rfl, hpush, -⟩ := create_eq_ok h
  have hpush : (blank G start target calls config).frontier.push? 0
      (blank G start target calls config).start = some frontier := hpush
  exact (admissions_enqueue hpush).trans (Nat.zero_add _)

/-- **A block entry is expanded at most once with the same calls pending.** -/
theorem entry_expansions {G : Graph P B F} {start target : P} {calls : List P}
    {config : Config P} (h : create G start target calls config = .ok r) {u : Searcher P B F}
    (hu : r.Turns u) (hk : G.isBlockEntry k.position = .ok true) : u.expansions k ≤ 1 := by
  have hbegin : r.EntriesOnce := by
    intro l _
    rw [create_admissions h l]
    split_ifs <;> omega
  have hboth := hu.invariant (I := fun u => u.Consistent ∧ u.EntriesOnce)
    ⟨create_consistent h, hbegin⟩ fun a b ha ht => ⟨ht.consistent ha.1, ht.entriesOnce ha.1 ha.2⟩
  refine expansions_le_admissions.trans (hboth.2 k ?_)
  rw [hu.sameTask.graph, (create_frame h).1]
  exact hk

/-! ### What one expansion admits -/

/-- Whether a step leads to a place. -/
def leadsTo (k : Key P) (m : Except Fault (Move P)) : Bool :=
  match m with
  | .ok mv => decide (mv.key = k)
  | .error _ => false

theorem accept_admissions (h : r.accept s = .ok e) :
    e.admissions k ≤ r.admissions k + if s.key = k then 1 else 0 := by
  rcases accept_cases h with ⟨-, rfl⟩ | ⟨-, -, rfl⟩ | ⟨-, frontier, seen, hpush, -, rfl⟩
  · exact Nat.le_add_right _ _
  · exact Nat.le_add_right _ _
  · exact (admissions_enqueue hpush).le

/-- A place is admitted at most as often as steps lead to it. -/
theorem followAll_admissions (list : List (Except Fault (Move P))) :
    (r.followAll head list).1.admissions k ≤ r.admissions k + list.countP (leadsTo k) := by
  induction list generalizing r with
  | nil => exact Nat.le_add_right _ _
  | cons m rest ih =>
    rw [followAll]
    split
    · rename_i u hu
      obtain ⟨mv, n, rfl, -, hacc⟩ := follow_eq_ok hu
      have hfirst := accept_admissions (k := k) hacc
      have hrest := ih (r := u)
      have hmove : (if (leadsTo k (.ok mv)) = true then 1 else 0) =
          if State.key ⟨mv.position, head.distance + n, mv.stack⟩ = k then 1 else 0 := by
        simp only [leadsTo, decide_eq_true_eq]
        rfl
      rw [List.countP_cons, hmove]
      omega
    · exact Nat.le_add_right _ _

end Searcher

/-! ### The straight line of a block -/

namespace Program

variable {M : Program} {k : Key Position} {p q : Position} {stack : CallStack Position}

/-- The position after a position, in the same block. -/
def after (p : Position) : Position := { p with index := p.index + 1 }

theorem eq_of_nextOf (h : M.graph.nextOf p = .ok (some (after q))) : p = q := by
  simp only [Program.graph] at h
  split_ifs at h
  obtain ⟨function, block, index⟩ := p
  obtain ⟨function', block', index'⟩ := q
  simpa [after] using h

/-- **How control comes to a position inside a block**: from the position before it, unless a call
is entered there, or by a return out of a call there; never from a terminator. -/
theorem step_after (h : M.graph.GuardedStep k ⟨after p, stack⟩) :
    M.graph.kindOf k.position ≠ .ok .terminator ∧
      ((k = ⟨p, stack⟩ ∧ M.graph.enters p = false) ∨
        (M.graph.isReturn k.position = true ∧ k.stack = stack.push p)) := by
  cases h with
  | next hkind hnext =>
    obtain rfl := eq_of_nextOf hnext
    refine ⟨fun hend => ?_, Or.inl ⟨rfl, by simp [Graph.enters, hkind]⟩⟩
    cases kind_unique hkind hend
  | skip hkind hno hnext =>
    obtain rfl := eq_of_nextOf hnext
    refine ⟨fun hend => ?_, Or.inl ⟨rfl, by simpa using mt enters_iff.1 hno⟩⟩
    cases kind_unique hkind hend
  | enter _ _ hfirst => cases firstOf_eq_ok hfirst
  | branch _ _ _ hfirst => cases firstOf_eq_ok hfirst
  | resume hkind hnext =>
    obtain rfl := eq_of_nextOf hnext
    refine ⟨fun hend => ?_, Or.inr ⟨isReturn_iff.2 hkind, rfl⟩⟩
    cases kind_unique hkind hend

/-- An expansion takes at most one step to a place inside a block. -/
theorem countP_leadsTo {s : State Position} {list : List (Except Fault (Move Position))}
    (h : expand M.graph s = .ok (.moves list)) :
    list.countP (Searcher.leadsTo ⟨after p, stack⟩) ≤ 1 := by
  by_cases hkind : M.graph.kindOf s.position = .ok .terminator
  · -- a terminator leads to block entries
    refine (List.countP_eq_zero.2 fun m hm hleads => ?_).le.trans (Nat.zero_le _)
    cases m with
    | error fault => cases hleads
    | ok mv =>
      have hkey : mv.key = ⟨after p, stack⟩ := by simpa [Searcher.leadsTo] using hleads
      have hstep := (expand_yields h mv).1 hm
      rw [hkey] at hstep
      exact (step_after hstep).1 hkind
  · -- everything else leads to one place at most
    have hlength : list.length ≤ 1 := by
      rw [length_moves h]
      unfold Graph.children
      split
      · split_ifs <;> omega
      · rename_i hterminator
        exact absurd hterminator hkind
      · split_ifs <;> omega
    exact List.countP_le_length.trans hlength

end Program

namespace Searcher

variable {M : Program} {r e : Searcher Position BlockName String} {head : State Position}
  {p : Position} {stack : CallStack Position}

/-- A state from which control goes on after `p`: it is at `p`, where no call is entered, or at a
return out of the call `p`. -/
def Feeds (G : Graph Position BlockName String) (p : Position) (stack : CallStack Position)
    (s : State Position) : Prop :=
  (s.key = ⟨p, stack⟩ ∧ G.enters p = false) ∨
    (G.isReturn s.position = true ∧ s.stack = stack.push p)

/-- How often control could go on after `p`. -/
def arrivals (r : Searcher Position BlockName String) (p : Position)
    (stack : CallStack Position) : ℕ :=
  (if r.graph.enters p then 0 else r.expansions ⟨p, stack⟩) + r.returnsTo p stack

/-- An expansion brings one more arrival when its state leads on to the position, and never takes
one away. -/
theorem arrivals_cons (p : Position) (stack : CallStack Position) (hgraph : e.graph = r.graph)
    (he : e.expanded = head :: r.expanded) :
    r.arrivals p stack ≤ e.arrivals p stack ∧
      (Feeds r.graph p stack head → r.arrivals p stack + 1 ≤ e.arrivals p stack) := by
  have hplaces : e.expansions ⟨p, stack⟩ =
      r.expansions ⟨p, stack⟩ + if head.key = ⟨p, stack⟩ then 1 else 0 := expansions_cons he
  have hreturns : e.returnsTo p stack = r.returnsTo p stack +
      if (r.graph.isReturn head.position && head.stack == stack.push p) = true then 1 else 0 := by
    rw [returnsTo, he, hgraph, List.countP_cons]
    rfl
  have hgrow : r.returnsTo p stack ≤ e.returnsTo p stack := by rw [hreturns]; omega
  simp only [arrivals, hgraph, hplaces]
  refine ⟨by split_ifs <;> omega, ?_⟩
  rintro (⟨hkey, hplain⟩ | ⟨hreturn, hstack⟩)
  · simp only [hplain, hkey, Bool.false_eq_true, if_false, if_true]
    omega
  · have hcount : e.returnsTo p stack = r.returnsTo p stack + 1 := by
      rw [hreturns, hreturn, hstack]
      simp
    split_ifs <;> omega

/-- An expansion admits the position after `p` at most once, and only if its state leads on to
it. -/
theorem expandState_admissions (hgraph : r.graph = M.graph) (head : State Position)
    (p : Position) (stack : CallStack Position) :
    (r.expandState head).1.admissions ⟨Program.after p, stack⟩ ≤
        r.admissions ⟨Program.after p, stack⟩ + 1 ∧
      (¬ Feeds r.graph p stack head → (r.expandState head).1.admissions ⟨Program.after p, stack⟩ ≤
        r.admissions ⟨Program.after p, stack⟩) := by
  unfold expandState
  split
  · exact ⟨Nat.le_succ _, fun _ => le_rfl⟩
  · exact ⟨Nat.le_succ _, fun _ => le_rfl⟩
  · rename_i list hx
    rw [hgraph] at hx ⊢
    have hall : (r.followAll head list).1.admissions ⟨Program.after p, stack⟩ ≤
        r.admissions ⟨Program.after p, stack⟩ +
          list.countP (leadsTo ⟨Program.after p, stack⟩) := followAll_admissions list
    have hone : list.countP (leadsTo ⟨Program.after p, stack⟩) ≤ 1 := Program.countP_leadsTo hx
    refine ⟨by omega, fun hno => ?_⟩
    have hnone : list.countP (leadsTo ⟨Program.after p, stack⟩) = 0 := by
      refine List.countP_eq_zero.2 fun m hm hleads => ?_
      cases m with
      | error fault => cases hleads
      | ok mv =>
        have hkey : mv.key = ⟨Program.after p, stack⟩ := by simpa [leadsTo] using hleads
        have hstep := (expand_yields hx mv).1 hm
        rw [hkey] at hstep
        exact hno (Program.step_after hstep).2
    omega

/-- What holds between the admissions of the position after `p` and what leads on to it. -/
def Fed (M : Program) (p : Position) (stack : CallStack Position)
    (r : Searcher Position BlockName String) : Prop :=
  r.graph = M.graph ∧ r.admissions ⟨Program.after p, stack⟩ ≤
    (if r.start.key = ⟨Program.after p, stack⟩ then 1 else 0) + r.arrivals p stack

/-- **Every expansion keeps the admissions within the arrivals.** -/
theorem Fed.step (h : r.Fed M p stack) {rest : Frontier (State Position)}
    (hv : r.verdict = .expand head rest) : (r.step head rest).1.Fed M p stack := by
  obtain ⟨hgraph, hbound⟩ := h
  have htask := (step_turns hv).sameTask
  obtain ⟨_, _, _, _, _, _, hframe, -⟩ := step_frame r head rest
  have hexpanded : (r.step head rest).1.expanded = head :: r.expanded := by rw [hframe]
  -- counting the expansion changes neither the frontier nor the states expanded
  have hadmissions : (r.step head rest).1.admissions ⟨Program.after p, stack⟩ =
      (expandState { r with frontier := rest, expanded := head :: r.expanded } head).1.admissions
        ⟨Program.after p, stack⟩ := by
    unfold Searcher.step
    split
    · rename_i u hu
      rw [hu]
      rfl
    · rename_i u fault hu
      rw [hu]
  obtain ⟨hone, hnone⟩ := expandState_admissions (M := M)
    (r := { r with frontier := rest, expanded := head :: r.expanded }) hgraph head p stack
  rw [admissions_take hv] at hone hnone
  obtain ⟨hmono, hgrow⟩ := arrivals_cons p stack htask.graph hexpanded
  refine ⟨htask.graph.trans hgraph, ?_⟩
  rw [hadmissions, htask.start]
  by_cases hfeeds : Feeds r.graph p stack head
  · have := hgrow hfeeds
    omega
  · have := hnone hfeeds
    omega

/-- **A position inside a block is entered from the one before it**, unless a call is entered there,
by returns out of a call there, and by the start. -/
theorem inside_admissions {start target : Position} {calls : List Position}
    {config : Config Position} (h : create M.graph start target calls config = .ok r) (fuel : ℕ)
    (p : Position) (stack : CallStack Position) : (runFor fuel r).1.Fed M p stack := by
  refine runFor_invariant (I := Fed M p stack) (fun _ _ _ ha hv => ha.step hv)
    (fun _ _ ha => ha) fuel ⟨(create_frame h).1, ?_⟩
  rw [create_admissions h]
  exact Nat.le_add_right _ _

end Searcher

/-! ### Programs whose functions return at one place -/

namespace Program

variable {M : Program} {p q c : Position} {s : State Position} {stack : CallStack Position}

/-- No function returns at two places. -/
def ReturnsOnce (M : Program) : Prop :=
  ∀ x ∈ M.positions, ∀ y ∈ M.positions, x.2.kind = .ret → y.2.kind = .ret →
    x.1.function = y.1.function → x.1 = y.1

instance (M : Program) : Decidable M.ReturnsOnce :=
  inferInstanceAs (Decidable (∀ x ∈ M.positions, ∀ y ∈ M.positions, _))

theorem exists_of_isReturn (h : M.graph.isReturn p = true) :
    ∃ i, (p, i) ∈ M.positions ∧ i.kind = .ret := by
  have hkind := isReturn_iff.1 h
  simp only [Program.graph, Except.ok.injEq] at hkind
  cases hi : M.instruction? p with
  | none => simp [hi] at hkind
  | some i =>
    rw [hi] at hkind
    exact ⟨i, mem_positions_of_instruction? hi, hkind⟩

theorem ReturnsOnce.eq (hM : M.ReturnsOnce) (hp : M.graph.isReturn p = true)
    (hq : M.graph.isReturn q = true) (h : p.function = q.function) : p = q := by
  obtain ⟨i, hi, hret⟩ := exists_of_isReturn hp
  obtain ⟨j, hj, hret'⟩ := exists_of_isReturn hq
  exact hM _ hi _ hj hret hret' h

end Program

namespace Searcher

variable {M : Program} {r : Searcher Position BlockName String} {start target : Position}
  {config : Config Position} {p c : Position} {stack : CallStack Position}

/-- Without initial calls, the innermost pending call is one that is entered, and what it calls is
the function that the search is in. -/
theorem called_function (h : create M.graph start target [] config = .ok r) {fuel : ℕ}
    {s : State Position} (hs : s ∈ (runFor fuel r).1.expanded) (hstack : s.stack = stack.push c) :
    ∃ b, M.graph.Calls c s.position.function b := by
  obtain ⟨ks, hwalk⟩ := walk_of_admitted h (Or.inl hs)
  obtain ⟨base, hn, -⟩ := Program.nested_of_walk hwalk
  have hcalls := hwalk.matched.2
  simp only [Graph.pendingAfter, Graph.unconsumed, List.take_nil, List.nil_append] at hcalls
  have hchain := hn.chain
  rw [← hcalls, State.key, hstack, CallStack.calls_push] at hchain
  obtain ⟨-, g, b, hcall, hrest⟩ := hchain.split
  -- nothing is pending above the innermost call
  generalize hnone : ([] : List Position) = later at hrest
  cases hrest with
  | nil => exact ⟨b, hcall⟩
  | snoc => simp at hnone

/-- What is returned from was entered. -/
theorem returnsTo_eq_zero (h : create M.graph start target [] config = .ok r) (fuel : ℕ)
    (hplain : M.graph.enters c = false) : (runFor fuel r).1.returnsTo c stack = 0 := by
  refine List.countP_eq_zero.2 fun s hs hreturn => ?_
  simp only [Bool.and_eq_true, beq_iff_eq] at hreturn
  obtain ⟨b, hcall⟩ := called_function h hs hreturn.2
  have := enters_iff.2 ⟨_, _, hcall⟩
  rw [hplain] at this
  cases this

/-- A function that returns at one place returns out of a call as often as this place is
expanded. -/
theorem returnsTo_le (h : create M.graph start target [] config = .ok r) (hM : M.ReturnsOnce)
    (fuel : ℕ) {n : ℕ}
    (hn : ∀ q, (runFor fuel r).1.expansions ⟨q, stack.push c⟩ ≤ n) :
    (runFor fuel r).1.returnsTo c stack ≤ n := by
  have hgraph : (runFor fuel r).1.graph = M.graph :=
    (runFor_turns fuel r).sameTask.graph.trans (create_frame h).1
  by_cases hzero : (runFor fuel r).1.returnsTo c stack = 0
  · omega
  · obtain ⟨s, hs, hreturn⟩ := List.countP_pos_iff.1 (Nat.pos_of_ne_zero hzero)
    simp only [Bool.and_eq_true, beq_iff_eq] at hreturn
    refine le_trans ?_ (hn s.position)
    rw [returnsTo, expansions, List.count, List.countP_map]
    refine List.countP_mono_left fun t ht hreturn' => ?_
    simp only [Bool.and_eq_true, beq_iff_eq] at hreturn'
    obtain ⟨b, hcall⟩ := called_function h hs hreturn.2
    obtain ⟨b', hcall'⟩ := called_function h ht hreturn'.2
    have hposition : t.position = s.position :=
      hM.eq (hgraph ▸ hreturn'.1) (hgraph ▸ hreturn.1) (hcall'.unique hcall).1
    simp [State.key, hposition, hreturn'.2]

/-- **Where every function returns at one place, nothing is expanded twice** by a search from a
block entry without initial calls.  The proof goes from the deepest stacks to the shallow ones, and
for each stack along the blocks. -/
theorem expansions_le_one (h : create M.graph start target [] config = .ok r) (hM : M.ReturnsOnce)
    (hstart : start.index = 0) (fuel : ℕ) (k : Key Position) :
    (runFor fuel r).1.expansions k ≤ 1 := by
  obtain ⟨hgraph, -, hkey, -⟩ := create_frame h
  have htask := (runFor_turns fuel r).sameTask
  obtain ⟨depth, hdepth⟩ : ∃ depth, ∀ s ∈ (runFor fuel r).1.expanded, s.stack.size ≤ depth :=
    ⟨((runFor fuel r).1.expanded.map (·.stack.size)).sum, fun s hs =>
      List.le_sum_of_mem (List.mem_map_of_mem hs)⟩
  have hall : ∀ n stack, depth < CallStack.size stack + n → ∀ p,
      (runFor fuel r).1.expansions ⟨p, stack⟩ ≤ 1 := by
    intro n
    induction n with
    | zero =>
      intro stack hdeep p
      refine (List.count_eq_zero.2 fun hmem => ?_).le.trans (Nat.zero_le 1)
      obtain ⟨s, hs, hk⟩ := List.mem_map.1 hmem
      have hsize := hdepth s hs
      have hstack : s.stack = stack := congrArg Key.stack hk
      rw [hstack] at hsize
      omega
    | succ n ih =>
      intro stack hdeep p
      obtain ⟨function, block, index⟩ := p
      induction index with
      | zero => exact entry_expansions h (runFor_turns fuel r) rfl
      | succ index ihindex =>
        have hfed := (inside_admissions h fuel ⟨function, block, index⟩ stack).2
        rw [htask.start, hkey, if_neg, Nat.zero_add, arrivals, htask.graph, hgraph] at hfed
        · refine expansions_le_admissions.trans (hfed.trans ?_)
          cases henters : M.graph.enters ⟨function, block, index⟩ with
          | true =>
            have hdeeper : depth < (stack.push ⟨function, block, index⟩).size + n := by
              simp only [CallStack.push, CallStack.size, List.length_cons] at hdeep ⊢
              omega
            simpa using returnsTo_le h hM fuel (ih _ hdeeper)
          | false => simpa [returnsTo_eq_zero h fuel henters] using ihindex
        · intro heq
          have hposition := congrArg Position.index (congrArg Key.position heq)
          rw [hstart] at hposition
          cases hposition
  exact hall (depth + 1) k.stack (by omega) k.position

/-! ### A whole block -/

/-- A search starts inside the block of a position, behind the first position and at the given one
at the latest, with the same calls pending. -/
def StartsWithin (start : Position) (calls : List Position) (k : Key Position) : Prop :=
  start.blockName = k.position.blockName ∧ 0 < start.index ∧ start.index ≤ k.position.index ∧
    k.stack = .ofCalls calls

instance (start : Position) (calls : List Position) (k : Key Position) :
    Decidable (StartsWithin start calls k) := inferInstanceAs (Decidable (_ ∧ _))

/-- A search that starts before the position after `p` starts there, or before that. -/
theorem startsWithin_after (start : Position) (calls : List Position) (p : Position)
    (stack : CallStack Position) :
    (if (⟨start, .ofCalls calls⟩ : Key Position) = ⟨Program.after p, stack⟩ then 1 else 0) +
        (if StartsWithin start calls ⟨p, stack⟩ then 1 else 0) =
      if StartsWithin start calls ⟨Program.after p, stack⟩ then 1 else 0 := by
  obtain ⟨function, block, index⟩ := start
  obtain ⟨function', block', index'⟩ := p
  simp only [StartsWithin, Program.after, Position.blockName, Key.mk.injEq, Position.mk.injEq,
    BlockName.mk.injEq]
  by_cases hcalls : CallStack.ofCalls calls = stack
  · by_cases hblock : function = function' ∧ block = block'
    · simp only [hcalls, hblock, true_and, and_true]
      split_ifs <;> omega
    · rw [if_neg (by tauto), if_neg (by tauto), if_neg (by tauto)]
  · have hcalls' : stack ≠ CallStack.ofCalls calls := fun h => hcalls h.symm
    rw [if_neg (by tauto), if_neg (by tauto), if_neg (by tauto)]

/-- **The straight line of a block is passed as often as it is entered**: once at its first
position, once more if the search starts inside, and after each return out of one of its calls. -/
theorem expansions_le {calls : List Position}
    (h : create M.graph start target calls config = .ok r) (fuel : ℕ) (p : Position)
    (stack : CallStack Position) : (runFor fuel r).1.expansions ⟨p, stack⟩ ≤
      1 + (if StartsWithin start calls ⟨p, stack⟩ then 1 else 0) +
      ∑ n ∈ Finset.range p.index, (runFor fuel r).1.returnsTo { p with index := n } stack := by
  obtain ⟨-, -, hkey, -⟩ := create_frame h
  obtain ⟨function, block, index⟩ := p
  induction index with
  | zero =>
    have hone := entry_expansions (k := ⟨⟨function, block, 0⟩, stack⟩) h (runFor_turns fuel r) rfl
    omega
  | succ index ih =>
    have hfed := (inside_admissions h fuel ⟨function, block, index⟩ stack).2
    rw [(runFor_turns fuel r).sameTask.start, hkey, arrivals] at hfed
    have hline : (if (runFor fuel r).1.graph.enters ⟨function, block, index⟩ then 0
        else (runFor fuel r).1.expansions ⟨⟨function, block, index⟩, stack⟩) ≤
          (runFor fuel r).1.expansions ⟨⟨function, block, index⟩, stack⟩ := by
      split_ifs <;> omega
    have hbegin := startsWithin_after start calls ⟨function, block, index⟩ stack
    have hinside := expansions_le_admissions (r := (runFor fuel r).1)
      (k := ⟨Program.after ⟨function, block, index⟩, stack⟩)
    show (runFor fuel r).1.expansions ⟨Program.after ⟨function, block, index⟩, stack⟩ ≤
      1 + (if StartsWithin start calls ⟨Program.after ⟨function, block, index⟩, stack⟩ then 1
        else 0) + ∑ n ∈ Finset.range (index + 1),
          (runFor fuel r).1.returnsTo ⟨function, block, n⟩ stack
    rw [Finset.sum_range_succ]
    dsimp only at ih
    omega

end Searcher

/-- **How often a place is expanded.**  In any program, from any start inside any calls, at any
costs and within any bounds, however long the search runs:

* a position is expanded with a stack of pending calls at most once, and once more if the search
  starts in its block behind the first position and not behind it with this stack, and once more for
  each return out of a call that stands before it in its block, to this stack.  In particular a
  block entry is expanded at most once;
* without initial calls and from a block entry nothing is expanded twice in a program whose
  functions return at one place each. -/
theorem repeated_expansions {M : Program} {start target : Position} {calls : List Position}
    {config : Config Position} {r : Searcher Position BlockName String}
    (hcreate : Searcher.create M.graph start target calls config = .ok r) (fuel : ℕ) :
    (∀ p stack, (Searcher.runFor fuel r).1.expansions ⟨p, stack⟩ ≤
      1 + (if Searcher.StartsWithin start calls ⟨p, stack⟩ then 1 else 0) +
      ∑ n ∈ Finset.range p.index,
        (Searcher.runFor fuel r).1.returnsTo { p with index := n } stack) ∧
    (calls = [] → start.index = 0 → M.ReturnsOnce →
      ∀ k, (Searcher.runFor fuel r).1.expansions k ≤ 1) := by
  refine ⟨fun p stack => Searcher.expansions_le hcreate fuel p stack, ?_⟩
  rintro rfl hstart hM
  exact Searcher.expansions_le_one hcreate hM hstart fuel

/-! ### A function that returns at two places -/

/-- A call of a function that returns at two places. -/
def Document.fork : Document where
  functions := [
    ("main", { blocks := [("a", ["call f", "ret"])] }),
    ("f", { blocks := [("top", ["br x y"]), ("x", ["ret"]), ("y", ["ret"])] }),
    ("idle", { blocks := [("a", ["ret"])] })]

/-- The program of `Document.fork`. -/
def Program.fork : Program where
  name := "<program>"
  functions := [
    { name := "main", entry := some "a", blocks := [
      { name := "a", instructions := [
        { opcode := "call", kind := .call, text := "call f", callee := some "f" },
        { opcode := "ret", kind := .ret, text := "ret" }] }] },
    { name := "f", entry := some "top", blocks := [
      { name := "top", instructions := [
        { opcode := "br", kind := .terminator, text := "br x y", targets := ["x", "y"] }] },
      { name := "x", instructions := [{ opcode := "ret", kind := .ret, text := "ret" }] },
      { name := "y", instructions := [{ opcode := "ret", kind := .ret, text := "ret" }] }] },
    { name := "idle", entry := some "a", blocks := [
      { name := "a", instructions := [{ opcode := "ret", kind := .ret, text := "ret" }] }] }]

/-- The search through `Program.fork`, for a function that is never called. -/
def Program.forkSearch : Except Fault (Searcher Position BlockName String) :=
  Searcher.create Program.fork.graph ⟨"main", "a", 0⟩ ⟨"idle", "a", 0⟩ []
    ⟨99, 99, 99, StepCost.uniform 1⟩

/-- What the run does at the call and behind it: how often the call is expanded and returned from,
and how often the instruction behind it is expanded. -/
theorem Program.fork_counts : ∃ r, Program.forkSearch = .ok r ∧
    r.run.1.expansions ⟨⟨"main", "a", 0⟩, {}⟩ = 1 ∧
    r.run.1.returnsTo ⟨"main", "a", 0⟩ {} = 2 ∧
    r.run.1.expansions ⟨⟨"main", "a", 1⟩, {}⟩ = 2 := by
  have hrun : (Program.forkSearch.map fun r =>
      (r.run.1.expansions ⟨⟨"main", "a", 0⟩, {}⟩, r.run.1.returnsTo ⟨"main", "a", 0⟩ {},
        r.run.1.expansions ⟨⟨"main", "a", 1⟩, {}⟩)) = .ok (1, 2, 2) := by
    decide +kernel
  cases hr : Program.forkSearch with
  | error fault => simp [hr, Except.map] at hrun
  | ok r =>
    simp only [hr, Except.map, Except.ok.injEq, Prod.mk.injEq] at hrun
    exact ⟨r, rfl, hrun⟩

/-- Two returns allow for three expansions behind the call of `Program.fork`.  In `Program.funnel`,
where the one function returns at one place, nothing is expanded twice. -/
theorem repeated_expansions_fork :
    (∃ r, Program.forkSearch = .ok r ∧ r.run.1.expansions ⟨⟨"main", "a", 1⟩, {}⟩ ≤ 3) ∧
    ∃ r, Program.funnelSearch = .ok r ∧ ∀ k, r.run.1.expansions k ≤ 1 := by
  obtain ⟨r, hr, -, hreturns, -⟩ := Program.fork_counts
  obtain ⟨u, hu⟩ : ∃ u, Program.funnelSearch = .ok u := ⟨_, rfl⟩
  refine ⟨⟨r, hr, ?_⟩, u, hu, ?_⟩
  · have hbound := (repeated_expansions hr (r.config.maxIterations - r.iterations)).1
      ⟨"main", "a", 1⟩ {}
    rw [← Searcher.run_of_create hr, if_neg (by decide), Finset.sum_range_one] at hbound
    exact hbound.trans (by rw [hreturns])
  · rw [Searcher.run_of_create hu]
    exact (repeated_expansions hu _).2 rfl rfl (by decide)

/-- **A place inside a block can be expanded twice.**  In a program built from a description, from a
block entry and without initial calls: both returns of the function go on behind its call, whose
block is entered once. -/
theorem expanded_twice : Document.fork.build none = .ok Program.fork ∧
    ∃ r, Program.forkSearch = .ok r ∧
      r.run.1.expansions ⟨⟨"main", "a", 0⟩, {}⟩ = 1 ∧
      r.run.1.expansions ⟨⟨"main", "a", 1⟩, {}⟩ = 2 := by
  obtain ⟨r, hr, honce, -, htwice⟩ := Program.fork_counts
  exact ⟨by decide +kernel, r, hr, honce, htwice⟩

end CallReach
