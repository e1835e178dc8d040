import CallReach.Program.Document
import CallReach.Proofs.Weighted

/-!
# How much nearer a duplicate can be

The filter remembers a block entry when it is admitted, and what comes to it later is dropped,
however near it is.  The search takes the nearest state first, so the state that was expanded when
the entry was admitted is no farther than the one expanded when the duplicate comes.  Only the last
steps can make a difference.

* `Searcher.Arrived` : the price of the last step to a state; `Searcher.Dated` : no state is further
  ahead of the frontier than its last step.
* `Searcher.Singular` : a block entry is admitted once under each stack.
* `duplicate_excess` : a duplicate is nearer than the state admitted before it by no more than its
  last step is cheaper.  When the last steps cost the same, it is not nearer.
* `nearer_duplicate_dropped` : with initial calls, weights by kind are enough to lose a nearer
  state.
-/

namespace CallReach

namespace Searcher

variable {P B F : Type} [DecidableEq P] {r e : Searcher P B F} {s : State P}

/-- A state is the start, where no step leads, or one step at the price `n` beyond an expanded
state. -/
def Arrived (r : Searcher P B F) (s : State P) (n : ℕ) : Prop :=
  (s = r.start ∧ n = 0) ∨ ∃ h ∈ r.expanded, r.graph.GuardedStep h.key s.key ∧
    r.config.cost h.position = .ok n ∧ s.distance = h.distance + n

omit [DecidableEq P] in
theorem Offers.arrived (h : r.Offers s) : ∃ head older n, r.expanded = head :: older ∧
    s.distance = head.distance + (n : ℕ) ∧ r.Arrived s n := by
  obtain ⟨head, older, n, he, hstep, hn, hd⟩ := h
  exact ⟨head, older, n, he, hd, Or.inr ⟨head, by simp [he], hstep, hn, hd⟩⟩

theorem Turn.expanded_subset (h : r.Turn e) : r.expanded ⊆ e.expanded := by
  cases h with
  | take => exact List.subset_cons_self _ _
  | enqueue | duplicate | overflow | prune | count | note => exact List.Subset.refl _

theorem Turn.arrived (h : r.Turn e) {n : ℕ} (hs : r.Arrived s n) : e.Arrived s n := by
  have htask := h.sameTask
  rcases hs with ⟨rfl, rfl⟩ | ⟨b, hb, hstep, hcost, hd⟩
  · exact Or.inl ⟨htask.start.symm, rfl⟩
  · refine Or.inr ⟨b, h.expanded_subset hb, ?_, ?_, hd⟩
    · rw [htask.graph]
      exact hstep
    · rw [htask.config]
      exact hcost

/-- Every admitted state is at most its last step ahead of the frontier. -/
def Dated (r : Searcher P B F) : Prop :=
  ∀ a, r.Admitted a → ∃ n, r.Arrived a n ∧ r.Near a.distance n

theorem Turn.dated (h : r.Turn e) (hc : r.Consistent) (hr : r.Dated) : e.Dated := by
  intro a ha
  rcases h.admitted_or_offers ha with hold | hoffer
  · obtain ⟨n, harr, hnear⟩ := hr a hold
    exact ⟨n, h.arrived harr, h.near hnear⟩
  · obtain ⟨head, older, n, he, hd, harr⟩ := hoffer.arrived
    exact ⟨n, h.arrived harr, h.near_of_offers hc he hd⟩

theorem Turns.dated (h : r.Turns e) (hc : r.Consistent) (hr : r.Dated) : e.Dated := by
  refine (h.invariant (I := fun e => e.Consistent ∧ e.Dated) ⟨hc, hr⟩ fun a b ha ht => ?_).2
  exact ⟨ht.consistent ha.1, ht.dated ha.1 ha.2⟩

theorem create_dated {G : Graph P B F} {start target : P} {calls : List P} {config : Config P}
    (h : create G start target calls config = .ok r) : r.Dated := by
  have hadm := create_admitted h
  obtain ⟨-, -, -, -, hexpanded⟩ := create_frame h
  intro a ha
  refine ⟨0, Or.inl ⟨(hadm a).1 ha, rfl⟩, fun head older he => ?_, fun b hb => ?_⟩
  · simp [hexpanded] at he
  · rw [(hadm a).1 ha, (hadm b).1 (Or.inr hb)]
    omega

/-- A block entry is admitted once under each stack. -/
def Singular (r : Searcher P B F) : Prop :=
  ∀ a b, r.Admitted a → r.Admitted b → a.key = b.key →
    r.graph.isBlockEntry a.position = .ok true → a = b

theorem Turn.singular (h : r.Turn e) (hc : r.Consistent) (hr : r.Singular) : e.Singular := by
  cases h with
  | @enqueue new q seen ho hnew hpush hmark =>
    -- a state with the key of the new one would have been seen
    have fresh : ∀ a, r.Admitted a → a.key = new.key →
        r.graph.isBlockEntry a.position ≠ .ok true := by
      intro a ha hkey hentry
      have hcontains := (hc.seen_iff new.key).2 ⟨a, ha, hkey, hentry⟩
      have hpos : a.position = new.position := congrArg Key.position hkey
      have hdup := Seen.wasSeen_eq_true.2 ⟨hpos ▸ hentry, hcontains⟩
      cases hnew.symm.trans hdup
    intro a b ha hb hkey hentry
    have hpos : a.position = b.position := congrArg Key.position hkey
    rcases (admitted_enqueue hpush).1 ha with rfl | ha
    · rcases (admitted_enqueue hpush).1 hb with rfl | hb
      · rfl
      · exact absurd (hpos ▸ hentry) (fresh b hb hkey.symm)
    · rcases (admitted_enqueue hpush).1 hb with rfl | hb
      · exact absurd hentry (fresh a ha hkey)
      · exact hr a b ha hb hkey hentry
  | take hv =>
    intro a b ha hb
    exact hr a b ((admitted_take hv).1 ha) ((admitted_take hv).1 hb)
  | duplicate | overflow | prune | count | note => exact hr

theorem Turns.singular (h : r.Turns e) (hc : r.Consistent) (hr : r.Singular) : e.Singular := by
  refine (h.invariant (I := fun e => e.Consistent ∧ e.Singular) ⟨hc, hr⟩ fun a b ha ht => ?_).2
  exact ⟨ht.consistent ha.1, ht.singular ha.1 ha.2⟩

theorem create_singular {G : Graph P B F} {start target : P} {calls : List P} {config : Config P}
    (h : create G start target calls config = .ok r) : r.Singular := by
  have hadm := create_admitted h
  intro a b ha hb _ _
  exact ((hadm a).1 ha).trans ((hadm b).1 hb).symm

end Searcher

/-- **A duplicate is nearer by no more than its last step is cheaper.**  On any graph, from any
start inside any calls, with any costs and bounds, and at any moment `u` of the search: when a state
`s` is dropped because its key was seen, one state `a` was admitted under this key, and its distance
exceeds that of `s` by at most what the last step to `a` costs more than the last step to `s`.  So
no nearer state is dropped as long as the steps into one block entry under one stack cost the
same. -/
theorem duplicate_excess {P B F : Type} [DecidableEq P] {G : Graph P B F} {start target : P}
    {calls : List P} {config : Config P} {r u : Searcher P B F} {s : State P}
    (hcreate : Searcher.create G start target calls config = .ok r) (hu : r.Turns u)
    (hoffer : u.Offers s) (hseen : u.seen.wasSeen u.graph s = .ok true) :
    ∃ a, (u.Admitted a ∧ a.key = s.key ∧ ∀ b, u.Admitted b → b.key = s.key → b = a) ∧
      ∃ m n : ℕ, u.Arrived a m ∧ u.Arrived s n ∧ a.distance + n ≤ s.distance + m := by
  have hc := Searcher.create_consistent hcreate
  have hsingular := hu.singular hc (Searcher.create_singular hcreate)
  obtain ⟨-, hcontains⟩ := Seen.wasSeen_eq_true.1 hseen
  obtain ⟨a, ha, hkey, hentry⟩ := ((hu.consistent hc).seen_iff s.key).1 hcontains
  refine ⟨a, ⟨ha, hkey, fun b hb hb' => ?_⟩, ?_⟩
  · exact (hsingular a b ha hb (hkey.trans hb'.symm) hentry).symm
  · obtain ⟨m, harrived, hnear⟩ := hu.dated hc (Searcher.create_dated hcreate) a ha
    obtain ⟨head, older, n, he, hd, hs⟩ := hoffer.arrived
    have hle := hnear.1 head older he
    exact ⟨m, n, harrived, hs, by omega⟩

/-! ### A nearer state that is lost -/

/-- A function that is entered at `top`; from `mid` it returns at once, or goes to `top` by a longer
way.  Its caller calls it again and again. -/
def Document.detour : Document where
  functions := [
    ("main", { blocks := [("a", ["call f", "br a"])] }),
    ("f", { entry := some "top", blocks := [
      ("top", ["ret"]), ("mid", ["br out slow"]), ("out", ["ret"]),
      ("slow", ["nop", "nop", "nop", "nop", "br top"])] })]

/-- The program of `Document.detour`. -/
def Program.detour : Program where
  name := "<program>"
  functions := [
    { name := "main", entry := some "a", blocks := [
      { name := "a", instructions := [
        { opcode := "call", kind := .call, text := "call f", callee := some "f" },
        { opcode := "br", kind := .terminator, text := "br a", targets := ["a"] }] }] },
    { name := "f", entry := some "top", blocks := [
      { name := "top", instructions := [{ opcode := "ret", kind := .ret, text := "ret" }] },
      { name := "mid", instructions := [
        { opcode := "br", kind := .terminator, text := "br out slow",
          targets := ["out", "slow"] }] },
      { name := "out", instructions := [{ opcode := "ret", kind := .ret, text := "ret" }] },
      { name := "slow", instructions := [
        { opcode := "nop", kind := .other, text := "nop" },
        { opcode := "nop", kind := .other, text := "nop" },
        { opcode := "nop", kind := .other, text := "nop" },
        { opcode := "nop", kind := .other, text := "nop" },
        { opcode := "br", kind := .terminator, text := "br top", targets := ["top"] }] }] }]

/-- Calls cost ten, all else one. -/
def Program.detourConfig : Config Position :=
  ⟨100, 100, 100, Weights.stepCost ⟨[(.call, 10)], 1⟩ Program.detour.graph⟩

/-- The search from `mid` to `top`, inside the call. -/
def Program.detourSearch : Except Fault (Searcher Position BlockName String) :=
  Searcher.create Program.detour.graph ⟨"f", "mid", 0⟩ ⟨"f", "top", 0⟩ [⟨"main", "a", 0⟩]
    Program.detourConfig

/-- What is asked of the search when eight states have been expanded: the next one is the last of
the longer way, and `top` waits at the distance 13. -/
def Program.detourExpected (r : Searcher Position BlockName String) : Bool :=
  match r.verdict with
  | .expand head rest =>
    head == ⟨⟨"f", "slow", 4⟩, 5, ⟨[⟨"main", "a", 0⟩]⟩⟩ &&
      r.seen.contains Program.detour.graph.slot
        ⟨⟨"f", "top", 0⟩, ⟨[⟨"main", "a", 0⟩]⟩⟩ &&
      rest.tickets.any (·.item == ⟨⟨"f", "top", 0⟩, 13, ⟨[⟨"main", "a", 0⟩]⟩⟩)
  | .stop _ => false

/-- The longer way comes to `top` at the distance 6.  By then the caller has called the function
again, and `top` has been admitted at the distance 13. -/
theorem Program.detour_moment : ∃ r u, Program.detourSearch = .ok r ∧ r.Turns u ∧
    u.Offers ⟨⟨"f", "top", 0⟩, 6, ⟨[⟨"main", "a", 0⟩]⟩⟩ ∧
    u.seen.wasSeen u.graph ⟨⟨"f", "top", 0⟩, 6, ⟨[⟨"main", "a", 0⟩]⟩⟩ = .ok true ∧
    u.Admitted ⟨⟨"f", "top", 0⟩, 13, ⟨[⟨"main", "a", 0⟩]⟩⟩ := by
  have hrun : (Program.detourSearch.map fun r =>
      Program.detourExpected (Searcher.runFor 8 r).1) = .ok true := by decide +kernel
  cases hr : Program.detourSearch with
  | error fault => simp [hr, Except.map] at hrun
  | ok r =>
    have hturns := Searcher.runFor_turns 8 r
    obtain ⟨hgraph, hconfig, -⟩ := Searcher.create_frame hr
    simp only [hr, Except.map, Except.ok.injEq] at hrun
    unfold Program.detourExpected at hrun
    split at hrun
    · rename_i head rest hv
      simp only [Bool.and_eq_true, beq_iff_eq, List.any_eq_true] at hrun
      obtain ⟨⟨rfl, hseen⟩, t, ht, hitem⟩ := hrun
      refine ⟨r, _, rfl, hturns.tail (.take hv), ?_, ?_, ?_⟩
      · refine ⟨_, _, 1, rfl, ?_, ?_, rfl⟩
        · simp only [hturns.sameTask.graph, hgraph]
          exact .branch (b := ⟨"f", "slow"⟩) (t := ⟨"f", "top"⟩) rfl rfl (by decide) rfl
        · simp only [hturns.sameTask.config, hconfig]
          rfl
      · rw [Seen.wasSeen_eq_true]
        simp only [hturns.sameTask.graph, hgraph]
        exact ⟨rfl, hseen⟩
      · exact Or.inr (List.mem_map.2 ⟨t, ht, hitem⟩)
    · cases hrun

/-- At that moment the last step to the admitted state costs ten, the last step to the duplicate
one. -/
theorem duplicate_excess_detour : ∃ r u, Program.detourSearch = .ok r ∧ r.Turns u ∧
    u.Offers ⟨⟨"f", "top", 0⟩, 6, ⟨[⟨"main", "a", 0⟩]⟩⟩ ∧
    u.seen.wasSeen u.graph ⟨⟨"f", "top", 0⟩, 6, ⟨[⟨"main", "a", 0⟩]⟩⟩ = .ok true ∧
    ∃ m n : ℕ, u.Arrived ⟨⟨"f", "top", 0⟩, 13, ⟨[⟨"main", "a", 0⟩]⟩⟩ m ∧
      u.Arrived ⟨⟨"f", "top", 0⟩, 6, ⟨[⟨"main", "a", 0⟩]⟩⟩ n ∧ 13 + n ≤ 6 + m := by
  obtain ⟨r, u, hr, hu, hoffer, hseen, hadmitted⟩ := Program.detour_moment
  obtain ⟨a, ⟨-, -, hunique⟩, m, n, ha, hs, hle⟩ := duplicate_excess hr hu hoffer hseen
  obtain rfl := hunique _ hadmitted rfl
  simp only at hle
  exact ⟨r, u, hr, hu, hoffer, hseen, m, n, ha, hs, by omega⟩

/-- **A nearer state can be lost as a duplicate.**  In a program built from a description, with
weights by kind: the state dropped is at the distance 6, the one admitted before it under its key at
13. -/
theorem nearer_duplicate_dropped : Document.detour.build none = .ok Program.detour ∧
    ∃ r u s a, Searcher.create Program.detour.graph ⟨"f", "mid", 0⟩ ⟨"f", "top", 0⟩
        [⟨"main", "a", 0⟩] Program.detourConfig = .ok r ∧ r.Turns u ∧ u.Offers s ∧
      u.seen.wasSeen u.graph s = .ok true ∧ u.Admitted a ∧ a.key = s.key ∧
      s.distance = 6 ∧ a.distance = 13 := by
  obtain ⟨r, u, hr, hu, hoffer, hseen, hadmitted⟩ := Program.detour_moment
  exact ⟨by decide +kernel, r, u, _, _, hr, hu, hoffer, hseen, hadmitted, rfl, rfl, rfl⟩

end CallReach
