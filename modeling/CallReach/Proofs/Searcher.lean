import CallReach.Proofs.Frontier
import CallReach.Proofs.Walk
import Mathlib.Logic.Relation

/-!
# What a search does, turn by turn

A run of the search is a sequence of small changes.  `Searcher.Turn` lists them with all that holds
when they happen, so that an invariant of the search is proved with one case for each and never by
opening the search again.

* `Searcher.Admitted` : the states that have entered the frontier, expanded or still pending.
* `Searcher.runFor_turns` : whatever a run does, with or without a fault, is a sequence of turns.
* `Searcher.Round` : one expansion without a fault; `Searcher.runFor_rounds` : a run that returns is
  a sequence of rounds with a verdict at its end.
* `Searcher.create_eq_ok` : a new search has admitted its start and nothing else.
-/

namespace CallReach

theorem bind_eq_ok {ε α β : Type} {x : Except ε α} {f : α → Except ε β} {b : β} :
    x >>= f = .ok b ↔ ∃ a, x = .ok a ∧ f a = .ok b := by
  cases x <;> simp [bind, Except.bind]

/-! ### The duplicate filter -/

namespace Seen

variable {P B F : Type} [DecidableEq P] {slot : P → ℕ}

theorem contains_empty (k : Key P) : Seen.contains slot {} k = false := by
  simp [Seen.contains]

theorem contains_insert {seen : Seen P} {k l : Key P} :
    (seen.insert slot k).contains slot l = true ↔ l = k ∨ seen.contains slot l = true := by
  unfold Seen.insert
  split_ifs with hk
  · constructor
    · exact Or.inr
    · rintro (rfl | hl)
      · exact hk
      · exact hl
  · simp only [Seen.contains, Std.TreeMap.getD_insert, compare_eq_iff_eq]
    split_ifs with hslot
    · simp [hslot]
    · constructor
      · exact Or.inr
      · rintro (rfl | hl)
        · exact absurd rfl hslot
        · exact hl

theorem wasSeen_eq_true {G : Graph P B F} {seen : Seen P} {s : State P} :
    seen.wasSeen G s = .ok true ↔
      G.isBlockEntry s.position = .ok true ∧ seen.contains G.slot s.key = true := by
  unfold wasSeen
  rcases G.isBlockEntry s.position with _ | _ | _ <;> simp [bind, Except.bind, pure, Except.pure]

/-- Only block entries are remembered. -/
theorem mark_eq_ok {G : Graph P B F} {seen seen' : Seen P} {s : State P}
    (h : seen.mark G s = .ok seen') (k : Key P) :
    seen'.contains G.slot k = true ↔
      G.isBlockEntry s.position = .ok true ∧ k = s.key ∨ seen.contains G.slot k = true := by
  unfold mark at h
  obtain ⟨entry, hentry, h⟩ := bind_eq_ok.1 h
  cases entry with
  | true =>
    cases Except.ok.inj h
    simp [hentry, contains_insert]
  | false =>
    cases Except.ok.inj h
    simp [hentry]

end Seen

theorem costOf_eq_ok {P B F : Type} {c : Config P} {G : Graph P B F} {p : P} {n : ℕ} :
    c.costOf G p = .ok n ↔ c.cost p = .ok n := by
  unfold Config.costOf
  cases c.cost p <;> simp

namespace Searcher

variable {P B F : Type}

/-- The states that wait to be expanded. -/
def pending (r : Searcher P B F) : List (State P) := r.frontier.tickets.map (·.item)

/-- The states that have entered the frontier. -/
def Admitted (r : Searcher P B F) (s : State P) : Prop := s ∈ r.expanded ∨ s ∈ r.pending

/-- The states that the state expanded last leads to. -/
def Offers (r : Searcher P B F) (s : State P) : Prop :=
  ∃ head older n, r.expanded = head :: older ∧ r.graph.GuardedStep head.key s.key ∧
    r.config.cost head.position = .ok n ∧ s.distance = head.distance + n

variable [DecidableEq P]

/-- The smallest changes that a search makes. -/
inductive Turn (r : Searcher P B F) : Searcher P B F → Prop
  /-- The nearest state is taken to be expanded. -/
  | take {head : State P} {rest : Frontier (State P)} : r.verdict = .expand head rest →
      Turn r { r with frontier := rest, expanded := head :: r.expanded }
  /-- A state is admitted. -/
  | enqueue {s : State P} {frontier : Frontier (State P)} {seen : Seen P} : r.Offers s →
      r.seen.wasSeen r.graph s = .ok false → r.frontier.push? s.distance s = some frontier →
      r.seen.mark r.graph s = .ok seen → Turn r { r with frontier, seen }
  /-- A state is dropped as a duplicate. -/
  | duplicate {s : State P} : r.Offers s → r.seen.wasSeen r.graph s = .ok true →
      Turn r { r with duplicatesDropped := r.duplicatesDropped + 1 }
  /-- A state is dropped because the frontier is full. -/
  | overflow {s : State P} : r.Offers s → r.frontier.push? s.distance s = none →
      Turn r { r with queueDropped := r.queueDropped + 1 }
  /-- A call of an active function is not entered. -/
  | prune : Turn r { r with recursionPruned := r.recursionPruned + 1 }
  /-- An expansion is counted. -/
  | count : Turn r { r with iterations := r.iterations + 1 }
  /-- The result is noted. -/
  | note {result : Option SearchResult} : Turn r { r with result }

/-- Any number of turns. -/
def Turns : Searcher P B F → Searcher P B F → Prop := Relation.ReflTransGen Turn

/-- What holds at the beginning and is kept by every turn holds all the time. -/
theorem Turns.invariant {I : Searcher P B F → Prop} {r e : Searcher P B F} (h : r.Turns e)
    (hr : I r) (hstep : ∀ a b, I a → a.Turn b → I b) : I e := by
  induction h with
  | refl => exact hr
  | tail _ ht ih => exact hstep _ _ ih ht

/-- What is asked of a search: it never changes. -/
structure SameTask (r e : Searcher P B F) : Prop where
  graph : e.graph = r.graph
  config : e.config = r.config
  start : e.start = r.start
  target : e.target = r.target

omit [DecidableEq P] in
theorem SameTask.refl (r : Searcher P B F) : SameTask r r := ⟨rfl, rfl, rfl, rfl⟩

theorem Turn.sameTask {r e : Searcher P B F} (h : r.Turn e) : SameTask r e := by
  cases h <;> exact ⟨rfl, rfl, rfl, rfl⟩

theorem Turns.sameTask {r e : Searcher P B F} (h : r.Turns e) : SameTask r e := by
  refine h.invariant (I := SameTask r) (.refl r) fun a b ha ht => ?_
  have hb := ht.sameTask
  exact ⟨hb.graph.trans ha.graph, hb.config.trans ha.config, hb.start.trans ha.start,
    hb.target.trans ha.target⟩

/-! ### What one call of each part of the search does -/

omit [DecidableEq P] in
/-- A check decides only whether there is an answer. -/
theorem of_checked {x : Except Fault Unit} {y : Except Fault (Searcher P B F)} {test : Bool}
    {e : Searcher P B F} (h : (if test then x >>= fun _ => y else y) = .ok e) : y = .ok e := by
  split_ifs at h
  · exact (bind_eq_ok.1 h).choose_spec.2
  · exact h

/-- The three ways in which a state is received. -/
theorem accept_cases {r e : Searcher P B F} {s : State P} (h : r.accept s = .ok e) :
    (r.seen.wasSeen r.graph s = .ok true ∧
      e = { r with duplicatesDropped := r.duplicatesDropped + 1 }) ∨
    (r.seen.wasSeen r.graph s = .ok false ∧ r.frontier.push? s.distance s = none ∧
      e = { r with queueDropped := r.queueDropped + 1 }) ∨
    (r.seen.wasSeen r.graph s = .ok false ∧ ∃ frontier seen,
      r.frontier.push? s.distance s = some frontier ∧ r.seen.mark r.graph s = .ok seen ∧
      e = { r with frontier, seen }) := by
  unfold accept at h
  obtain ⟨dup, hdup, h⟩ := bind_eq_ok.1 h
  cases dup with
  | true => exact Or.inl ⟨hdup, (Except.ok.inj h).symm⟩
  | false =>
    simp only [Bool.false_eq_true, if_false] at h
    obtain ⟨entry, -, h⟩ := bind_eq_ok.1 h
    cases hpush : r.frontier.push? s.distance s with
    | none =>
      simp only [hpush] at h
      exact Or.inr (Or.inl ⟨hdup, rfl, (Except.ok.inj (of_checked h)).symm⟩)
    | some frontier =>
      simp only [hpush] at h
      obtain ⟨seen, hseen, he⟩ := bind_eq_ok.1 (of_checked h)
      exact Or.inr (Or.inr ⟨hdup, frontier, seen, rfl, hseen, (Except.ok.inj he).symm⟩)

theorem turn_of_accept {r e : Searcher P B F} {s : State P} (ho : r.Offers s)
    (h : r.accept s = .ok e) : r.Turn e := by
  rcases accept_cases h with ⟨hdup, rfl⟩ | ⟨-, hfull, rfl⟩ | ⟨hnew, _, _, hroom, hmark, rfl⟩
  · exact .duplicate ho hdup
  · exact .overflow ho hfull
  · exact .enqueue ho hnew hroom hmark

theorem accept_frame {r e : Searcher P B F} {s : State P} (h : r.accept s = .ok e) :
    e.graph = r.graph ∧ e.config = r.config ∧ e.expanded = r.expanded := by
  rcases accept_cases h with ⟨-, rfl⟩ | ⟨-, -, rfl⟩ | ⟨-, _, _, -, -, rfl⟩ <;> exact ⟨rfl, rfl, rfl⟩

theorem follow_eq_ok {r e : Searcher P B F} {head : State P} {m : Except Fault (Move P)}
    (h : r.follow head m = .ok e) :
    ∃ mv n, m = .ok mv ∧ r.config.cost head.position = .ok n ∧
      r.accept ⟨mv.position, head.distance + n, mv.stack⟩ = .ok e := by
  unfold follow at h
  obtain ⟨mv, hm, h⟩ := bind_eq_ok.1 h
  obtain ⟨n, hn, h⟩ := bind_eq_ok.1 h
  exact ⟨mv, n, hm, costOf_eq_ok.1 hn, h⟩

theorem verdict_eq_expand {r : Searcher P B F} {head : State P} {rest : Frontier (State P)}
    (h : r.verdict = .expand head rest) :
    ∃ t, r.frontier.pop? = some (t, rest) ∧ t.item = head ∧ t.distance < r.config.maxDistance ∧
      r.iterations < r.config.maxIterations ∧ head.position ≠ r.target := by
  unfold verdict at h
  split at h
  · cases h
  · rename_i t rest' hpop
    split_ifs at h with hd hi ht
    cases h
    exact ⟨t, hpop, rfl, by omega, by omega, ht⟩

theorem verdict_eq_stop {r : Searcher P B F} {reason : StopReason} (h : r.verdict = .stop reason) :
    (reason = .exhausted ∧ r.frontier.pop? = none) ∨
    ∃ t rest, r.frontier.pop? = some (t, rest) ∧
      ((reason = .distanceBound ∧ r.config.maxDistance ≤ t.distance) ∨
        (reason = .iterationBound ∧ r.config.maxIterations ≤ r.iterations) ∨
        (reason = .found ∧ t.item.position = r.target)) := by
  unfold verdict at h
  split at h
  · rename_i hpop
    cases h
    exact Or.inl ⟨rfl, hpop⟩
  · rename_i t rest hpop
    refine Or.inr ⟨t, rest, hpop, ?_⟩
    split_ifs at h with hd hi ht
    · cases h
      exact Or.inl ⟨rfl, hd⟩
    · cases h
      exact Or.inr (Or.inl ⟨rfl, hi⟩)
    · cases h
      exact Or.inr (Or.inr ⟨rfl, ht⟩)

/-- The steps of a state change only the frontier, the filter and the numbers of states dropped. -/
theorem followAll_frame (r : Searcher P B F) (head : State P)
    (list : List (Except Fault (Move P))) :
    ∃ frontier seen duplicatesDropped queueDropped, (r.followAll head list).1 =
      { r with frontier, seen, duplicatesDropped, queueDropped } := by
  induction list generalizing r with
  | nil => exact ⟨_, _, _, _, rfl⟩
  | cons m rest ih =>
    rw [followAll]
    split
    · rename_i u hu
      obtain ⟨mv, n, -, -, hacc⟩ := follow_eq_ok hu
      obtain ⟨_, _, _, _, hrest⟩ := ih u
      rcases accept_cases hacc with ⟨-, rfl⟩ | ⟨-, -, rfl⟩ | ⟨-, _, _, -, -, rfl⟩ <;>
        exact ⟨_, _, _, _, hrest⟩
    · exact ⟨_, _, _, _, rfl⟩

variable [DecidableEq F]

omit [DecidableEq P] in
/-- The moves of the state expanded last are its offers. -/
theorem offers_of_move {r : Searcher P B F} {head : State P} {older : List (State P)}
    {all : List (Except Fault (Move P))} {mv : Move P} {n : ℕ} (he : r.expanded = head :: older)
    (hx : expand r.graph head = .ok (.moves all)) (hm : .ok mv ∈ all)
    (hn : r.config.cost head.position = .ok n) :
    r.Offers ⟨mv.position, head.distance + n, mv.stack⟩ :=
  ⟨head, older, n, he, (expand_yields hx mv).1 hm, hn, rfl⟩

theorem followAll_turns {head : State P} {older : List (State P)}
    {all list : List (Except Fault (Move P))} {r : Searcher P B F}
    (he : r.expanded = head :: older) (hx : expand r.graph head = .ok (.moves all))
    (hsub : list ⊆ all) : r.Turns (r.followAll head list).1 := by
  induction list generalizing r with
  | nil => exact .refl
  | cons m rest ih =>
    rw [followAll]
    split
    · rename_i u hu
      obtain ⟨mv, n, rfl, hn, hacc⟩ := follow_eq_ok hu
      obtain ⟨hg, -, hexp⟩ := accept_frame hacc
      have ho := offers_of_move he hx (hsub List.mem_cons_self) hn
      refine .head (turn_of_accept ho hacc) (ih (hexp.trans he) (hg ▸ hx) ?_)
      exact fun x hx => hsub (List.mem_cons_of_mem _ hx)
    · exact .refl

/-- Where all moves of a state go without a fault, each of them was offered and received at some
moment. -/
theorem followAll_received {head : State P} {older : List (State P)}
    {all list : List (Except Fault (Move P))} {r e : Searcher P B F}
    (he : r.expanded = head :: older) (hx : expand r.graph head = .ok (.moves all))
    (hsub : list ⊆ all) (h : r.followAll head list = (e, none)) {mv : Move P}
    (hmv : .ok mv ∈ list) :
    ∃ n u v, r.config.cost head.position = .ok n ∧ r.Turns u ∧
      u.Offers ⟨mv.position, head.distance + n, mv.stack⟩ ∧
      u.accept ⟨mv.position, head.distance + n, mv.stack⟩ = .ok v ∧ v.Turns e := by
  induction list generalizing r with
  | nil => simp at hmv
  | cons m rest ih =>
    have hrest : rest ⊆ all := fun x hx => hsub (List.mem_cons_of_mem _ hx)
    rw [followAll] at h
    split at h
    · rename_i u hu
      obtain ⟨mv', n, rfl, hn, hacc⟩ := follow_eq_ok hu
      obtain ⟨hg, hc, hexp⟩ := accept_frame hacc
      have ho := offers_of_move he hx (hsub List.mem_cons_self) hn
      have hxu : expand u.graph head = .ok (.moves all) := hg ▸ hx
      rcases List.mem_cons.1 hmv with hmv | hmv
      · cases hmv
        have htail := followAll_turns (hexp.trans he) hxu hrest
        rw [h] at htail
        exact ⟨n, r, u, hn, .refl, ho, hacc, htail⟩
      · obtain ⟨n', a, b, hn', hua, hoa, hab, hbe⟩ := ih (hexp.trans he) hxu hrest h hmv
        exact ⟨n', a, b, hc ▸ hn', .head (turn_of_accept ho hacc) hua, hoa, hab, hbe⟩
    · simp at h

/-! ### Runs -/

theorem expandState_frame (r : Searcher P B F) (head : State P) :
    ∃ frontier seen duplicatesDropped queueDropped recursionPruned,
      (r.expandState head).1 =
        { r with frontier, seen, duplicatesDropped, queueDropped, recursionPruned } ∧
      (recursionPruned = r.recursionPruned ∨ expand r.graph head = .ok .pruned) := by
  unfold expandState
  split
  · exact ⟨_, _, _, _, _, rfl, Or.inl rfl⟩
  · rename_i hx
    exact ⟨_, _, _, _, _, rfl, Or.inr hx⟩
  · rename_i list hx
    obtain ⟨_, _, _, _, hframe⟩ := followAll_frame r head list
    exact ⟨_, _, _, _, _, hframe, Or.inl rfl⟩

/-- What an expansion changes: a call that is left out is counted as such, and an expansion without
a fault is counted. -/
theorem step_frame (r : Searcher P B F) (head : State P) (rest : Frontier (State P)) :
    ∃ frontier seen duplicatesDropped queueDropped recursionPruned iterations,
      (r.step head rest).1 =
        { r with frontier, seen, duplicatesDropped, queueDropped, recursionPruned, iterations,
                 expanded := head :: r.expanded } ∧
      (recursionPruned = r.recursionPruned ∨ expand r.graph head = .ok .pruned) ∧
      ((r.step head rest).2 = none → iterations = r.iterations + 1) := by
  obtain ⟨_, _, _, _, _, hframe, hpruned⟩ :=
    expandState_frame { r with frontier := rest, expanded := head :: r.expanded } head
  unfold step
  split
  · rename_i u hu
    obtain rfl : u = _ := (congrArg Prod.fst hu).symm.trans hframe
    exact ⟨_, _, _, _, _, _, rfl, hpruned, fun _ => rfl⟩
  · rename_i u fault hu
    obtain rfl : u = _ := (congrArg Prod.fst hu).symm.trans hframe
    exact ⟨_, _, _, _, _, _, rfl, hpruned, by rintro ⟨⟩⟩

/-- Whatever an expansion does, it does in turns. -/
theorem step_turns {r : Searcher P B F} {head : State P} {rest : Frontier (State P)}
    (h : r.verdict = .expand head rest) : r.Turns (r.step head rest).1 := by
  have htake : r.Turn { r with frontier := rest, expanded := head :: r.expanded } := .take h
  unfold step expandState
  split
  · rename_i u hu
    split at hu
    · simp at hu
    · cases hu
      exact .head htake (.head .prune (.single .count))
    · rename_i list hx
      have hturns := followAll_turns rfl hx (List.Subset.refl list)
      rw [hu] at hturns
      exact .head htake (hturns.tail .count)
  · rename_i u fault hu
    split at hu
    · cases hu
      exact .single htake
    · simp at hu
    · rename_i list hx
      have hturns := followAll_turns rfl hx (List.Subset.refl list)
      rw [hu] at hturns
      exact .head htake hturns

/-- What every expansion keeps, with or without a fault, a run keeps. -/
theorem runFor_invariant {I : Searcher P B F → Prop}
    (hstep : ∀ r head rest, I r → r.verdict = .expand head rest → I (r.step head rest).1)
    (hnote : ∀ (r : Searcher P B F) result, I r → I { r with result }) (fuel : ℕ)
    {r : Searcher P B F} (hr : I r) : I (runFor fuel r).1 := by
  induction fuel generalizing r with
  | zero =>
    unfold runFor
    split <;> exact hnote _ _ hr
  | succ fuel ih =>
    unfold runFor
    split
    · exact hnote _ _ hr
    · rename_i head rest hv
      have hnext := hstep r head rest hr hv
      simp only
      split
      · rename_i u hu
        rw [hu] at hnext
        exact ih hnext
      · rename_i u fault hu
        rw [hu] at hnext
        exact hnext

/-- **Every run is a sequence of turns**, whether it ends with a result or with a fault. -/
theorem runFor_turns (fuel : ℕ) (r : Searcher P B F) : r.Turns (runFor fuel r).1 :=
  runFor_invariant (I := r.Turns) (fun _ _ _ ha hv => ha.trans (step_turns hv))
    (fun _ _ ha => ha.tail .note) fuel .refl

/-- One expansion without a fault. -/
def Round (r e : Searcher P B F) : Prop :=
  ∃ head rest, r.verdict = .expand head rest ∧ r.step head rest = (e, none)

theorem Round.turns {r e : Searcher P B F} (h : r.Round e) : r.Turns e := by
  obtain ⟨head, rest, hv, hs⟩ := h
  have := step_turns hv
  rwa [hs] at this

theorem turns_of_rounds {r e : Searcher P B F} (h : Relation.ReflTransGen Round r e) :
    r.Turns e := by
  induction h with
  | refl => exact .refl
  | tail _ hround ih => exact ih.trans hround.turns

/-- **A round takes every guarded step of the state it expands**: each of them was offered and
received at some moment of the round. -/
theorem Round.received {r e : Searcher P B F} (h : r.Round e) :
    ∃ head rest, r.verdict = .expand head rest ∧ e.expanded = head :: r.expanded ∧
      ∀ k, r.graph.GuardedStep head.key k → ∃ n u v, r.config.cost head.position = .ok n ∧
        r.Turns u ∧ u.Offers ⟨k.position, head.distance + n, k.stack⟩ ∧
        u.accept ⟨k.position, head.distance + n, k.stack⟩ = .ok v ∧ v.Turns e := by
  obtain ⟨head, rest, hv, hs⟩ := h
  refine ⟨head, rest, hv, ?_⟩
  unfold step expandState at hs
  split at hs
  · rename_i u hu
    simp only [Prod.mk.injEq, and_true] at hs
    subst hs
    split at hu
    · simp at hu
    · rename_i hx
      cases hu
      refine ⟨rfl, fun k hk => ?_⟩
      exact ((expand_yields hx ⟨k.position, k.stack⟩).2 hk).elim
    · rename_i list hx
      obtain ⟨_, _, _, _, hframe⟩ :=
        followAll_frame { r with frontier := rest, expanded := head :: r.expanded } head list
      rw [hu] at hframe
      refine ⟨congrArg Searcher.expanded hframe, fun k hk => ?_⟩
      have hmem := (expand_yields hx ⟨k.position, k.stack⟩).2 hk
      obtain ⟨n, a, b, hn, ha, ho, hab, hb⟩ :=
        followAll_received rfl hx (List.Subset.refl list) hu hmem
      exact ⟨n, a, b, hn, .head (.take hv) ha, ho, hab, hb.tail .count⟩
  · simp at hs

/-- **A run that returns is a sequence of rounds with a verdict at its end**, unless it was cut off
by the bound on expansions. -/
theorem runFor_rounds {fuel : ℕ} {r : Searcher P B F} {res : SearchResult}
    (h : (runFor fuel r).2 = .ok res) :
    ∃ e, Relation.ReflTransGen Round r e ∧ (e.finish res.reason).2 = .ok res ∧
      (e.verdict = .stop res.reason ∨ res.reason = .iterationBound) := by
  induction fuel generalizing r with
  | zero =>
    unfold runFor at h
    split at h
    · rename_i reason hv
      cases h
      exact ⟨r, .refl, rfl, Or.inl hv⟩
    · cases h
      exact ⟨r, .refl, rfl, Or.inr rfl⟩
  | succ fuel ih =>
    unfold runFor at h
    split at h
    · rename_i reason hv
      cases h
      exact ⟨r, .refl, rfl, Or.inl hv⟩
    · rename_i head rest hv
      simp only at h
      split at h
      · rename_i u hu
        obtain ⟨e, he, hfin, hend⟩ := ih h
        exact ⟨e, .head ⟨head, rest, hv, hu⟩ he, hfin, hend⟩
      · simp at h

theorem run_eq_ok {r : Searcher P B F} {res : SearchResult} (h : r.run.2 = .ok res) :
    (runFor (r.config.maxIterations - r.iterations) r).2 = .ok res := by
  unfold run at h
  split at h
  · cases h
  · exact h

/-! ### New searches -/

omit [DecidableEq F] in
/-- **A new search has admitted its start and nothing else.** -/
theorem create_eq_ok {G : Graph P B F} {start target : P} {calls : List P} {config : Config P}
    {r : Searcher P B F} (h : create G start target calls config = .ok r) :
    ∃ frontier seen, r = { blank G start target calls config with frontier, seen } ∧
      (Frontier.empty config.maxQueueLength).push? 0 r.start = some frontier ∧
      Seen.mark G {} r.start = .ok seen := by
  unfold create at h
  obtain ⟨-, -, h⟩ := bind_eq_ok.1 h
  obtain ⟨-, -, h⟩ := bind_eq_ok.1 h
  rcases accept_cases h with ⟨hdup, rfl⟩ | ⟨-, hfull, rfl⟩ | ⟨-, frontier, seen, hroom, hmark, rfl⟩
  · exfalso
    obtain ⟨entry, -, hdup⟩ := bind_eq_ok.1 hdup
    cases entry <;> simp [blank, Seen.contains_empty, pure, Except.pure] at hdup
  · simp [blank, Frontier.push?, Frontier.empty] at hfull
  · exact ⟨frontier, seen, rfl, hroom, hmark⟩

omit [DecidableEq F] in
/-- What is asked of a new search. -/
theorem create_frame {G : Graph P B F} {start target : P} {calls : List P} {config : Config P}
    {r : Searcher P B F} (h : create G start target calls config = .ok r) :
    r.graph = G ∧ r.config = config ∧ r.start.key = ⟨start, .ofCalls calls⟩ ∧ r.target = target ∧
      r.expanded = [] := by
  obtain ⟨frontier, seen, rfl, -⟩ := create_eq_ok h
  exact ⟨rfl, rfl, rfl, rfl, rfl⟩

/-- What a search gives when it is evaluated. -/
theorem run_of_toOption (G : Graph P B F) (start target : P) (calls : List P) (config : Config P)
    (res : SearchResult)
    (h : (create G start target calls config >>= fun r => r.run.2).toOption = some res) :
    ∃ r, create G start target calls config = .ok r ∧ r.run.2 = .ok res := by
  cases hc : create G start target calls config with
  | error fault => simp [hc, bind, Except.bind, Except.toOption] at h
  | ok r =>
    cases hrun : r.run.2 with
    | error fault => simp [hc, hrun, bind, Except.bind, Except.toOption] at h
    | ok res' =>
      simp only [hc, hrun, bind, Except.bind, Except.toOption, Option.some.injEq] at h
      exact ⟨r, rfl, hrun.trans (congrArg Except.ok h)⟩

end Searcher

end CallReach
