import CallReach.Proofs.Termination

/-!
# Bounds only cut a search short

Two searches that differ only in their bounds on distances and on expansions do the same until one
of them stops: the bounds are read by the verdict and by nothing else.  The nearest pending state
never gets nearer, so a distance below the smaller bound is found in spite of it.

* `Searcher.withBounds` : a search with other bounds; `Searcher.step_withBounds` : it expands a
  state in the same way.
* `Searcher.runFor_expanded_suffix` : with smaller bounds a first part of the same states is
  expanded.
* `Searcher.found_bounds` : a distance that was found is below both bounds, and no less than those
  of the states expanded before.
* `Searcher.runFor_truncated` : with smaller bounds the same is found, or one of them is met first.
* `bounds_only_truncate` : these facts about new searches.
-/

namespace CallReach

namespace Searcher

variable {P B F : Type} {r e : Searcher P B F} {s head : State P} {rest : Frontier (State P)}
  {D I : ℕ}

/-- The search with other bounds on distances and on expansions. -/
def withBounds (r : Searcher P B F) (D I : ℕ) : Searcher P B F :=
  { r with config := { r.config with maxDistance := D, maxIterations := I } }

variable [DecidableEq P]

/-! ### Bounds have no part in an expansion -/

theorem accept_withBounds (r : Searcher P B F) (s : State P) :
    (r.withBounds D I).accept s = (r.accept s).map (·.withBounds D I) := by
  simp only [accept, withBounds, bind, Except.bind]
  rcases r.seen.wasSeen r.graph s with fault | dup | dup
  · rfl
  · rcases r.graph.isBlockEntry s.position with fault | entry | entry
    · rfl
    · rcases r.frontier.push? s.distance s with _ | q
      · rfl
      · rcases r.seen.mark r.graph s with fault | seen <;> rfl
    · rcases r.graph.check s.position with fault | _
      · rfl
      · rcases r.frontier.push? s.distance s with _ | q
        · rfl
        · rcases r.seen.mark r.graph s with fault | seen <;> rfl
  · rfl

theorem follow_withBounds (r : Searcher P B F) (s : State P) (m : Except Fault (Move P)) :
    (r.withBounds D I).follow s m = (r.follow s m).map (·.withBounds D I) := by
  rcases m with fault | m
  · rfl
  · have hcost : (r.withBounds D I).config.costOf r.graph s.position =
        r.config.costOf r.graph s.position := rfl
    simp only [follow, bind, Except.bind]
    rw [show (r.withBounds D I).graph = r.graph from rfl, hcost]
    cases r.config.costOf r.graph s.position with
    | error fault => rfl
    | ok n => exact accept_withBounds r _

theorem followAll_withBounds (r : Searcher P B F) (s : State P)
    (list : List (Except Fault (Move P))) :
    (r.withBounds D I).followAll s list =
      ((r.followAll s list).1.withBounds D I, (r.followAll s list).2) := by
  induction list generalizing r with
  | nil => rfl
  | cons m rest ih =>
    rw [followAll, followAll, follow_withBounds]
    cases r.follow s m with
    | error fault => rfl
    | ok u => exact ih u

variable [DecidableEq F]

/-- **Bounds have no part in an expansion.** -/
theorem step_withBounds (r : Searcher P B F) (head : State P) (rest : Frontier (State P)) :
    (r.withBounds D I).step head rest =
      ((r.step head rest).1.withBounds D I, (r.step head rest).2) := by
  have hexpand : expandState
      { r.withBounds D I with frontier := rest, expanded := head :: r.expanded } head =
      ((expandState { r with frontier := rest, expanded := head :: r.expanded } head).1.withBounds
        D I, (expandState { r with frontier := rest, expanded := head :: r.expanded } head).2) := by
    unfold expandState
    rw [show (r.withBounds D I).graph = r.graph from rfl]
    simp only
    split
    · rfl
    · rfl
    · exact followAll_withBounds { r with frontier := rest, expanded := head :: r.expanded } head _
  unfold step
  rw [show (r.withBounds D I).expanded = r.expanded from rfl, hexpand]
  generalize expandState { r with frontier := rest, expanded := head :: r.expanded } head = after
  obtain ⟨u, _ | fault⟩ := after <;> rfl

theorem step_of_withBounds {u : Searcher P B F}
    (h : (r.withBounds D I).step head rest = (u, none)) :
    ∃ v, r.step head rest = (v, none) ∧ u = v.withBounds D I := by
  rw [step_withBounds] at h
  obtain ⟨hu, hfault⟩ := Prod.mk.inj h
  exact ⟨_, Prod.ext rfl hfault, hu.symm⟩

/-! ### The verdict -/

omit [DecidableEq F] in
theorem verdict_of_pop {t : Ticket (State P)} (h : r.frontier.pop? = some (t, rest)) :
    r.verdict =
      if r.config.maxDistance ≤ t.distance then .stop .distanceBound
      else if r.config.maxIterations ≤ r.iterations then .stop .iterationBound
      else if t.item.position = r.target then .stop .found
      else .expand t.item rest := by
  simp [verdict, h]

omit [DecidableEq F] in
/-- The target is found only below both bounds. -/
theorem verdict_eq_found (h : r.verdict = .stop .found) :
    ∃ t rest, r.frontier.pop? = some (t, rest) ∧ t.distance < r.config.maxDistance ∧
      r.iterations < r.config.maxIterations ∧ t.item.position = r.target := by
  obtain ⟨⟨⟩, -⟩ | ⟨t, rest, hpop, -⟩ := verdict_eq_stop h
  rw [verdict_of_pop hpop] at h
  split_ifs at h with hd hi ht
  · cases h
  · cases h
  · exact ⟨t, rest, hpop, by omega, by omega, ht⟩

omit [DecidableEq F] in
/-- What is expanded with smaller bounds is expanded with larger ones. -/
theorem verdict_withBounds (hD : r.config.maxDistance ≤ D) (hI : r.config.maxIterations ≤ I)
    (h : r.verdict = .expand head rest) : (r.withBounds D I).verdict = .expand head rest := by
  obtain ⟨t, hpop, rfl, hd, hi, ht⟩ := verdict_eq_expand h
  rw [verdict_of_pop (r := r.withBounds D I) hpop]
  have hd' : ¬ (D : Int) ≤ t.distance := by omega
  have hi' : ¬ I ≤ r.iterations := by omega
  simp [withBounds, hd', hi', ht]

theorem runFor_of_stop {reason : StopReason} (fuel : ℕ) (h : r.verdict = .stop reason) :
    runFor fuel r = r.finish reason := by
  unfold runFor
  rw [h]

theorem runFor_of_expand (fuel : ℕ) (h : r.verdict = .expand head rest) :
    runFor (fuel + 1) r =
      match r.step head rest with
      | (u, none) => runFor fuel u
      | (u, some fault) => (u, .error fault) := by
  rewrite [runFor, h]
  rfl

/-- After a round a run goes on as if it had begun there. -/
theorem runFor_of_step (hv : r.verdict = .expand head rest) (hstep : r.step head rest = (e, none)) :
    runFor (r.config.maxIterations - r.iterations) r =
      runFor (e.config.maxIterations - e.iterations) e := by
  obtain ⟨t, -, -, -, hlt, -⟩ := verdict_eq_expand hv
  have hround : r.Round e := ⟨head, rest, hv, hstep⟩
  have hcount := hround.iterations
  have hconfig := hround.turns.sameTask.config
  have hfuel : r.config.maxIterations - r.iterations =
      e.config.maxIterations - e.iterations + 1 := by
    rw [hconfig]
    omega
  rw [hfuel, runFor_of_expand _ hv, hstep]

/-! ### The states expanded -/

omit [DecidableEq F] in
theorem Turns.expanded_suffix (h : r.Turns e) : r.expanded <:+ e.expanded := by
  refine h.invariant (I := fun e => r.expanded <:+ e.expanded) List.suffix_rfl fun a b ha ht => ?_
  cases ht with
  | take => exact ha.trans (List.suffix_cons _ _)
  | enqueue | duplicate | overflow | prune | count | note => exact ha

/-- **With smaller bounds a first part of the same states is expanded**, whether the searches end
with results or with faults. -/
theorem runFor_expanded_suffix {fuel fuel' : ℕ} (hfuel : fuel ≤ fuel')
    (hD : r.config.maxDistance ≤ D) (hI : r.config.maxIterations ≤ I) :
    (runFor fuel r).1.expanded <:+ (runFor fuel' (r.withBounds D I)).1.expanded := by
  induction fuel generalizing r fuel' with
  | zero =>
    have hstopped : (runFor 0 r).1.expanded = r.expanded := by
      unfold runFor
      split <;> rfl
    rw [hstopped]
    exact (runFor_turns fuel' (r.withBounds D I)).expanded_suffix
  | succ fuel ih =>
    cases hv : r.verdict with
    | stop reason =>
      rw [runFor_of_stop (fuel + 1) hv]
      exact (runFor_turns fuel' (r.withBounds D I)).expanded_suffix
    | expand head rest =>
      obtain ⟨more, rfl⟩ : ∃ more, fuel' = more + 1 := ⟨fuel' - 1, by omega⟩
      rw [runFor_of_expand fuel hv, runFor_of_expand more (verdict_withBounds hD hI hv),
        step_withBounds]
      -- both searches make the same step, and meet a fault in it together
      rcases hstep : r.step head rest with ⟨u, _ | fault⟩
      · have hconfig := (Round.turns ⟨head, rest, hv, hstep⟩).sameTask.config
        exact ih (by omega) (hconfig ▸ hD) (hconfig ▸ hI)
      · exact List.suffix_rfl

/-! ### Results -/

omit [DecidableEq F] in
/-- Nothing that is expanded or pending later is nearer. -/
theorem Turns.near {d : Int} {n : ℕ} (h : r.Turns e) (hd : r.Near d n) : e.Near d n :=
  h.invariant (I := fun e => e.Near d n) hd fun _ _ ha ht => ht.near ha

omit [DecidableEq F] in
theorem Turns.iterations_le (h : r.Turns e) : r.iterations ≤ e.iterations := by
  refine h.invariant (I := fun e => r.iterations ≤ e.iterations) le_rfl fun a b ha ht => ?_
  cases ht with
  | count => exact Nat.le_succ_of_le ha
  | take | enqueue | duplicate | overflow | prune | note => exact ha

/-- **A distance that was found is below both bounds.**  It is no less than what the search was near
to before, and takes no fewer expansions than were made before. -/
theorem found_bounds (hr : r.Consistent) {fuel : ℕ} {res : SearchResult}
    (h : (runFor fuel r).2 = .ok res) (hfound : res.reason = .found) :
    ∃ d, res.distance = some d ∧ d < r.config.maxDistance ∧
      res.stats.iterations < r.config.maxIterations ∧ r.iterations ≤ res.stats.iterations ∧
      ∀ a, r.Near a 0 → a ≤ d := by
  obtain ⟨e, hrounds, hfin, hend⟩ := runFor_rounds h
  have hturns := turns_of_rounds hrounds
  have hv := hend.resolve_right (by simp [hfound])
  rw [hfound] at hv hfin
  have he := hturns.consistent hr
  obtain ⟨s, hs, -, hdist, hleast⟩ := he.found hv hfin
  obtain ⟨t, rest, hpop, hd, hi, -⟩ := verdict_eq_found hv
  obtain ⟨hmem, hown⟩ := he.popped hpop
  have hstats : res.stats.iterations = e.iterations := by
    rw [← Except.ok.inj hfin]
    rfl
  rw [hturns.sameTask.config] at hd hi
  refine ⟨s.distance, hdist, ?_, by omega, hstats ▸ hturns.iterations_le, fun a ha => ?_⟩
  · have := hleast t.item hmem
    omega
  · have := (hturns.near ha).2 s hs
    omega

/-- After a round nothing is nearer than the state it has expanded. -/
theorem Consistent.near_of_step (hr : r.Consistent) (hv : r.verdict = .expand head rest)
    (hstep : r.step head rest = (e, none)) : e.Near head.distance 0 := by
  have he : e.Consistent := (Round.turns ⟨head, rest, hv, hstep⟩).consistent hr
  have hexpanded : e.expanded = head :: r.expanded := by
    obtain ⟨_, _, _, _, _, _, hframe, -⟩ := step_frame r head rest
    rw [hstep] at hframe
    exact congrArg Searcher.expanded hframe
  refine ⟨fun head' older' he' => ?_, fun s hs => ?_⟩
  · cases hexpanded.symm.trans he'
    omega
  · have := he.settled head r.expanded hexpanded s hs
    omega

/-- What a result `res` at the distance `d` becomes under the bounds `D` and `I`: it stays when it
is below both, and otherwise one of them ends the search without a distance. -/
def Cut (D I : ℕ) (d : Int) (res res' : SearchResult) : Prop :=
  res' = res ∧ d < D ∧ res.stats.iterations < I ∨
    res'.distance = none ∧ (res'.reason = .distanceBound ∨ res'.reason = .iterationBound) ∧
      ¬ (d < D ∧ res.stats.iterations < I)

/-- A search that is no farther than `d` is below both of its bounds, or ends at one of them. -/
theorem below_or_cut {t : Ticket (State P)} (hpop : r.frontier.pop? = some (t, rest)) {d : Int}
    {res : SearchResult} (hd : t.distance ≤ d) (hn : r.iterations ≤ res.stats.iterations)
    (fuel : ℕ) :
    t.distance < r.config.maxDistance ∧ r.iterations < r.config.maxIterations ∨
      ∃ res', (runFor fuel r).2 = .ok res' ∧
        Cut r.config.maxDistance r.config.maxIterations d res res' := by
  by_cases hfar : (r.config.maxDistance : Int) ≤ t.distance
  · have hv : r.verdict = .stop .distanceBound := by rw [verdict_of_pop hpop, if_pos hfar]
    rw [runFor_of_stop fuel hv]
    exact Or.inr ⟨_, rfl, Or.inr ⟨rfl, Or.inl rfl, by omega⟩⟩
  · by_cases hlong : r.config.maxIterations ≤ r.iterations
    · have hv : r.verdict = .stop .iterationBound := by
        rw [verdict_of_pop hpop, if_neg hfar, if_pos hlong]
      rw [runFor_of_stop fuel hv]
      exact Or.inr ⟨_, rfl, Or.inr ⟨rfl, Or.inr rfl, by omega⟩⟩
    · exact Or.inl ⟨by omega, by omega⟩

/-- Where the search with the larger bounds has found its target. -/
theorem stop_truncated {res : SearchResult} {d : Int}
    (hv : (r.withBounds D I).verdict = .stop .found)
    (hfin : ((r.withBounds D I).finish .found).2 = .ok res) (hdist : res.distance = some d)
    (fuel : ℕ) : ∃ res', (runFor fuel r).2 = .ok res' ∧
      Cut r.config.maxDistance r.config.maxIterations d res res' := by
  obtain ⟨t, rest, hpop, -, -, htarget⟩ := verdict_eq_found hv
  have hres : (r.finish .found).2 = .ok res := hfin
  have hpop' : r.frontier.pop? = some (t, rest) := hpop
  have hd : t.distance = d := by
    rw [← Except.ok.inj hres] at hdist
    simpa [finish, Frontier.minDistance?, (Frontier.pop?_eq_some hpop').2] using hdist
  have hn : r.iterations = res.stats.iterations := by
    rw [← Except.ok.inj hres]
    rfl
  rcases below_or_cut hpop' hd.le hn.le fuel with ⟨hnear, hshort⟩ | hcut
  · have hv' : r.verdict = .stop .found := by
      rw [verdict_of_pop hpop', if_neg (by omega), if_neg (by omega)]
      exact if_pos htarget
    rw [runFor_of_stop fuel hv']
    exact ⟨res, hres, Or.inl ⟨rfl, by omega, by omega⟩⟩
  · exact hcut

omit [DecidableEq F] in
theorem consistent_withBounds : (r.withBounds D I).Consistent ↔ r.Consistent :=
  ⟨fun h => ⟨h.ordered, h.priced, h.settled, h.seen_iff, h.started, h.origin, h.away⟩,
    fun h => ⟨h.ordered, h.priced, h.settled, h.seen_iff, h.started, h.origin, h.away⟩⟩

/-- A run that finds its target has found it already, or makes a round first. -/
theorem runFor_eq_found {fuel : ℕ} {res : SearchResult} (h : (runFor fuel r).2 = .ok res)
    (hfound : res.reason = .found) :
    (r.verdict = .stop .found ∧ (r.finish .found).2 = .ok res) ∨
      ∃ more head rest u, fuel = more + 1 ∧ r.verdict = .expand head rest ∧
        r.step head rest = (u, none) ∧ (runFor more u).2 = .ok res := by
  cases hv : r.verdict with
  | stop reason =>
    rw [runFor_of_stop fuel hv] at h
    obtain rfl : reason = .found := (congrArg SearchResult.reason (Except.ok.inj h)).trans hfound
    exact Or.inl ⟨rfl, h⟩
  | expand head rest =>
    cases fuel with
    | zero =>
      rw [runFor, hv] at h
      cases (congrArg SearchResult.reason (Except.ok.inj h)).trans hfound
    | succ more =>
      rw [runFor_of_expand more hv] at h
      rcases hstep : r.step head rest with ⟨u, _ | fault⟩
      · rw [hstep] at h
        exact Or.inr ⟨more, head, rest, u, rfl, rfl, hstep, h⟩
      · rw [hstep] at h
        cases h

/-- **With smaller bounds the same is found, or one of them is met first.** -/
theorem runFor_truncated (hr : r.Consistent) (hD : r.config.maxDistance ≤ D)
    (hI : r.config.maxIterations ≤ I) {fuel : ℕ} {res : SearchResult} {d : Int}
    (h : (runFor fuel (r.withBounds D I)).2 = .ok res) (hfound : res.reason = .found)
    (hdist : res.distance = some d) :
    ∃ res', (runFor (r.config.maxIterations - r.iterations) r).2 = .ok res' ∧
      Cut r.config.maxDistance r.config.maxIterations d res res' := by
  -- as long as the smaller bounds allow it, both searches make the same round
  induction fuel using Nat.strong_induction_on generalizing r with
  | _ fuel ih =>
    rcases runFor_eq_found h hfound with ⟨hv, hfin⟩ | ⟨more, head, rest, u', hmore, hv, hstep, hrun⟩
    · exact stop_truncated hv hfin hdist _
    · have hr' := consistent_withBounds (D := D) (I := I).2 hr
      have hround : (r.withBounds D I).Round u' := ⟨head, rest, hv, hstep⟩
      have hu' := hround.turns.consistent hr'
      -- what is found later is no nearer than `head`, and takes no fewer expansions
      obtain ⟨d', hd', -, -, hn, hnear⟩ := found_bounds hu' hrun hfound
      cases hd'.symm.trans hdist
      have hhead := hnear head.distance (hr'.near_of_step hv hstep)
      have hlater : r.iterations ≤ res.stats.iterations := hround.turns.iterations_le.trans hn
      obtain ⟨t, hpop, rfl, -, -, haway⟩ := verdict_eq_expand hv
      have hown := (hr'.popped hpop).2
      have hpop' : r.frontier.pop? = some (t, rest) := hpop
      obtain ⟨u, hsmall, rfl⟩ := step_of_withBounds hstep
      rcases below_or_cut hpop' (hown.trans_le hhead) hlater
        (r.config.maxIterations - r.iterations) with ⟨hbelow, hshort⟩ | hcut
      · have hv' : r.verdict = .expand t.item rest := by
          rw [verdict_of_pop hpop', if_neg (by omega), if_neg (by omega)]
          exact if_neg haway
        have hconfig := (Round.turns ⟨t.item, rest, hv', hsmall⟩).sameTask.config
        rw [runFor_of_step hv' hsmall, ← hconfig]
        exact ih more (by omega) (consistent_withBounds.1 hu') (hconfig ▸ hD) (hconfig ▸ hI) hrun
      · exact hcut

/-! ### New searches -/

variable {G : Graph P B F} {start target : P} {calls : List P} {config : Config P}

omit [DecidableEq F] in
theorem create_withBounds (h : create G start target calls config = .ok r) :
    create G start target calls { config with maxDistance := D, maxIterations := I } =
      .ok (r.withBounds D I) := by
  obtain ⟨_, hcheck, hrest⟩ := bind_eq_ok.1 h
  obtain ⟨_, hcalls, haccept⟩ := bind_eq_ok.1 hrest
  have haccept' := accept_withBounds (D := D) (I := I) (blank G start target calls config)
    (blank G start target calls config).start
  rw [haccept] at haccept'
  simp only [create, hcheck, hcalls, bind, Except.bind]
  exact haccept'

/-- A new search has not run before. -/
theorem run_of_create (h : create G start target calls config = .ok r) :
    r.run = runFor (r.config.maxIterations - r.iterations) r := by
  obtain ⟨frontier, seen, rfl, -⟩ := create_eq_ok h
  rfl

end Searcher

section Truncation

variable {P B F : Type} [DecidableEq P] [DecidableEq F] {G : Graph P B F} {start target : P}
  {calls : List P} {cost : StepCost P} {Q D D' I I' : ℕ}

/-- **Bounds only cut a search short.**  With smaller bounds `D` and `I` a search expands a first
part of the states that it expands with larger ones.  A result that is found with the larger bounds
is returned unchanged when its distance and its expansions are below the smaller ones, and only
then; otherwise there is no distance, and one of the two bounds is the reason.  What is found is
below both bounds. -/
theorem bounds_only_truncate (hD : D ≤ D') (hI : I ≤ I') {r : Searcher P B F}
    (hcreate : Searcher.create G start target calls ⟨D, I, Q, cost⟩ = .ok r) :
    ∃ r', Searcher.create G start target calls ⟨D', I', Q, cost⟩ = .ok r' ∧
      r.run.1.trace <+: r'.run.1.trace ∧
      (∀ res', r'.run.2 = .ok res' → res'.reason = .found →
        ∃ d res, res'.distance = some d ∧ r.run.2 = .ok res ∧
          (res = res' ↔ d < D ∧ res'.stats.iterations < I) ∧
          (¬ (d < D ∧ res'.stats.iterations < I) →
            res.distance = none ∧ (res.reason = .distanceBound ∨ res.reason = .iterationBound))) ∧
      ∀ res, r.run.2 = .ok res → res.reason = .found →
        ∃ d, res.distance = some d ∧ d < D ∧ res.stats.iterations < I := by
  have hr := Searcher.create_consistent hcreate
  have hlarge := Searcher.create_withBounds (D := D') (I := I') hcreate
  obtain ⟨-, hconfig, -⟩ := Searcher.create_frame hcreate
  have hrun := Searcher.run_of_create hcreate
  have hrun' := Searcher.run_of_create hlarge
  have hD' : r.config.maxDistance ≤ D' := by rwa [hconfig]
  have hI' : r.config.maxIterations ≤ I' := by rwa [hconfig]
  refine ⟨r.withBounds D' I', hlarge, ?_, fun res' hres' hfound => ?_, fun res hres hfound => ?_⟩
  · have hfuel : r.config.maxIterations - r.iterations ≤
        (r.withBounds D' I').config.maxIterations - (r.withBounds D' I').iterations :=
      Nat.sub_le_sub_right hI' _
    rw [Searcher.trace, Searcher.trace, List.reverse_prefix, hrun, hrun']
    exact Searcher.runFor_expanded_suffix hfuel hD' hI'
  · rw [hrun'] at hres'
    obtain ⟨d, hd, -⟩ :=
      Searcher.found_bounds (Searcher.consistent_withBounds.2 hr) hres' hfound
    obtain ⟨res, hres, hcut⟩ := Searcher.runFor_truncated hr hD' hI' hres' hfound hd
    rw [hconfig] at hcut
    refine ⟨d, res, hd, hrun ▸ hres, ?_⟩
    rcases hcut with ⟨rfl, hbelow⟩ | ⟨hnone, hreason, hnot⟩
    · exact ⟨iff_of_true rfl hbelow, fun hnot => absurd hbelow hnot⟩
    · have hne : res ≠ res' := by
        rintro rfl
        simp [hnone] at hd
      exact ⟨iff_of_false hne hnot, fun _ => ⟨hnone, hreason⟩⟩
  · rw [hrun] at hres
    obtain ⟨d, hd, hnear, hfew, -⟩ := Searcher.found_bounds hr hres hfound
    rw [hconfig] at hnear hfew
    exact ⟨d, hd, hnear, hfew⟩

end Truncation

/-- One expansion less than it takes to find the way through the function and back. -/
theorem bounds_only_truncate_sample :
    ∃ r r' res, Searcher.create Program.sample.graph ⟨"main", "a", 0⟩ ⟨"main", "a", 1⟩ []
        ⟨4, 4, 9, StepCost.uniform 1⟩ = .ok r ∧
      Searcher.create Program.sample.graph ⟨"main", "a", 0⟩ ⟨"main", "a", 1⟩ []
        ⟨4, 5, 9, StepCost.uniform 1⟩ = .ok r' ∧
      r.run.1.trace <+: r'.run.1.trace ∧
      r'.run.2 = .ok ⟨some 3, .found, ⟨4, 1, 1, 0, 2⟩⟩ ∧ r.run.2 = .ok res ∧
      res.distance = none ∧ (res.reason = .distanceBound ∨ res.reason = .iterationBound) := by
  obtain ⟨r, hr, -⟩ := Searcher.run_of_toOption Program.sample.graph ⟨"main", "a", 0⟩
    ⟨"main", "a", 1⟩ [] ⟨4, 4, 9, StepCost.uniform 1⟩ ⟨none, .iterationBound, ⟨4, 1, 1, 0, 2⟩⟩
    (by decide +kernel)
  obtain ⟨u, hu, hfound⟩ := Searcher.run_of_toOption Program.sample.graph ⟨"main", "a", 0⟩
    ⟨"main", "a", 1⟩ [] ⟨4, 5, 9, StepCost.uniform 1⟩ ⟨some 3, .found, ⟨4, 1, 1, 0, 2⟩⟩
    (by decide +kernel)
  obtain ⟨r', hr', htrace, hcut, -⟩ := bounds_only_truncate (le_refl 4) (Nat.le_succ 4) hr
  cases hu.symm.trans hr'
  obtain ⟨d, res, -, hres, -, hnone⟩ := hcut _ hfound rfl
  exact ⟨r, u, res, hr, hu, htrace, hfound, hres, hnone (by simp)⟩

end CallReach
