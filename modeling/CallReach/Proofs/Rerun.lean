import CallReach.Proofs.Exactness

/-!
# Running a search again

A run that returns notes its result, and a search with a result refuses to run.  A fault is not
noted: the next run goes on with the states that still wait.  The state that was being expanded does
not wait any more, so the steps that it had not made when the fault came are never made.

* `Searcher.afterRuns`, `Searcher.answer` : what runs in a row make of a search, and their answers.
* `Searcher.Interrupted` : what a fault leaves behind; `Searcher.runFor_interrupted` : every fault of a
  run leaves that behind.
* `Searcher.Unfinished` : a search that has met some faults and has no result.
* `run_again` : a run after one that returned is refused and changes nothing; a run after runs that
  all met faults goes on from the last of them.
* `result_after_fault` : such a run can return, and be wrong.
-/

namespace CallReach

/-- What it costs to leave a position, and nothing where the cost does not answer. -/
def Config.price {P : Type} (c : Config P) (p : P) : ℕ :=
  match c.cost p with
  | .ok n => n
  | .error _ => 0

namespace Searcher

variable {P B F : Type} [DecidableEq P] [DecidableEq F] {r e : Searcher P B F} {fault : Fault}
  {res : SearchResult}

/-- A search after a number of runs in a row. -/
def afterRuns (r : Searcher P B F) : ℕ → Searcher P B F
  | 0 => r
  | n + 1 => (r.afterRuns n).run.1

/-- The answer of the run that comes after `n` others. -/
def answer (r : Searcher P B F) (n : ℕ) : Except Fault SearchResult := (r.afterRuns n).run.2

/-- A fault came while a state was expanded, after some expansions without one.  The state has left
the frontier. -/
def Interrupted (r e : Searcher P B F) (fault : Fault) : Prop :=
  ∃ u head rest, Relation.ReflTransGen Round r u ∧ u.verdict = .expand head rest ∧
    u.step head rest = (e, some fault)

/-! ### One run -/

/-- A search with a result refuses to run. -/
theorem run_of_result (h : r.result = some res) : r.run = (r, .error .alreadyRun) := by
  rw [run, h]

theorem run_of_no_result (h : r.result = none) :
    r.run = runFor (r.config.maxIterations - r.iterations) r := by
  rw [run, h]

/-- A run that returns notes its result. -/
theorem runFor_result {fuel : ℕ} (h : runFor fuel r = (e, .ok res)) : e.result = some res := by
  induction fuel generalizing r with
  | zero =>
    unfold runFor at h
    split at h <;> cases h <;> rfl
  | succ fuel ih =>
    unfold runFor at h
    split at h
    · cases h
      rfl
    · simp only at h
      split at h
      · exact ih h
      · cases h

/-- **A run that meets a fault is interrupted in an expansion.** -/
theorem runFor_interrupted {fuel : ℕ} (h : runFor fuel r = (e, .error fault)) :
    r.Interrupted e fault := by
  induction fuel generalizing r with
  | zero =>
    unfold runFor at h
    split at h <;> cases h
  | succ fuel ih =>
    unfold runFor at h
    split at h
    · cases h
    · rename_i head rest hv
      simp only at h
      split at h
      · rename_i u hu
        obtain ⟨v, head', rest', hrounds, hv', hstep⟩ := ih h
        exact ⟨v, head', rest', .head ⟨head, rest, hv, hu⟩ hrounds, hv', hstep⟩
      · rename_i u fault' hu
        cases h
        exact ⟨r, head, rest, .refl, hv, hu⟩

/-! ### Searches that have met faults -/

/-- A search has met `n` faults and has no result: each fault has left one state that was taken to
be expanded and was not counted. -/
structure Unfinished (r : Searcher P B F) (n : ℕ) : Prop where
  unnoted : r.result = none
  uncounted : r.expanded.length = r.iterations + n

variable {n : ℕ}

/-- An expansion is counted when it meets no fault. -/
theorem Unfinished.step {head : State P} {rest : Frontier (State P)} {cause : Option Fault}
    (hr : r.Unfinished n) (h : r.step head rest = (e, cause)) :
    e.Unfinished (if cause.isNone then n else n + 1) := by
  obtain ⟨hunnoted, huncounted⟩ := hr
  -- whatever happens in the expansion, its state has been taken and the count is still the old one
  obtain ⟨_, _, _, _, _, hframe, -⟩ :=
    expandState_frame { r with frontier := rest, expanded := head :: r.expanded } head
  unfold Searcher.step at h
  split at h
  · rename_i u hu
    obtain rfl : u = _ := (congrArg Prod.fst hu).symm.trans hframe
    cases h
    refine ⟨hunnoted, ?_⟩
    show (head :: r.expanded).length = r.iterations + 1 + n
    rw [List.length_cons]
    omega
  · rename_i u fault hu
    obtain rfl : u = _ := (congrArg Prod.fst hu).symm.trans hframe
    cases h
    refine ⟨hunnoted, ?_⟩
    show (head :: r.expanded).length = r.iterations + (n + 1)
    rw [List.length_cons]
    omega

theorem Unfinished.rounds (hr : r.Unfinished n) (h : Relation.ReflTransGen Round r e) :
    e.Unfinished n := by
  induction h with
  | refl => exact hr
  | tail _ hround ih =>
    obtain ⟨head, rest, -, hstep⟩ := hround
    exact ih.step hstep

/-- An interruption is one more fault. -/
theorem Unfinished.interrupted (hr : r.Unfinished n) (h : r.Interrupted e fault) :
    e.Unfinished (n + 1) := by
  obtain ⟨u, head, rest, hrounds, -, hstep⟩ := h
  exact (hr.rounds hrounds).step hstep

omit [DecidableEq F] in
theorem create_unfinished {G : Graph P B F} {start target : P} {calls : List P}
    {config : Config P} (h : create G start target calls config = .ok r) : r.Unfinished 0 := by
  obtain ⟨frontier, seen, rfl, -⟩ := create_eq_ok h
  exact ⟨rfl, rfl⟩

/-! ### Runs in a row -/

theorem afterRuns_turns (r : Searcher P B F) (n : ℕ) : r.Turns (r.afterRuns n) := by
  induction n with
  | zero => exact .refl
  | succ n ih =>
    refine ih.trans ?_
    rw [afterRuns, run]
    split
    · exact .refl
    · exact runFor_turns _ _

/-- A search that has a result stays as it is. -/
theorem afterRuns_of_result {k : ℕ} (h : (r.afterRuns k).result = some res) (hk : k ≤ n) :
    r.afterRuns n = r.afterRuns k := by
  induction n, hk using Nat.le_induction with
  | base => rfl
  | succ n _ ih => rw [afterRuns, ih, run_of_result h]

/-- A run that returned has noted its result. -/
theorem result_of_answer (h : r.answer n = .ok res) :
    (r.afterRuns (n + 1)).result = some res := by
  have hrun : (r.afterRuns n).run = (r.afterRuns (n + 1), .ok res) := Prod.ext rfl h
  cases hresult : (r.afterRuns n).result with
  | none => exact runFor_result ((run_of_no_result hresult).symm.trans hrun)
  | some old =>
    -- a search that has a result already does not answer with one
    rw [run_of_result hresult] at hrun
    cases congrArg Prod.snd hrun

/-- Without a result, a run that answers with a fault was interrupted by it. -/
theorem interrupted_of_answer (hnone : (r.afterRuns n).result = none)
    (h : r.answer n = .error fault) : (r.afterRuns n).Interrupted (r.afterRuns (n + 1)) fault :=
  runFor_interrupted ((run_of_no_result hnone).symm.trans (Prod.ext rfl h))

theorem Unfinished.afterRuns (hr : r.Unfinished 0)
    (h : ∀ k < n, ∃ fault, r.answer k = .error fault) : (r.afterRuns n).Unfinished n := by
  induction n with
  | zero => exact hr
  | succ n ih =>
    have hn := ih fun k hk => h k (Nat.lt_succ_of_lt hk)
    obtain ⟨fault, hfault⟩ := h n (Nat.lt_succ_self n)
    exact hn.interrupted (interrupted_of_answer hn.unnoted hfault)

/-! ### What a later run finds -/

/-- A distance that is found, by whichever run, is the cost of some way to the target. -/
theorem found_of_turns {G : Graph P B F} {start target : P} {calls : List P} {config : Config P}
    (hcreate : create G start target calls config = .ok r) (hturns : r.Turns e)
    (hrun : e.run.2 = .ok res) (hfound : res.reason = .found) :
    ∃ m ∈ G.costsTo config.price ⟨start, .ofCalls calls⟩ target, res.distance = some (m : Int) := by
  obtain ⟨u, hrounds, hfinish, hend⟩ := runFor_rounds (run_eq_ok hrun)
  obtain ⟨hgraph, hconfig, hstart, htarget, -⟩ := create_frame hcreate
  have hu : r.Turns u := hturns.trans (turns_of_rounds hrounds)
  have hprice : ∀ p n, r.config.cost p = .ok n → n = config.price p := by
    intro p n hn
    rw [Config.price, ← hconfig, hn]
  have hv := hend.resolve_right (by simp [hfound])
  rw [hfound] at hv hfinish
  -- the invariants of a run hold across faults, since these are sequences of turns as well
  obtain ⟨s, hs, hposition, hdistance, -⟩ :=
    (hu.consistent (create_consistent hcreate)).found hv hfinish
  obtain ⟨ks, hwalk, hcost, -⟩ := hu.traced hprice (create_traced config.price hcreate) s (Or.inr hs)
  rw [hu.sameTask.graph, hu.sameTask.start, hgraph, hstart] at hwalk
  rw [hu.sameTask.target, htarget] at hposition
  exact ⟨cost config.price ks, ⟨ks, s.stack, hposition ▸ hwalk, rfl⟩, hcost ▸ hdistance⟩

end Searcher

section RunAgain

variable {P B F : Type} [DecidableEq P] [DecidableEq F]

/-- **What a run does after other runs.**  On any graph, consistent or not, from any start inside
any calls, at any costs and within any bounds:

* a run after one that returned a result is refused, and leaves the search exactly as it is;
* a run after runs that all met faults is not refused.  It goes on from where the last of them
  stopped, which was in the middle of an expansion; each of them has taken one state that it did not
  count.  It may return, and then a distance that it has found is the cost of some way to the
  target. -/
theorem run_again {G : Graph P B F} {start target : P} {calls : List P} {config : Config P}
    {r : Searcher P B F} (hcreate : Searcher.create G start target calls config = .ok r) (n : ℕ) :
    (∀ k < n, ∀ res, r.answer k = .ok res →
      (r.afterRuns n).run = (r.afterRuns n, .error .alreadyRun)) ∧
    ((∀ k < n, ∃ fault, r.answer k = .error fault) →
      (r.afterRuns n).run = Searcher.runFor
        (config.maxIterations - (r.afterRuns n).iterations) (r.afterRuns n) ∧
      (r.afterRuns n).expanded.length = (r.afterRuns n).iterations + n ∧
      (∀ fault, r.answer n = .error fault →
        (r.afterRuns n).Interrupted (r.afterRuns (n + 1)) fault) ∧
      ∀ res, r.answer n = .ok res → res.reason = .found →
        ∃ m ∈ G.costsTo config.price ⟨start, .ofCalls calls⟩ target,
          res.distance = some (m : Int)) := by
  refine ⟨fun k hk res hres => ?_, fun hfaults => ?_⟩
  · have hnoted := Searcher.result_of_answer hres
    rw [Searcher.afterRuns_of_result hnoted hk]
    exact Searcher.run_of_result hnoted
  · obtain ⟨hunnoted, huncounted⟩ := (Searcher.create_unfinished hcreate).afterRuns hfaults
    have hturns := r.afterRuns_turns n
    have hrun := Searcher.run_of_no_result hunnoted
    rw [hturns.sameTask.config, (Searcher.create_frame hcreate).2.1] at hrun
    refine ⟨hrun, huncounted, ?_, ?_⟩
    · intro fault hfault
      exact Searcher.interrupted_of_answer hunnoted hfault
    · intro res hres hfound
      exact Searcher.found_of_turns hcreate hturns hres hfound

end RunAgain

/-! ### A branch to a block without instructions -/

/-- A function that branches to a block without instructions and to one that returns. -/
def Program.gap : Program where
  name := "<module>"
  functions := [
    { name := "main", entry := some "top", blocks := [
      { name := "top", instructions := [
        { opcode := "br", kind := .terminator, text := "br gap out", targets := ["gap", "out"] }] },
      { name := "gap" },
      { name := "out", instructions := [{ opcode := "ret", kind := .ret, text := "ret" }] }] }]

/-- The search through `Program.gap` for the return. -/
def Program.gapSearch : Except Fault (Searcher Position BlockName String) :=
  Searcher.create Program.gap.graph ⟨"main", "top", 0⟩ ⟨"main", "out", 0⟩ [] {}

/-- The first run meets the fault, the second one returns. -/
theorem Program.gap_answers : ∃ r, Program.gapSearch = .ok r ∧
    r.answer 0 = .error (.emptyBlock "BasicBlock(main:gap, 0 instructions)") ∧
    r.answer 1 = .ok ⟨none, .exhausted, ⟨0, 0, 0, 0, 1⟩⟩ := by
  have hanswers : (Program.gapSearch.map fun r => (r.answer 0, r.answer 1)) =
      .ok (.error (.emptyBlock "BasicBlock(main:gap, 0 instructions)"),
        .ok ⟨none, .exhausted, ⟨0, 0, 0, 0, 1⟩⟩) := by
    decide +kernel
  cases hr : Program.gapSearch with
  | error fault => simp [hr, Except.map] at hanswers
  | ok r =>
    simp only [hr, Except.map, Except.ok.injEq, Prod.mk.injEq] at hanswers
    exact ⟨r, rfl, hanswers⟩

/-- The run after the fault goes on without the state that was being expanded; the third run is
refused, since the second one returned. -/
theorem run_again_gap : ∃ r, Program.gapSearch = .ok r ∧
    (∃ fault, (r.afterRuns 0).Interrupted (r.afterRuns 1) fault) ∧
    (r.afterRuns 1).expanded.length = (r.afterRuns 1).iterations + 1 ∧
    (r.afterRuns 2).run = (r.afterRuns 2, .error .alreadyRun) := by
  obtain ⟨r, hr, hfault, hresult⟩ := Program.gap_answers
  have hfaults : ∀ k < 1, ∃ fault, r.answer k = .error fault := by
    intro k hk
    obtain rfl : k = 0 := Nat.lt_one_iff.1 hk
    exact ⟨_, hfault⟩
  exact ⟨r, hr, ⟨_, ((run_again hr 0).2 (by simp)).2.2.1 _ hfault⟩,
    ((run_again hr 1).2 hfaults).2.1, (run_again hr 2).1 1 (by omega) _ hresult⟩

/-- **A run after a fault can return, and be wrong.**  The first run meets the block without
instructions while it expands the branch; the second one finds nothing left to expand and reports
that the target cannot be reached, although the branch leads to it. -/
theorem result_after_fault : ∃ r, Program.gapSearch = .ok r ∧
    (∃ fault, r.answer 0 = .error fault) ∧
    (∃ res, r.answer 1 = .ok res ∧ res.reason = .exhausted) ∧
    Program.gap.graph.GuardedStep ⟨⟨"main", "top", 0⟩, {}⟩ ⟨⟨"main", "out", 0⟩, {}⟩ := by
  obtain ⟨r, hr, hfault, hresult⟩ := Program.gap_answers
  refine ⟨r, hr, ⟨_, hfault⟩, ⟨_, hresult, rfl⟩, ?_⟩
  exact .branch (b := ⟨"main", "top"⟩) (t := ⟨"main", "out"⟩) rfl rfl (by decide) rfl

end CallReach
