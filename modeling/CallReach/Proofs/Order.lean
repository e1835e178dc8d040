import CallReach.Proofs.Bounds
import Mathlib.Data.Prod.Lex

/-!
# The order in which states are expanded

Number the states that a search admits in the order in which they come.  A `Searcher.Log` writes
down what happens to the frontier: the states that enter it, the tickets that leave it, and its
lengths.  The place of a state among those admitted is its number.

The states that leave are in the order of their distances, and of two that are equally far the one
with the smaller number leaves first.  The reason is that whatever waits or comes later is behind
what has left: it is no nearer, because steps have no negative cost, and a new state has a greater
number than all before it.

* `Searcher.Logged` : the log of a run; `Searcher.Turns.logged` : every run has one.
* `Searcher.Orderly` : what holds between a search and its log; `Searcher.Logged.orderly` : it holds
  all the time.
* `expanded_in_order` : distances and numbers of expanded states increase, and the state that is
  found is the first of those that wait.
-/

namespace CallReach

namespace Ticket

variable {α : Type} {a b : Ticket α}

theorem before_iff :
    a.before b = true ↔ toLex (a.distance, a.number) < toLex (b.distance, b.number) := by
  simp [before, Prod.Lex.toLex_lt_toLex]

/-- Of two tickets with different numbers one leaves before the other. -/
theorem before_of_not_before (h : b.before a = false) (hne : b.number ≠ a.number) :
    a.before b = true := by
  rw [before_eq_false_iff] at h
  simp only [before, Bool.or_eq_true, Bool.and_eq_true, decide_eq_true_eq, beq_iff_eq]
  omega

end Ticket

namespace Searcher

open scoped List

/-- What happened to the frontier of a search. -/
structure Log (P : Type) where
  /-- The states that were admitted, in order. -/
  admitted : List (State P)
  /-- The tickets that were taken to be expanded, in order. -/
  taken : List (Ticket (State P)) := []
  /-- The lengths that the frontier had, in order. -/
  lengths : List ℕ

/-- The state of a number has been admitted and not been taken. -/
def Log.Pending {P : Type} (log : Log P) (n : ℕ) (s : State P) : Prop :=
  log.admitted[n]? = some s ∧ ∀ t ∈ log.taken, t.number ≠ n

variable {P B F : Type} [DecidableEq P] {r u v : Searcher P B F} {log : Log P}

/-- The log of the turns that lead from a new search to another one. -/
inductive Logged (r : Searcher P B F) : Log P → Searcher P B F → Prop
  /-- The start has been admitted. -/
  | begin : Logged r { admitted := [r.start], lengths := [r.frontier.size] } r
  /-- A ticket is taken. -/
  | take {log : Log P} {u : Searcher P B F} {t : Ticket (State P)} {rest : Frontier (State P)} :
      Logged r log u → u.verdict = .expand t.item rest → u.frontier.pop? = some (t, rest) →
      Logged r { log with taken := log.taken ++ [t], lengths := log.lengths ++ [rest.size] }
        { u with frontier := rest, expanded := t.item :: u.expanded }
  /-- A state is admitted. -/
  | enqueue {log : Log P} {u : Searcher P B F} {s : State P} {frontier : Frontier (State P)}
      {seen : Seen P} : Logged r log u → u.Offers s → u.seen.wasSeen u.graph s = .ok false →
      u.frontier.push? s.distance s = some frontier → u.seen.mark u.graph s = .ok seen →
      Logged r
        { log with admitted := log.admitted ++ [s], lengths := log.lengths ++ [frontier.size] }
        { u with frontier, seen }
  /-- The frontier stays as it is. -/
  | other {log : Log P} {u v : Searcher P B F} : Logged r log u → u.Turn v →
      v.frontier = u.frontier → v.expanded = u.expanded → Logged r log v

theorem Logged.turns (h : r.Logged log u) : r.Turns u := by
  induction h with
  | begin => exact .refl
  | take _ hv _ ih => exact ih.tail (.take hv)
  | enqueue _ ho hnew hpush hmark ih => exact ih.tail (.enqueue ho hnew hpush hmark)
  | other _ ht _ _ ih => exact ih.tail ht

/-- **Every run has a log.** -/
theorem Turns.logged (h : r.Turns u) : ∃ log, r.Logged log u := by
  induction h with
  | refl => exact ⟨_, .begin⟩
  | tail _ ht ih =>
    obtain ⟨log, hlog⟩ := ih
    cases ht with
    | take hv =>
      obtain ⟨t, hpop, rfl, -⟩ := verdict_eq_expand hv
      exact ⟨_, .take hlog hv hpop⟩
    | enqueue ho hnew hpush hmark => exact ⟨_, .enqueue hlog ho hnew hpush hmark⟩
    | duplicate ho hdup => exact ⟨log, .other hlog (.duplicate ho hdup) rfl rfl⟩
    | overflow ho hfull => exact ⟨log, .other hlog (.overflow ho hfull) rfl rfl⟩
    | prune => exact ⟨log, .other hlog .prune rfl rfl⟩
    | count => exact ⟨log, .other hlog .count rfl rfl⟩
    | note => exact ⟨log, .other hlog .note rfl rfl⟩

/-! ### A frontier and its log -/

/-- What holds between a log, the frontier and the states expanded, the last one first. -/
structure Orderly (log : Log P) (q : Frontier (State P)) (expanded : List (State P)) : Prop where
  /-- The number of the next ticket is the number of states admitted. -/
  next : q.next = log.admitted.length
  /-- A ticket has the number of its state, and its distance. -/
  numbered : ∀ t ∈ log.taken ++ q.tickets,
    log.admitted[t.number]? = some t.item ∧ t.distance = t.item.distance
  /-- Every state that was admitted has a ticket. -/
  complete : ∀ n < log.admitted.length, ∃ t ∈ log.taken ++ q.tickets, t.number = n
  /-- No two tickets have the same number. -/
  distinct : ((log.taken ++ q.tickets).map (·.number)).Nodup
  /-- The states of the tickets that were taken have been expanded. -/
  trace : expanded.reverse = log.taken.map (·.item)
  /-- The tickets that were taken left in their order. -/
  ordered : log.taken.Pairwise fun a b => a.before b = true
  /-- They were before all that wait. -/
  ahead : ∀ t ∈ log.taken, ∀ w ∈ q.tickets, t.before w = true
  /-- None of them is farther than the state expanded last. -/
  latest : ∀ head older, expanded = head :: older → ∀ t ∈ log.taken, t.distance ≤ head.distance

section Orderly

omit [DecidableEq P]

variable {q rest : Frontier (State P)} {expanded : List (State P)}

/-- A ticket that is taken is put behind those taken before. -/
theorem Orderly.take (h : Orderly log q expanded) (hord : q.heap.Ordered) {t : Ticket (State P)}
    (hpop : q.pop? = some (t, rest)) :
    Orderly { log with taken := log.taken ++ [t], lengths := log.lengths ++ [rest.size] } rest
      (t.item :: expanded) := by
  obtain ⟨hperm, -⟩ := Frontier.pop?_eq_some hpop
  obtain ⟨-, -, hnext, -⟩ := Frontier.pop?_counts hpop
  have ht : t ∈ q.tickets := hperm.mem_iff.2 List.mem_cons_self
  have hall : log.taken ++ [t] ++ rest.tickets ~ log.taken ++ q.tickets := by
    rw [List.append_assoc]
    exact hperm.symm.append_left _
  have hdistinct : ((log.taken ++ [t] ++ rest.tickets).map (·.number)).Nodup :=
    ((hall.map _).nodup_iff).2 h.distinct
  refine ⟨hnext.trans h.next, fun w hw => h.numbered w (hall.mem_iff.1 hw), fun n hn => ?_,
    hdistinct, by simp [h.trace], ?_, ?_, ?_⟩
  · obtain ⟨w, hw, hnumber⟩ := h.complete n hn
    exact ⟨w, hall.mem_iff.2 hw, hnumber⟩
  · refine List.pairwise_append.2 ⟨h.ordered, List.pairwise_singleton _ _, fun a ha b hb => ?_⟩
    rw [List.mem_singleton.1 hb]
    exact h.ahead a ha t ht
  · intro a ha w hw
    have hw' : w ∈ q.tickets := hperm.mem_iff.2 (List.mem_cons_of_mem _ hw)
    rcases List.mem_append.1 ha with ha | ha
    · exact h.ahead a ha w hw'
    · -- what is left behind does not leave before `t`, and has another number
      rw [List.mem_singleton.1 ha]
      refine Ticket.before_of_not_before ((Frontier.pop_least hord hpop).1 w hw') fun hsame => ?_
      rw [List.append_assoc, List.map_append, List.singleton_append, List.map_cons] at hdistinct
      have hfresh := (List.nodup_cons.1 (List.nodup_append.1 hdistinct).2.1).1
      exact hfresh (hsame ▸ List.mem_map_of_mem hw)
  · rintro _ _ ⟨⟩ a ha
    rw [← (h.numbered t (List.mem_append_right _ ht)).2]
    rcases List.mem_append.1 ha with ha | ha
    · exact Ticket.distance_le_of_not_before (Ticket.not_before_of_before (h.ahead a ha t ht))
    · rw [List.mem_singleton.1 ha]

/-- A state that is admitted gets the next number.  When it is no nearer than the state expanded
last, it is behind all that have been taken. -/
theorem Orderly.enqueue (h : Orderly log q expanded) {s head : State P} {older : List (State P)}
    (he : expanded = head :: older) (hle : head.distance ≤ s.distance)
    (hpush : q.push? s.distance s = some rest) :
    Orderly { log with admitted := log.admitted ++ [s], lengths := log.lengths ++ [rest.size] }
      rest expanded := by
  obtain ⟨hperm, -⟩ := Frontier.push?_eq_some hpush
  obtain ⟨-, -, -, hnext, -⟩ := Frontier.push?_counts hpush
  have hall : log.taken ++ rest.tickets ~ ⟨s.distance, q.next, s⟩ :: (log.taken ++ q.tickets) :=
    (hperm.append_left _).trans List.perm_middle
  -- the numbers given so far are smaller than the new one
  have hbelow : ∀ t ∈ log.taken ++ q.tickets, t.number < q.next := by
    intro t ht
    rw [h.next]
    exact (List.getElem?_eq_some_iff.1 (h.numbered t ht).1).1
  refine ⟨by simp [hnext, h.next], fun t ht => ?_, fun n hn => ?_, ?_, h.trace, h.ordered, ?_,
    h.latest⟩
  · rcases List.mem_cons.1 (hall.mem_iff.1 ht) with rfl | ht
    · simp [h.next]
    · rw [List.getElem?_append_left (h.next ▸ hbelow t ht)]
      exact h.numbered t ht
  · rw [List.length_append, List.length_singleton] at hn
    by_cases hlast : n = log.admitted.length
    · exact ⟨_, hall.mem_iff.2 List.mem_cons_self, h.next.trans hlast.symm⟩
    · obtain ⟨t, ht, hnumber⟩ := h.complete n (by omega)
      exact ⟨t, hall.mem_iff.2 (List.mem_cons_of_mem _ ht), hnumber⟩
  · rw [(hall.map _).nodup_iff, List.map_cons, List.nodup_cons]
    refine ⟨fun hmem => ?_, h.distinct⟩
    obtain ⟨t, ht, hnumber⟩ := List.mem_map.1 hmem
    exact absurd hnumber (hbelow t ht).ne
  · intro t ht w hw
    rcases List.mem_cons.1 (hperm.mem_iff.1 hw) with rfl | hw
    · have hfar := h.latest head older he t ht
      have hlt := hbelow t (List.mem_append_left _ ht)
      refine Ticket.before_of_not_before (Ticket.before_eq_false_iff.2 ?_) hlt.ne'
      show t.distance < s.distance ∨ t.distance = s.distance ∧ t.number ≤ q.next
      omega
    · exact h.ahead t ht w hw

/-- The tickets that wait are those of the pending states. -/
theorem Orderly.pending_iff (h : Orderly log q expanded) {n : ℕ} {s : State P} :
    log.Pending n s ↔ ∃ t ∈ q.tickets, t.number = n ∧ t.item = s := by
  constructor
  · rintro ⟨hs, htaken⟩
    obtain ⟨t, ht, rfl⟩ := h.complete n (List.getElem?_eq_some_iff.1 hs).1
    have hitem : t.item = s := Option.some.inj ((h.numbered t ht).1.symm.trans hs)
    rcases List.mem_append.1 ht with ht | ht
    · exact absurd rfl (htaken t ht)
    · exact ⟨t, ht, rfl, hitem⟩
  · rintro ⟨t, ht, rfl, rfl⟩
    refine ⟨(h.numbered t (List.mem_append_right _ ht)).1, fun w hw hsame => ?_⟩
    have hdistinct := h.distinct
    rw [List.map_append] at hdistinct
    exact (List.nodup_append.1 hdistinct).2.2 _ (List.mem_map_of_mem hw) _
      (List.mem_map_of_mem ht) hsame

/-- The ticket that is taken next is that of the first of the pending states. -/
theorem Orderly.first (h : Orderly log q expanded) (hord : q.heap.Ordered) {t : Ticket (State P)}
    (hpop : q.pop? = some (t, rest)) :
    log.Pending t.number t.item ∧ ∀ m s, log.Pending m s → m ≠ t.number →
      toLex (t.item.distance, t.number) < toLex (s.distance, m) := by
  have ht : t ∈ q.tickets := (Frontier.pop?_eq_some hpop).1.mem_iff.2 List.mem_cons_self
  refine ⟨h.pending_iff.2 ⟨t, ht, rfl, rfl⟩, fun m s hm hne => ?_⟩
  obtain ⟨w, hw, rfl, rfl⟩ := h.pending_iff.1 hm
  have hbefore := Ticket.before_of_not_before ((Frontier.pop_least hord hpop).1 w hw) hne
  rw [Ticket.before_iff, (h.numbered t (List.mem_append_right _ ht)).2,
    (h.numbered w (List.mem_append_right _ hw)).2] at hbefore
  exact hbefore

end Orderly

/-! ### Runs -/

/-- **A search agrees with its log all the time.** -/
theorem Logged.orderly (hr : r.Consistent) (hbegin : Orderly
    { admitted := [r.start], lengths := [r.frontier.size] } r.frontier r.expanded)
    (h : r.Logged log u) : Orderly log u.frontier u.expanded := by
  induction h with
  | begin => exact hbegin
  | take hlog _ hpop ih => exact ih.take (hlog.turns.consistent hr).ordered hpop
  | enqueue _ ho _ hpush _ ih =>
    obtain ⟨head, older, he, hle⟩ := ho.distance_ge
    exact ih.enqueue he hle hpush
  | other _ _ hfrontier hexpanded ih =>
    rw [hfrontier, hexpanded]
    exact ih

theorem create_orderly {G : Graph P B F} {start target : P} {calls : List P} {config : Config P}
    (h : create G start target calls config = .ok r) :
    Orderly { admitted := [r.start], lengths := [r.frontier.size] } r.frontier r.expanded := by
  obtain ⟨frontier, seen, rfl, hpush, -⟩ := create_eq_ok h
  obtain ⟨hperm, -⟩ := Frontier.push?_eq_some hpush
  obtain ⟨-, -, -, hnext, -⟩ := Frontier.push?_counts hpush
  have htickets : frontier.tickets = [⟨0, 0, ⟨start, 0, .ofCalls calls⟩⟩] :=
    List.perm_singleton.1 hperm
  refine ⟨hnext, ?_, ?_, ?_, rfl, .nil, by simp, by simp⟩
  · simp [htickets, blank]
  · simp [htickets]
  · simp [htickets]

variable [DecidableEq F]

/-- A run that finds its target ends with a ticket for it that would be taken next. -/
theorem runFor_found {fuel : ℕ} {res : SearchResult} (h : (runFor fuel r).2 = .ok res)
    (hfound : res.reason = .found) :
    ∃ t rest, (runFor fuel r).1.frontier.pop? = some (t, rest) ∧ t.item.position = r.target ∧
      res.distance = some t.distance := by
  induction fuel using Nat.strong_induction_on generalizing r with
  | _ fuel ih =>
    rcases runFor_eq_found h hfound with ⟨hv, hfin⟩ | ⟨more, head, rest, e, hmore, hv, hstep, hrun⟩
    · obtain ⟨t, rest, hpop, -, -, htarget⟩ := verdict_eq_found hv
      rw [runFor_of_stop fuel hv]
      refine ⟨t, rest, hpop, htarget, ?_⟩
      rw [← Except.ok.inj hfin]
      simp [Frontier.minDistance?, (Frontier.pop?_eq_some hpop).2]
    · have htask := (Round.turns ⟨head, rest, hv, hstep⟩).sameTask
      have hend : runFor fuel r = runFor more e := by rw [hmore, runFor_of_expand more hv, hstep]
      rw [hend, ← htask.target]
      exact ih more (by omega) hrun

end Searcher

section Order

variable {P B F : Type} [DecidableEq P] [DecidableEq F] {G : Graph P B F} {start target : P}
  {calls : List P} {config : Config P} {r : Searcher P B F}

/-- **States are expanded in the order of their distances, and first come, first served.**  Every
run has a log, in which the states that are admitted are numbered 0, 1, 2, … as they come.  At every
moment `u`, distances and numbers of the states expanded so far strictly increase in lexicographic
order.  So distances never decrease, states at the same distance leave in the order in which they
came, and no number is expanded twice.  The state that is found is the first of those pending at the
end. -/
theorem expanded_in_order (hcreate : Searcher.create G start target calls config = .ok r) :
    (∃ log, r.Logged log r.run.1) ∧
    ∀ log u, r.Logged log u →
      u.trace = log.taken.map (·.item) ∧
      (∀ t ∈ log.taken, log.admitted[t.number]? = some t.item) ∧
      (log.taken.Pairwise fun a b =>
        toLex (a.item.distance, a.number) < toLex (b.item.distance, b.number)) ∧
      (u.trace.Pairwise fun a b => a.distance ≤ b.distance) ∧
      (log.taken.Pairwise fun a b => a.item.distance = b.item.distance → a.number < b.number) ∧
      (log.taken.map (·.number)).Nodup ∧
      ∀ res, u = r.run.1 → r.run.2 = .ok res → res.reason = .found →
        ∃ n s, log.Pending n s ∧ s.position = target ∧ res.distance = some s.distance ∧
          ∀ m s', log.Pending m s' → m ≠ n →
            toLex (s.distance, n) < toLex (s'.distance, m) := by
  have hr := Searcher.create_consistent hcreate
  have hrun := Searcher.run_of_create hcreate
  refine ⟨?_, fun log u hlog => ?_⟩
  · rw [hrun]
    exact (Searcher.runFor_turns _ r).logged
  have ho := hlog.orderly hr (Searcher.create_orderly hcreate)
  have hlex : log.taken.Pairwise fun a b =>
      toLex (a.item.distance, a.number) < toLex (b.item.distance, b.number) := by
    refine ho.ordered.imp_of_mem fun {a b} ha hb hab => ?_
    rw [Ticket.before_iff, (ho.numbered a (List.mem_append_left _ ha)).2,
      (ho.numbered b (List.mem_append_left _ hb)).2] at hab
    exact hab
  refine ⟨ho.trace, fun t ht => (ho.numbered t (List.mem_append_left _ ht)).1, hlex, ?_, ?_, ?_,
    fun res hu hres hfound => ?_⟩
  · rw [Searcher.trace, ho.trace, List.pairwise_map]
    refine hlex.imp fun hab => ?_
    rcases Prod.Lex.toLex_lt_toLex.1 hab with hlt | ⟨heq, -⟩
    · exact hlt.le
    · exact heq.le
  · refine hlex.imp fun hab heq => ?_
    rcases Prod.Lex.toLex_lt_toLex.1 hab with hlt | ⟨-, hlt⟩
    · exact absurd heq hlt.ne
    · exact hlt
  · have hdistinct := ho.distinct
    rw [List.map_append] at hdistinct
    exact (List.nodup_append.1 hdistinct).1
  · rw [hrun] at hres hu
    obtain ⟨t, rest, hpop, htarget, hdistance⟩ := Searcher.runFor_found hres hfound
    rw [← hu] at hpop
    have hconsistent := hlog.turns.consistent hr
    obtain ⟨hpending, hfirst⟩ := ho.first hconsistent.ordered hpop
    rw [(hconsistent.popped hpop).2] at hdistance
    rw [(Searcher.create_frame hcreate).2.2.2.1] at htarget
    exact ⟨t.number, t.item, hpending, htarget, hdistance, hfirst⟩

end Order

/-- No step costs anything, and the frontier holds one state: of the two ways from `mid` the second
one is dropped.  The first one leads back to the caller. -/
theorem expanded_in_order_detour :
    ∃ r log, Searcher.create Program.detour.graph ⟨"f", "mid", 0⟩ ⟨"main", "a", 1⟩
        [⟨"main", "a", 0⟩] ⟨9, 9, 0, StepCost.uniform 0⟩ = .ok r ∧
      r.run.2 = .ok ⟨some 0, .found, ⟨2, 0, 0, 1, 1⟩⟩ ∧ r.Logged log r.run.1 ∧
      r.run.1.trace = log.taken.map (·.item) ∧
      (log.taken.Pairwise fun a b =>
        toLex (a.item.distance, a.number) < toLex (b.item.distance, b.number)) ∧
      ∃ n s, log.Pending n s ∧ s.position = ⟨"main", "a", 1⟩ ∧ s.distance = 0 := by
  obtain ⟨r, hr, hrun⟩ := Searcher.run_of_toOption Program.detour.graph ⟨"f", "mid", 0⟩
    ⟨"main", "a", 1⟩ [⟨"main", "a", 0⟩] ⟨9, 9, 0, StepCost.uniform 0⟩
    ⟨some 0, .found, ⟨2, 0, 0, 1, 1⟩⟩ (by decide +kernel)
  obtain ⟨⟨log, hlog⟩, horder⟩ := expanded_in_order hr
  obtain ⟨htrace, -, hlex, -, -, -, hfound⟩ := horder log _ hlog
  obtain ⟨n, s, hpending, htarget, hdistance, -⟩ := hfound _ rfl hrun rfl
  refine ⟨r, log, hr, hrun, hlog, htrace, hlex, n, s, hpending, htarget, ?_⟩
  exact (Option.some.inj hdistance).symm

end CallReach
