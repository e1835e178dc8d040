import CallReach.Proofs.Order

/-!
# What the duplicate filter remembers

A state is marked in the filter when the frontier has taken it, not before.  So the filter holds the
keys of the block entries that were admitted, each of them once, and a state that finds the frontier
full leaves no mark: when its key comes again and there is room, it is admitted.

* `Log.entries` : the keys of the block entries that were admitted.
* `Searcher.Remembers` : what holds between these keys and the filter; `Searcher.Logged.remembers` :
  it holds all the time.
* `CallStack.Built` : the calls that a stack holds, however it was built.
* `filter_remembers_admitted` : the contents of the filter over whole runs, and what makes two keys
  the same.
-/

namespace CallReach

/-! ### Stacks and keys -/

namespace CallStack

variable {P : Type} {s : CallStack P} {cs : List P}

/-- A stack that was built step by step, and the calls that it should hold then, the outermost
first. -/
inductive Built : CallStack P → List P → Prop
  /-- A stack from its calls. -/
  | ofCalls (cs : List P) : Built (.ofCalls cs) cs
  /-- One more call. -/
  | push {s : CallStack P} {cs : List P} (call : P) : Built s cs → Built (s.push call) (cs ++ [call])
  /-- One call less. -/
  | pop {s rest : CallStack P} {cs : List P} {call : P} : Built s cs → s.pop = .ok (call, rest) →
      Built rest cs.dropLast

/-- A stack holds the calls that it was built from. -/
theorem Built.calls_eq (h : s.Built cs) : s.calls = cs := by
  induction h with
  | ofCalls cs => simp [calls, CallStack.ofCalls]
  | push call _ ih => simp [← ih, calls, CallStack.push]
  | @pop s rest cs call _ hpop ih =>
    obtain ⟨_ | ⟨top, below⟩⟩ := s
    · cases hpop
    · cases hpop
      simp [← ih, calls]

theorem calls_injective : Function.Injective (calls : CallStack P → List P) := by
  rintro ⟨a⟩ ⟨b⟩ h
  exact congrArg CallStack.mk (List.reverse_injective h)

end CallStack

theorem State.key_eq_iff {P : Type} {a b : State P} :
    a.key = b.key ↔ a.position = b.position ∧ a.stack.calls = b.stack.calls := by
  rw [State.key, State.key, Key.mk.injEq, CallStack.calls_injective.eq_iff]

/-! ### The filter -/

namespace Seen

variable {P B F : Type} [DecidableEq P] {G : Graph P B F} {seen seen' : Seen P} {s : State P}

theorem wasSeen_eq_false : seen.wasSeen G s = .ok false ↔ G.isBlockEntry s.position = .ok false ∨
    G.isBlockEntry s.position = .ok true ∧ seen.contains G.slot s.key = false := by
  unfold wasSeen
  rcases G.isBlockEntry s.position with _ | _ | _ <;> simp [bind, Except.bind, pure, Except.pure]

theorem size_insert {slot : P → ℕ} {k : Key P} (h : seen.contains slot k = false) :
    (seen.insert slot k).size = seen.size + 1 := by
  simp [Seen.insert, h]

/-- What is not seen is marked when it is at a block entry, and else leaves no mark. -/
theorem mark_of_new (h : seen.wasSeen G s = .ok false) (hmark : seen.mark G s = .ok seen') :
    (G.isBlockEntry s.position = .ok false ∧ seen' = seen) ∨
    (G.isBlockEntry s.position = .ok true ∧ seen.contains G.slot s.key = false ∧
      seen' = seen.insert G.slot s.key) := by
  unfold mark at hmark
  rcases wasSeen_eq_false.1 h with hentry | ⟨hentry, hnew⟩
  · rw [hentry] at hmark
    exact Or.inl ⟨hentry, (Except.ok.inj hmark).symm⟩
  · rw [hentry] at hmark
    exact Or.inr ⟨hentry, hnew, (Except.ok.inj hmark).symm⟩

end Seen

namespace Searcher

variable {P B F : Type} {G : Graph P B F}

/-- Whether a state is at the first position of a block. -/
def entersBlock (G : Graph P B F) (s : State P) : Bool :=
  match G.isBlockEntry s.position with
  | .ok entry => entry
  | .error _ => false

theorem entersBlock_iff {s : State P} :
    entersBlock G s = true ↔ G.isBlockEntry s.position = .ok true := by
  unfold entersBlock
  rcases G.isBlockEntry s.position with _ | _ | _ <;> simp

/-- The keys of the states at block entries that were admitted, in order. -/
def Log.entries (log : Log P) (G : Graph P B F) : List (Key P) :=
  (log.admitted.filter (entersBlock G)).map State.key

theorem Log.mem_entries {log : Log P} {k : Key P} : k ∈ log.entries G ↔
    ∃ s ∈ log.admitted, s.key = k ∧ G.isBlockEntry s.position = .ok true := by
  simp only [Log.entries, List.mem_map, List.mem_filter, entersBlock_iff]
  constructor
  · rintro ⟨s, ⟨hs, hentry⟩, hk⟩
    exact ⟨s, hs, hk, hentry⟩
  · rintro ⟨s, hs, hk, hentry⟩
    exact ⟨s, ⟨hs, hentry⟩, hk⟩

variable [DecidableEq P] {log : Log P} {seen seen' : Seen P} {s : State P}
  {r u v e : Searcher P B F}

/-- The filter holds the keys of the block entries that were admitted, each of them once. -/
structure Remembers (G : Graph P B F) (entries : List (Key P)) (seen : Seen P) : Prop where
  holds : ∀ k, seen.contains G.slot k = true ↔ k ∈ entries
  distinct : entries.Nodup
  size : seen.size = entries.length

theorem Remembers.empty : Remembers G [] {} :=
  ⟨fun k => by simp [Seen.contains_empty], List.nodup_nil, rfl⟩

/-- A state that is admitted and marked is remembered. -/
theorem Remembers.mark (h : Remembers G (log.entries G) seen)
    (hnew : seen.wasSeen G s = .ok false) (hmark : seen.mark G s = .ok seen') (lengths : List ℕ) :
    Remembers G (Log.entries { log with admitted := log.admitted ++ [s], lengths } G) seen' := by
  rcases Seen.mark_of_new hnew hmark with ⟨hentry, rfl⟩ | ⟨hentry, hfresh, rfl⟩
  · have hs : entersBlock G s = false := by simp [entersBlock, hentry]
    simpa [Log.entries, hs] using h
  · have hs : entersBlock G s = true := entersBlock_iff.2 hentry
    have hentries : Log.entries { log with admitted := log.admitted ++ [s], lengths } G =
        log.entries G ++ [s.key] := by simp [Log.entries, hs]
    rw [hentries]
    have habsent : s.key ∉ log.entries G := by
      rw [← h.holds, hfresh]
      exact Bool.false_ne_true
    refine ⟨fun k => ?_, ?_, ?_⟩
    · rw [Seen.contains_insert, h.holds, List.mem_append, List.mem_singleton, or_comm]
    · exact List.nodup_append.2 ⟨h.distinct, List.nodup_singleton _,
        fun a ha b hb hab => habsent (List.mem_singleton.1 hb ▸ hab ▸ ha)⟩
    · rw [Seen.size_insert hfresh, h.size, List.length_append, List.length_singleton]

/-- Only a turn that changes the frontier changes the filter. -/
theorem Turn.seen_eq (h : u.Turn v) (hfrontier : v.frontier = u.frontier) : v.seen = u.seen := by
  cases h with
  | enqueue _ _ hpush _ =>
    obtain ⟨-, -, -, hnext, -⟩ := Frontier.push?_counts hpush
    have := congrArg Frontier.next hfrontier
    simp only at this
    omega
  | take | duplicate | overflow | prune | count | note => rfl

/-- **The filter agrees with the log all the time.** -/
theorem Logged.remembers (hbegin : Remembers r.graph
    (Log.entries { admitted := [r.start], lengths := [r.frontier.size] } r.graph) r.seen)
    (h : r.Logged log u) : Remembers r.graph (log.entries r.graph) u.seen := by
  induction h with
  | begin => exact hbegin
  | take _ _ _ ih => exact ih
  | enqueue hlog _ hnew _ hmark ih =>
    rw [hlog.turns.sameTask.graph] at hnew hmark
    exact ih.mark hnew hmark _
  | other _ hturn hfrontier _ ih =>
    rw [hturn.seen_eq hfrontier]
    exact ih

theorem create_remembers {start target : P} {calls : List P} {config : Config P}
    (h : create G start target calls config = .ok r) : Remembers r.graph
      (Log.entries { admitted := [r.start], lengths := [r.frontier.size] } r.graph) r.seen := by
  obtain ⟨frontier, seen, rfl, -, hmark⟩ := create_eq_ok h
  -- the empty filter remembers the empty log
  have hempty : Remembers G (Log.entries { admitted := [], lengths := [] } G) {} := Remembers.empty
  refine hempty.mark (s := ⟨start, 0, .ofCalls calls⟩) ?_ hmark _
  obtain ⟨entry, hentry, -⟩ := bind_eq_ok.1 hmark
  refine Seen.wasSeen_eq_false.2 ?_
  cases entry with
  | false => exact Or.inl hentry
  | true => exact Or.inr ⟨hentry, Seen.contains_empty _⟩

/-! ### States that find the frontier full -/

/-- A state is received after its position was checked, when it is not a duplicate. -/
theorem accept_of_new (hnew : r.seen.wasSeen r.graph s = .ok false) :
    r.accept s = (do
      if ← r.graph.isBlockEntry s.position then r.graph.check s.position
      match r.frontier.push? s.distance s with
      | none => pure { r with queueDropped := r.queueDropped + 1 }
      | some frontier => pure { r with frontier, seen := ← r.seen.mark r.graph s }) := by
  rw [accept, hnew]
  rfl

/-- A state that is counted as dropped leaves the frontier and the filter as they are. -/
theorem accept_dropped (h : r.accept s = .ok e) (hcount : e.queueDropped = r.queueDropped + 1) :
    r.seen.wasSeen r.graph s = .ok false ∧ e = { r with queueDropped := r.queueDropped + 1 } := by
  rcases accept_cases h with ⟨-, rfl⟩ | ⟨hnew, -, rfl⟩ | ⟨-, _, _, -, -, rfl⟩
  · simp at hcount
  · exact ⟨hnew, rfl⟩
  · simp at hcount

/-- What was received without a fault once, at this position, is admitted wherever it is new and
the frontier has room. -/
theorem accept_of_room {s' : State P} (h : r.accept s = .ok e)
    (hfirst : r.seen.wasSeen r.graph s = .ok false) (hgraph : u.graph = r.graph)
    (hkey : s'.key = s.key) (hnew : u.seen.wasSeen u.graph s' = .ok false)
    {q : Frontier (State P)} (hroom : u.frontier.push? s'.distance s' = some q) :
    ∃ seen, u.seen.mark u.graph s' = .ok seen ∧
      u.accept s' = .ok { u with frontier := q, seen } := by
  have hposition : s'.position = s.position := congrArg Key.position hkey
  rw [accept_of_new hfirst] at h
  obtain ⟨entry, hentry, h⟩ := bind_eq_ok.1 h
  rw [← hgraph, ← hposition] at hentry
  cases entry with
  | false =>
    have hmark : u.seen.mark u.graph s' = .ok u.seen := by
      rw [Seen.mark, hentry]
      rfl
    refine ⟨_, hmark, ?_⟩
    rw [accept_of_new hnew, hentry, hroom, hmark]
    rfl
  | true =>
    have hmark : u.seen.mark u.graph s' = .ok (u.seen.insert u.graph.slot s'.key) := by
      rw [Seen.mark, hentry]
      rfl
    obtain ⟨⟨⟩, hcheck, -⟩ := bind_eq_ok.1 h
    rw [← hgraph, ← hposition] at hcheck
    refine ⟨_, hmark, ?_⟩
    rw [accept_of_new hnew, hentry, hroom, hmark]
    simp only [bind, Except.bind, if_true, hcheck]
    rfl

end Searcher

section Remembered

variable {P B F : Type} [DecidableEq P] [DecidableEq F] {G : Graph P B F} {start target : P}
  {calls : List P} {config : Config P} {r : Searcher P B F}

/-- **The filter holds the keys of the block entries admitted so far.**  Every run has a log.  At
every moment `u` of it the filter holds the keys of the admitted states at block entries and no
others, and each of these keys was admitted once.  A state that is dropped because the frontier is
full changes neither the filter nor the frontier, and its key is not among those admitted.  At any
moment `v` where this is so, a state with this key is admitted when there is room.  Keys are the same
when the positions are the same and so are the calls that the stacks were built from. -/
theorem filter_remembers_admitted (hcreate : Searcher.create G start target calls config = .ok r) :
    (∃ log, r.Logged log r.run.1) ∧
    (∀ log u, r.Logged log u →
      (∀ k, u.seen.contains G.slot k = true ↔ k ∈ log.entries G) ∧
      (log.entries G).Nodup ∧ u.seen.size = (log.entries G).length ∧
      ∀ s e, u.accept s = .ok e → e.queueDropped = u.queueDropped + 1 →
        e.seen = u.seen ∧ e.frontier = u.frontier ∧ s.key ∉ log.entries G ∧
        ∀ log' v s' q, r.Logged log' v → s.key ∉ log'.entries G → s'.key = s.key →
          v.frontier.push? s'.distance s' = some q →
          ∃ e', v.accept s' = .ok e' ∧ e'.frontier = q ∧
            (G.isBlockEntry s'.position = .ok true → e'.seen.contains G.slot s'.key = true)) ∧
    ∀ (a b : State P) (cs ds : List P), a.stack.Built cs → b.stack.Built ds →
      (a.key = b.key ↔ a.position = b.position ∧ cs = ds) := by
  obtain ⟨rfl, -⟩ := Searcher.create_frame hcreate
  have hbegin := Searcher.create_remembers hcreate
  refine ⟨?_, fun log u hlog => ?_, fun a b cs ds ha hb => ?_⟩
  · rw [Searcher.run_of_create hcreate]
    exact (Searcher.runFor_turns _ r).logged
  · have hseen := hlog.remembers hbegin
    have hgraph := hlog.turns.sameTask.graph
    refine ⟨hseen.holds, hseen.distinct, hseen.size, fun s e hs hcount => ?_⟩
    obtain ⟨hnew, rfl⟩ := Searcher.accept_dropped hs hcount
    refine ⟨rfl, rfl, ?_, fun log' v s' q hlog' habsent hkey hroom => ?_⟩
    · -- a state that is no duplicate is at no block entry, or its key is not in the filter
      rw [hgraph] at hnew
      rw [← hseen.holds]
      intro hcontains
      obtain ⟨a, -, hkey, hentry⟩ := Searcher.Log.mem_entries.1 ((hseen.holds _).1 hcontains)
      have hposition : a.position = s.position := congrArg Key.position hkey
      cases hnew.symm.trans (Seen.wasSeen_eq_true.2 ⟨hposition ▸ hentry, hcontains⟩)
    · have hgraph' := hlog'.turns.sameTask.graph
      have hposition : s'.position = s.position := congrArg Key.position hkey
      have hnew' : v.seen.wasSeen v.graph s' = .ok false := by
        have hfresh : v.seen.contains r.graph.slot s'.key = false := by
          rw [← Bool.not_eq_true, (hlog'.remembers hbegin).holds, hkey]
          exact habsent
        rw [hgraph', Seen.wasSeen_eq_false, hposition]
        rw [hgraph, Seen.wasSeen_eq_false] at hnew
        exact hnew.imp_right fun hentry => ⟨hentry.1, hfresh⟩
      obtain ⟨seen, hmark, haccept⟩ :=
        Searcher.accept_of_room hs hnew (hgraph'.trans hgraph.symm) hkey hnew' hroom
      rw [hgraph'] at hmark
      exact ⟨_, haccept, rfl, fun hentry => (Seen.mark_eq_ok hmark _).2 (Or.inl ⟨hentry, rfl⟩)⟩
  · rw [State.key_eq_iff, ha.calls_eq, hb.calls_eq]

end Remembered

/-! ### A state that is dropped and comes again -/

/-- Two ways to `c`, one of them through `b`. -/
def Program.funnel : Program where
  name := "<program>"
  functions := [
    { name := "main", entry := some "a", blocks := [
      { name := "a", instructions := [
        { opcode := "br", kind := .terminator, text := "br b c", targets := ["b", "c"] }] },
      { name := "b", instructions := [
        { opcode := "br", kind := .terminator, text := "br c", targets := ["c"] }] },
      { name := "c", instructions := [{ opcode := "ret", kind := .ret, text := "ret" }] }] }]

/-- The search from `a` to `c` with room for one state. -/
def Program.funnelSearch : Except Fault (Searcher Position BlockName String) :=
  Searcher.create Program.funnel.graph ⟨"main", "a", 0⟩ ⟨"main", "c", 0⟩ []
    ⟨9, 9, 0, StepCost.uniform 1⟩

/-- The search in the middle of its first expansion: `b` has been received, `c` has not. -/
def Program.funnelMiddle (r : Searcher Position BlockName String) :
    Searcher Position BlockName String :=
  match r.verdict with
  | .expand head rest =>
    ({ r with frontier := rest, expanded := head :: r.expanded }.followAll head
      [.ok ⟨⟨"main", "b", 0⟩, {}⟩]).1
  | .stop _ => r

theorem Program.funnel_moment {r : Searcher Position BlockName String}
    (h : Program.funnelSearch = .ok r) : r.Turns (Program.funnelMiddle r) := by
  have hverdict : (Program.funnelSearch.map fun r => match r.verdict with
      | .expand head _ => head == ⟨⟨"main", "a", 0⟩, 0, {}⟩
      | .stop _ => false) = .ok true := by decide +kernel
  obtain ⟨hgraph, -⟩ := Searcher.create_frame h
  rw [h] at hverdict
  unfold Program.funnelMiddle
  cases hv : r.verdict with
  | stop reason => exact .refl
  | expand head rest =>
    simp only [Except.map, hv, Except.ok.injEq, beq_iff_eq] at hverdict
    subst hverdict
    have hexpand : expand r.graph ⟨⟨"main", "a", 0⟩, 0, {}⟩ =
        .ok (.moves [.ok ⟨⟨"main", "b", 0⟩, {}⟩, .ok ⟨⟨"main", "c", 0⟩, {}⟩]) := by
      rw [hgraph]
      rfl
    exact .head (.take hv) (Searcher.followAll_turns rfl hexpand (by simp))

/-- `c` is dropped when `a` is expanded, and admitted when `b` is. -/
theorem filter_remembers_admitted_funnel :
    ∃ r u log e log', Program.funnelSearch = .ok r ∧ r.Logged log u ∧
      u.accept ⟨⟨"main", "c", 0⟩, 1, {}⟩ = .ok e ∧ e.queueDropped = u.queueDropped + 1 ∧
      e.seen = u.seen ∧ ⟨⟨"main", "c", 0⟩, {}⟩ ∉ log.entries Program.funnel.graph ∧
      r.Logged log' r.run.1 ∧ ⟨⟨"main", "c", 0⟩, {}⟩ ∈ log'.entries Program.funnel.graph := by
  have hdropped : (Program.funnelSearch >>= fun r =>
      (Program.funnelMiddle r).accept ⟨⟨"main", "c", 0⟩, 1, {}⟩ >>= fun e =>
        .ok (e.queueDropped == (Program.funnelMiddle r).queueDropped + 1)) = .ok true := by
    decide +kernel
  have hend : (Program.funnelSearch.map fun r => r.run.1.seen.contains Program.funnel.graph.slot
      ⟨⟨"main", "c", 0⟩, {}⟩) = .ok true := by decide +kernel
  obtain ⟨r, hr, hdropped⟩ := bind_eq_ok.1 hdropped
  obtain ⟨e, he, hcount⟩ := bind_eq_ok.1 hdropped
  have hcount : e.queueDropped = (Program.funnelMiddle r).queueDropped + 1 := by
    simpa using hcount
  rw [hr] at hend
  obtain ⟨log, hlog⟩ := (Program.funnel_moment hr).logged
  obtain ⟨⟨log', hlog'⟩, hmoments, -⟩ := filter_remembers_admitted hr
  obtain ⟨hsame, -, habsent, -⟩ := (hmoments log _ hlog).2.2.2 _ e he hcount
  exact ⟨r, _, log, e, log', hr, hlog, he, hcount, hsame, habsent, hlog',
    ((hmoments log' _ hlog').1 _).1 (Except.ok.inj hend)⟩

end CallReach
