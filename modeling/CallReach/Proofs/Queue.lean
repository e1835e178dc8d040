import CallReach.Proofs.Frontier

/-!
# The frontier as a list

What can be seen of a frontier is what a plain list shows in which the entries stand in the order in
which they came.  The list has no heap, no tickets and no counters: it looks for the least distance
among all its entries, takes the first entry at that distance, and remembers the lengths it had.

* `Frontier.Request`, `Frontier.Reply` : what can be asked of a frontier, and the answers.
* `WaitingList` : the list, with `WaitingList.serve` for each request.
* `Frontier.Holds` : a frontier and a list hold the same; `Frontier.Holds.serve` : a request gets
  the same reply from both, and they hold the same after it.
* `frontier_replies_as_list` : the replies are the same for every sequence of requests.
-/

namespace CallReach

variable {α : Type}

/-! ### Requests and their replies -/

/-- What can be asked of a frontier. -/
inductive Frontier.Request (α : Type) where
  | push (distance : Int) (item : α)
  | pop
  | peek
  | minDistance
  | length
  | isEmpty
  | peakSize
  deriving DecidableEq, Repr

/-- What a frontier answers. -/
inductive Frontier.Reply (α : Type) where
  /-- Whether an item was admitted. -/
  | admitted (yes : Bool)
  /-- An item with its distance, or the failure to give one. -/
  | entry (found : Option (Int × α))
  /-- The least distance, if anything waits. -/
  | distance (least : Option Int)
  | count (n : ℕ)
  | empty (yes : Bool)
  deriving DecidableEq, Repr

open Frontier (Request Reply)

/-- The replies to requests that are made one after the other, when `serve` says how one of them is
answered and what it changes. -/
def replies {σ : Type} (serve : σ → Request α → Reply α × σ) (s : σ) :
    List (Request α) → List (Reply α)
  | [] => []
  | request :: rest => (serve s request).1 :: replies serve (serve s request).2 rest

/-- How a frontier serves a request. -/
def Frontier.serve (q : Frontier α) : Request α → Reply α × Frontier α
  | .push d item =>
    match q.push? d item with
    | some q => (.admitted true, q)
    | none => (.admitted false, q)
  | .pop =>
    match q.pop? with
    | some (t, q) => (.entry (some (t.distance, t.item)), q)
    | none => (.entry none, q)
  | .peek => (.entry (q.peek?.map fun t => (t.distance, t.item)), q)
  | .minDistance => (.distance q.minDistance?, q)
  | .length => (.count q.size, q)
  | .isEmpty => (.empty q.isEmpty, q)
  | .peakSize => (.count q.peak, q)

/-! ### The list -/

/-- Entries that wait, each with its distance, in the order in which they came. -/
structure WaitingList (α : Type) where
  /-- The most entries there may be before one is added. -/
  capacity : Int
  entries : List (Int × α) := []
  /-- The lengths that the list has had. -/
  lengths : List ℕ := [0]

namespace WaitingList

/-- The least distance of an entry. -/
def least? (l : WaitingList α) : Option Int := (l.entries.map (·.1)).min?

/-- The earliest of the entries at the least distance. -/
def first? (l : WaitingList α) : Option (Int × α) :=
  l.least?.bind fun d => l.entries.find? (·.1 == d)

/-- The list with other entries. -/
def become (l : WaitingList α) (entries : List (Int × α)) : WaitingList α :=
  { l with entries, lengths := entries.length :: l.lengths }

/-- The list without the earliest of the entries at the least distance. -/
def dropFirst (l : WaitingList α) : WaitingList α :=
  match l.least? with
  | some d => l.become (l.entries.eraseP (·.1 == d))
  | none => l

/-- The largest length so far. -/
def peak (l : WaitingList α) : ℕ := l.lengths.foldr max 0

/-- How a list serves a request.  A push that is refused changes nothing. -/
def serve (l : WaitingList α) : Request α → Reply α × WaitingList α
  | .push d item =>
    if (l.entries.length : Int) ≤ l.capacity then
      (.admitted true, l.become (l.entries ++ [(d, item)]))
    else (.admitted false, l)
  | .pop => (.entry l.first?, l.dropFirst)
  | .peek => (.entry l.first?, l)
  | .minDistance => (.distance l.least?, l)
  | .length => (.count l.entries.length, l)
  | .isEmpty => (.empty l.entries.isEmpty, l)
  | .peakSize => (.count l.peak, l)

variable {l : WaitingList α} {e : Int × α} {before after : List (Int × α)}

/-- An entry at the least distance parts the list: those before it are farther, those behind it are
no nearer. -/
def Parts (l : WaitingList α) (before : List (Int × α)) (e : Int × α)
    (after : List (Int × α)) : Prop :=
  l.entries = before ++ e :: after ∧ (∀ f ∈ before, e.1 < f.1) ∧ ∀ f ∈ after, e.1 ≤ f.1

theorem Parts.least? (h : l.Parts before e after) : l.least? = some e.1 := by
  obtain ⟨hentries, hbefore, hafter⟩ := h
  rw [WaitingList.least?, List.min?_eq_some_iff, hentries]
  refine ⟨by simp, fun d hd => ?_⟩
  obtain ⟨f, hf, rfl⟩ := List.mem_map.1 hd
  rcases List.mem_append.1 hf with hf | hf
  · exact Int.le_of_lt (hbefore f hf)
  · rcases List.mem_cons.1 hf with rfl | hf
    · exact Int.le_refl _
    · exact hafter f hf

/-- **The first entry is the earliest of those at the least distance.** -/
theorem first?_eq_some_iff : l.first? = some e ↔ ∃ before after, l.Parts before e after := by
  constructor
  · intro h
    obtain ⟨d, hleast, hfind⟩ := Option.bind_eq_some_iff.1 h
    obtain ⟨he, before, after, hentries, hbefore⟩ := List.find?_eq_some_iff_append.1 hfind
    have hle : ∀ f ∈ l.entries, d ≤ f.1 := fun f hf =>
      (List.min?_eq_some_iff.1 hleast).2 f.1 (List.mem_map_of_mem hf)
    obtain rfl : e.1 = d := by simpa using he
    refine ⟨before, after, hentries, fun f hf => ?_, fun f hf => ?_⟩
    · have hne : f.1 ≠ e.1 := by simpa using hbefore f hf
      exact Int.lt_iff_le_and_ne.2 ⟨hle f (by simp [hentries, hf]), hne.symm⟩
    · exact hle f (by simp [hentries, hf])
  · rintro ⟨before, after, h⟩
    rw [first?, h.least?, Option.bind_some, List.find?_eq_some_iff_append]
    exact ⟨by simp, before, after, h.1, fun f hf => by simpa using (Int.ne_of_lt (h.2.1 f hf)).symm⟩

/-- There is none only when nothing waits. -/
theorem first?_eq_none_iff : l.first? = none ↔ l.entries = [] := by
  constructor
  · intro h
    by_contra hne
    cases hleast : l.least? with
    | none => exact hne (by simpa [least?] using hleast)
    | some d =>
      -- the least distance is that of some entry
      obtain ⟨f, hf, rfl⟩ := List.mem_map.1 (List.min?_eq_some_iff.1 hleast).1
      rw [first?, hleast, Option.bind_some] at h
      simpa using List.find?_eq_none.1 h f hf
  · intro h
    simp [first?, least?, h]

theorem least?_eq (l : WaitingList α) : l.least? = l.first?.map (·.1) := by
  cases hfirst : l.first? with
  | none => simp [least?, first?_eq_none_iff.1 hfirst]
  | some e =>
    obtain ⟨before, after, h⟩ := first?_eq_some_iff.1 hfirst
    exact h.least?

theorem dropFirst_of_parts (h : l.Parts before e after) :
    l.dropFirst = l.become (before ++ after) := by
  have hskip : ∀ f ∈ before, ¬ (f.1 == e.1) = true := fun f hf => by
    simpa using (Int.ne_of_lt (h.2.1 f hf)).symm
  rw [dropFirst, h.least?, h.1]
  simp only
  rw [List.eraseP_append_right _ hskip, List.eraseP_cons_of_pos (by simp)]

theorem dropFirst_of_nil (h : l.entries = []) : l.dropFirst = l := by
  simp [dropFirst, least?, h]

theorem peak_become (entries : List (Int × α)) :
    (l.become entries).peak = max entries.length l.peak := rfl

end WaitingList

/-! ### A frontier and a list that hold the same -/

namespace Frontier

open scoped List

variable {q rest : Frontier α} {l : WaitingList α} {line : List (Ticket α)}

/-- The entry that a ticket stands for. -/
def entryOf (t : Ticket α) : Int × α := (t.distance, t.item)

/-- The tickets of a frontier, put in the order of their numbers, stand for the entries of a list,
and the counters of the frontier are right. -/
structure Holds (q : Frontier α) (l : WaitingList α) (line : List (Ticket α)) : Prop where
  entries : l.entries = line.map entryOf
  tickets : q.tickets ~ line
  numbered : line.Pairwise fun a b => a.number < b.number
  /-- The number of the next ticket has not been given. -/
  fresh : ∀ t ∈ line, t.number < q.next
  ordered : q.heap.Ordered
  capacity : q.capacity = l.capacity
  size : q.size = line.length
  peak : q.peak = l.peak
  current : line.length ≤ l.peak

theorem peek?_eq (q : Frontier α) : q.peek? = q.pop?.map (·.1) := by
  cases hh : q.heap <;> simp [peek?, pop?, hh, Heap.root?, Heap.pop?]

theorem holds_empty (capacity : Int) : (empty capacity : Frontier α).Holds { capacity } [] :=
  ⟨rfl, .refl _, .nil, by simp, trivial, rfl, rfl, rfl, Nat.zero_le _⟩

theorem Holds.length_entries (h : q.Holds l line) : l.entries.length = line.length := by
  rw [h.entries, List.length_map]

/-- A push that is not refused puts a ticket at the end of the line. -/
theorem Holds.push {d : Int} {item : α} (h : q.Holds l line)
    (hpush : q.push? d item = some rest) :
    rest.Holds (l.become (l.entries ++ [(d, item)])) (line ++ [⟨d, q.next, item⟩]) := by
  obtain ⟨hperm, hordered⟩ := push?_eq_some hpush
  obtain ⟨-, hcapacity, hsize, hnext, hpeak⟩ := push?_counts hpush
  have hlength := h.length_entries
  refine ⟨by simp [WaitingList.become, h.entries, entryOf], ?_, ?_, fun t ht => ?_,
    hordered h.ordered, hcapacity.trans h.capacity, by simp [hsize, h.size], ?_, ?_⟩
  · exact hperm.trans ((h.tickets.cons _).trans (List.perm_append_singleton _ _).symm)
  · refine List.pairwise_append.2 ⟨h.numbered, List.pairwise_singleton _ _, fun t ht u hu => ?_⟩
    rw [List.mem_singleton.1 hu]
    exact h.fresh t ht
  · rw [hnext]
    rcases List.mem_append.1 ht with ht | ht
    · exact Nat.lt_succ_of_lt (h.fresh t ht)
    · rw [List.mem_singleton.1 ht]
      exact Nat.lt_succ_self _
  · rw [WaitingList.peak_become, hpeak, hsize, h.peak, h.size, List.length_append, hlength]
    exact Nat.max_comm _ _
  · rw [WaitingList.peak_become, List.length_append, List.length_append, hlength]
    exact Nat.le_max_left _ _

/-- **The ticket that leaves next stands for the first entry.**  Of those in front of it none is as
near, since it has a greater number than they. -/
theorem Holds.popped {t : Ticket α} (h : q.Holds l line) (hpop : q.pop? = some (t, rest)) :
    ∃ before after, line = before ++ t :: after ∧
      l.Parts (before.map entryOf) (entryOf t) (after.map entryOf) := by
  obtain ⟨hleast, -⟩ := pop_least h.ordered hpop
  have ht : t ∈ line := h.tickets.mem_iff.1 ((pop?_eq_some hpop).1.mem_iff.2 List.mem_cons_self)
  obtain ⟨before, after, rfl⟩ := List.append_of_mem ht
  have hwaits : ∀ u ∈ before ++ t :: after, u.before t = false := fun u hu =>
    hleast u (h.tickets.mem_iff.2 hu)
  refine ⟨before, after, rfl, by simp [h.entries], ?_, ?_⟩
  · intro f hf
    obtain ⟨u, hu, rfl⟩ := List.mem_map.1 hf
    have hearlier := (List.pairwise_append.1 h.numbered).2.2 u hu t List.mem_cons_self
    have hlater := Ticket.before_eq_false_iff.1 (hwaits u (List.mem_append_left _ hu))
    simp only [entryOf]
    omega
  · intro f hf
    obtain ⟨u, hu, rfl⟩ := List.mem_map.1 hf
    exact Ticket.distance_le_of_not_before
      (hwaits u (List.mem_append_right _ (List.mem_cons_of_mem _ hu)))

/-- A pop takes the first entry out of the list. -/
theorem Holds.pop {t : Ticket α} (h : q.Holds l line) (hpop : q.pop? = some (t, rest)) :
    ∃ line', rest.Holds l.dropFirst line' := by
  obtain ⟨before, after, rfl, hparts⟩ := h.popped hpop
  obtain ⟨hcapacity, hsize, hnext, hpeak⟩ := pop?_counts hpop
  have hsublist : before ++ after <+ before ++ t :: after :=
    (List.sublist_cons_self t after).append_left before
  have hcurrent := h.current
  have hlength := hsublist.length_le
  rw [WaitingList.dropFirst_of_parts hparts]
  refine ⟨before ++ after, by simp [WaitingList.become], ?_, h.numbered.sublist hsublist,
    fun u hu => hnext ▸ h.fresh u (hsublist.subset hu), (pop_least h.ordered hpop).2,
    hcapacity.trans h.capacity, ?_, ?_, ?_⟩
  · have hperm : t :: rest.tickets ~ t :: (before ++ after) :=
      (pop?_eq_some hpop).1.symm.trans (h.tickets.trans List.perm_middle)
    exact hperm.cons_inv
  · rw [hsize, h.size]
    simp
  · -- the list has been longer than it is now
    rw [WaitingList.peak_become, hpeak, h.peak, ← List.map_append, List.length_map]
    omega
  · rw [WaitingList.peak_become]
    omega

/-- A peek shows the first entry. -/
theorem Holds.peek (h : q.Holds l line) : q.peek?.map entryOf = l.first? := by
  rw [peek?_eq]
  cases hpop : q.pop? with
  | none =>
    have hline : line = [] := by simpa [pop?_eq_none hpop] using h.tickets
    rw [WaitingList.first?_eq_none_iff.2 (by rw [h.entries, hline, List.map_nil])]
    rfl
  | some x =>
    obtain ⟨t, rest⟩ := x
    obtain ⟨before, after, -, hparts⟩ := h.popped hpop
    rw [WaitingList.first?_eq_some_iff.2 ⟨_, _, hparts⟩]
    rfl

/-- **A request gets the same reply from a frontier and from a list that hold the same**, and they
hold the same after it. -/
theorem Holds.serve (h : q.Holds l line) (request : Request α) :
    (q.serve request).1 = (l.serve request).1 ∧
      ∃ line', (q.serve request).2.Holds (l.serve request).2 line' := by
  cases request with
  | push d item =>
    have hroom : (l.entries.length : Int) ≤ l.capacity ↔ ¬ (q.size : Int) > q.capacity := by
      rw [h.length_entries, h.size, h.capacity, Int.not_lt]
    rw [Frontier.serve, WaitingList.serve]
    cases hpush : q.push? d item with
    | none =>
      rw [if_neg (by simpa [hroom, push?] using hpush)]
      exact ⟨rfl, line, h⟩
    | some q' =>
      rw [if_pos (hroom.2 (by simpa using (push?_counts hpush).1))]
      exact ⟨rfl, _, h.push hpush⟩
  | pop =>
    have hfirst := h.peek
    rw [peek?_eq] at hfirst
    rw [Frontier.serve, WaitingList.serve, ← hfirst]
    cases hpop : q.pop? with
    | none =>
      rw [hpop] at hfirst
      rw [WaitingList.dropFirst_of_nil (WaitingList.first?_eq_none_iff.1 hfirst.symm)]
      exact ⟨rfl, line, h⟩
    | some x => exact ⟨rfl, h.pop hpop⟩
  | peek => exact ⟨congrArg Reply.entry h.peek, line, h⟩
  | minDistance =>
    refine ⟨congrArg Reply.distance ?_, line, h⟩
    rw [WaitingList.least?_eq, ← h.peek, minDistance?, Option.map_map]
    rfl
  | length => exact ⟨congrArg Reply.count (h.size.trans h.length_entries.symm), line, h⟩
  | isEmpty =>
    refine ⟨congrArg Reply.empty ?_, line, h⟩
    rw [isEmpty, h.size, h.entries]
    cases line <;> rfl
  | peakSize => exact ⟨congrArg Reply.count h.peak, line, h⟩

theorem Holds.replies (h : q.Holds l line) (requests : List (Request α)) :
    CallReach.replies Frontier.serve q requests =
      CallReach.replies WaitingList.serve l requests := by
  induction requests generalizing q l line with
  | nil => rfl
  | cons request rest ih =>
    obtain ⟨hreply, line', hnext⟩ := h.serve request
    exact congrArg₂ List.cons hreply (ih hnext)

end Frontier

/-- **A frontier answers as a plain list**, whatever is asked of it in whatever order and whatever
its capacity: a push is admitted exactly when at most `capacity` entries wait; a pop and a peek give
the earliest of the entries at the least distance, and nothing exactly when nothing waits; a push
that is refused is as if it had not been made; and the peak is the largest length so far. -/
theorem frontier_replies_as_list (capacity : Int) (requests : List (Frontier.Request α)) :
    replies Frontier.serve (Frontier.empty capacity) requests =
      replies WaitingList.serve { capacity } requests :=
  (Frontier.holds_empty capacity).replies requests

/-- Two items at one distance leave in the order in which they came, although one that is nearer
came between them and a push was refused. -/
example : replies Frontier.serve (Frontier.empty 2)
    [.push 2 "a", .push 1 "b", .push 2 "c", .push 0 "d", .pop, .pop, .peakSize, .pop, .pop] =
    [.admitted true, .admitted true, .admitted true, .admitted false, .entry (some (1, "b")),
      .entry (some (2, "a")), .count 3, .entry (some (2, "c")), .entry none] := by
  decide

end CallReach
