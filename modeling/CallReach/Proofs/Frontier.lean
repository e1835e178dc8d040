import CallReach.Search.Frontier
import Mathlib.Data.List.Perm.Basic

/-!
# The order of the frontier

The heap behind the frontier keeps its tickets in heap order: no ticket below a root leaves before
it.  Merging keeps the order and loses nothing, so a pop takes a least ticket and leaves the others.

* `Heap.toList_merge` : a merge holds the tickets of both heaps.
* `Heap.Ordered` : heap order; `Heap.Ordered.merge` : merging keeps it.
* `Frontier.pop_least` : no ticket that is left behind by a pop leaves before the one taken.
-/

namespace CallReach

namespace Ticket

variable {α : Type} {a b c : Ticket α}

theorem before_eq_false_iff :
    a.before b = false ↔
      b.distance < a.distance ∨ b.distance = a.distance ∧ b.number ≤ a.number := by
  simp only [before, Bool.or_eq_false_iff, Bool.and_eq_false_iff, decide_eq_false_iff_not,
    beq_eq_false_iff_ne]
  omega

/-- What does not leave before `b` does not leave before anything that leaves no later. -/
theorem not_before_trans (hab : a.before b = false) (hbc : b.before c = false) :
    a.before c = false := by
  rw [before_eq_false_iff] at *
  omega

theorem not_before_of_before (h : a.before b = true) : b.before a = false := by
  rw [before_eq_false_iff]
  simp only [before, Bool.or_eq_true, Bool.and_eq_true, decide_eq_true_eq, beq_iff_eq] at h
  omega

theorem distance_le_of_not_before (h : a.before b = false) : b.distance ≤ a.distance := by
  rw [before_eq_false_iff] at h
  omega

end Ticket

namespace Heap

open scoped List

variable {α : Type}

/-! ### Merging loses nothing -/

theorem toList_join (root : Ticket α) (a b : Heap α) :
    (join root a b).toList ~ root :: (a.toList ++ b.toList) := by
  unfold join
  split_ifs
  · exact List.Perm.refl _
  · exact List.Perm.cons _ List.perm_append_comm

theorem merge_node_nil (k : ℕ) (x : Ticket α) (l r : Heap α) :
    merge (.node k x l r) .nil = .node k x l r := rfl

theorem merge_node_node (k k' : ℕ) (x y : Ticket α) (l r l' r' : Heap α) :
    merge (.node k x l r) (.node k' y l' r') =
      if y.before x then join y l' (merge (.node k x l r) r')
      else join x l (merge r (.node k' y l' r')) := rfl

/-- A merge holds the tickets of both heaps. -/
theorem toList_merge (a b : Heap α) : (merge a b).toList ~ a.toList ++ b.toList := by
  induction a generalizing b with
  | nil => exact List.Perm.refl _
  | node k x l r _ ihr =>
    -- the inner induction follows the right spine of `b`, which is left when its root goes first
    induction b with
    | nil => rw [merge_node_nil, toList, List.append_nil]
    | node k' y l' r' _ ihr' =>
      rw [merge_node_node]
      split_ifs
      · calc (join y l' (merge (.node k x l r) r')).toList
          _ ~ y :: (l'.toList ++ (merge (.node k x l r) r').toList) := toList_join y l' _
          _ ~ y :: (l'.toList ++ ((node k x l r).toList ++ r'.toList)) :=
            (ihr'.append_left _).cons y
          _ ~ y :: ((node k x l r).toList ++ (l'.toList ++ r'.toList)) :=
            (List.perm_append_comm_assoc _ _ _).cons y
          _ ~ (node k x l r).toList ++ (node k' y l' r').toList := List.perm_middle.symm
      · refine (toList_join x l _).trans ?_
        have h := ((ihr (.node k' y l' r')).append_left l.toList).cons x
        simpa only [toList, List.cons_append, List.append_assoc] using h

theorem mem_toList_merge {a b : Heap α} {t : Ticket α} :
    t ∈ (merge a b).toList ↔ t ∈ a.toList ∨ t ∈ b.toList := by
  rw [(toList_merge a b).mem_iff, List.mem_append]

theorem toList_insert (t : Ticket α) (h : Heap α) : (h.insert t).toList ~ t :: h.toList :=
  toList_merge _ h

/-! ### Heap order -/

/-- No ticket below a root leaves before it. -/
def Ordered : Heap α → Prop
  | .nil => True
  | .node _ root left right =>
    (∀ t ∈ left.toList, t.before root = false) ∧ (∀ t ∈ right.toList, t.before root = false) ∧
      left.Ordered ∧ right.Ordered

theorem Ordered.join {root : Ticket α} {a b : Heap α} (ha : a.Ordered) (hb : b.Ordered)
    (hra : ∀ t ∈ a.toList, t.before root = false) (hrb : ∀ t ∈ b.toList, t.before root = false) :
    (join root a b).Ordered := by
  unfold Heap.join
  split_ifs
  · exact ⟨hra, hrb, ha, hb⟩
  · exact ⟨hrb, hra, hb, ha⟩

/-- The root of an ordered heap is a least ticket. -/
theorem Ordered.root_least {k : ℕ} {x : Ticket α} {l r : Heap α} (h : (node k x l r).Ordered)
    {t : Ticket α} (ht : t ∈ (node k x l r).toList) : t.before x = false := by
  simp only [toList, List.mem_cons, List.mem_append] at ht
  rcases ht with rfl | ht | ht
  · simp [Ticket.before]
  · exact h.1 t ht
  · exact h.2.1 t ht

/-- Merging keeps heap order. -/
theorem Ordered.merge {a b : Heap α} (ha : a.Ordered) (hb : b.Ordered) :
    (merge a b).Ordered := by
  induction a generalizing b with
  | nil => exact hb
  | node k x l r _ ihr =>
    induction b with
    | nil => exact ha
    | node k' y l' r' _ ihr' =>
      have hx : ∀ t ∈ (node k x l r).toList, t.before x = false := fun t => ha.root_least
      have hy : ∀ t ∈ (node k' y l' r').toList, t.before y = false := fun t => hb.root_least
      rw [merge_node_node]
      split_ifs with hyx
      · -- the tickets below `x` leave no earlier than `y`, since `x` does not
        refine hb.2.2.1.join (ihr' hb.2.2.2) hb.1 fun t ht => ?_
        rcases mem_toList_merge.1 ht with ht | ht
        · exact Ticket.not_before_trans (hx t ht) (Ticket.not_before_of_before hyx)
        · exact hb.2.1 t ht
      · refine ha.2.2.1.join (ihr ha.2.2.2 hb) ha.1 fun t ht => ?_
        rcases mem_toList_merge.1 ht with ht | ht
        · exact ha.2.1 t ht
        · exact Ticket.not_before_trans (hy t ht) (by simpa using hyx)

theorem Ordered.insert {h : Heap α} (ho : h.Ordered) (t : Ticket α) : (h.insert t).Ordered :=
  Ordered.merge ⟨by simp [toList], by simp [toList], trivial, trivial⟩ ho

end Heap

namespace Frontier

open scoped List

variable {α : Type} {q q' : Frontier α}

/-- The tickets that wait, in no particular order. -/
def tickets (q : Frontier α) : List (Ticket α) := q.heap.toList

theorem push?_eq_some {d : Int} {item : α} (h : q.push? d item = some q') :
    q'.tickets ~ ⟨d, q.next, item⟩ :: q.tickets ∧ (q.heap.Ordered → q'.heap.Ordered) := by
  unfold push? at h
  split_ifs at h
  cases h
  exact ⟨Heap.toList_insert _ _, fun ho => ho.insert _⟩

theorem pop?_eq_none (h : q.pop? = none) : q.tickets = [] := by
  cases hh : q.heap with
  | nil => simp [tickets, hh, Heap.toList]
  | node k x l r => simp [pop?, hh, Heap.pop?] at h

/-- A pop takes the first ticket and keeps the others. -/
theorem pop?_eq_some {t : Ticket α} (h : q.pop? = some (t, q')) :
    q.tickets ~ t :: q'.tickets ∧ q.peek? = some t := by
  cases hh : q.heap with
  | nil => simp [pop?, hh, Heap.pop?] at h
  | node k x l r =>
    simp only [pop?, hh, Heap.pop?, Option.map_some, Option.some.injEq, Prod.mk.injEq] at h
    obtain ⟨rfl, rfl⟩ := h
    refine ⟨?_, by simp [peek?, hh, Heap.root?]⟩
    simp only [tickets, hh, Heap.toList]
    exact ((Heap.toList_merge l r).cons x).symm

/-- What a push that is not refused counts. -/
theorem push?_counts {d : Int} {item : α} (h : q.push? d item = some q') :
    q.size ≤ q.capacity ∧ q'.capacity = q.capacity ∧ q'.size = q.size + 1 ∧
      q'.next = q.next + 1 ∧ q'.peak = max q.peak q'.size := by
  unfold push? at h
  split_ifs at h with hfull
  cases h
  exact ⟨by omega, rfl, rfl, rfl, rfl⟩

/-- A pop counts down and leaves the other numbers as they are. -/
theorem pop?_counts {t : Ticket α} (h : q.pop? = some (t, q')) :
    q'.capacity = q.capacity ∧ q'.size = q.size - 1 ∧ q'.next = q.next ∧ q'.peak = q.peak := by
  obtain ⟨⟨_, _⟩, -, heq⟩ := Option.map_eq_some_iff.1 h
  obtain ⟨-, rfl⟩ := Prod.mk.inj heq
  exact ⟨rfl, rfl, rfl, rfl⟩

/-- **A pop takes a least ticket**: no ticket that waits leaves before the one taken. -/
theorem pop_least {t : Ticket α} (ho : q.heap.Ordered) (h : q.pop? = some (t, q')) :
    (∀ u ∈ q.tickets, u.before t = false) ∧ q'.heap.Ordered := by
  cases hh : q.heap with
  | nil => simp [pop?, hh, Heap.pop?] at h
  | node k x l r =>
    simp only [pop?, hh, Heap.pop?, Option.map_some, Option.some.injEq, Prod.mk.injEq] at h
    obtain ⟨rfl, rfl⟩ := h
    rw [hh] at ho
    refine ⟨fun u hu => ho.root_least (by simpa [tickets, hh] using hu), ?_⟩
    exact ho.2.2.1.merge ho.2.2.2

end Frontier

end CallReach
