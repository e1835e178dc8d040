/-!
# The frontier

A bounded priority queue in which items of equal distance leave in the order in which they came.
Every item admitted gets the next ticket number, and the heap orders items by distance and then by
ticket.  A push is refused once the queue holds more than `capacity` items, so it never holds more
than `capacity + 1`.

The queue is a leftist heap: `Heap.merge` walks the two right spines, and the rank kept in each node
decides which subtree becomes the right one, so the spines stay short.
-/

namespace CallReach

/-- An item waiting in the frontier. -/
structure Ticket (α : Type) where
  distance : Int
  number : Nat
  item : α
  deriving DecidableEq, Repr, Inhabited

/-- Whether `a` leaves before `b`: it is nearer, or as near and came first. -/
def Ticket.before {α : Type} (a b : Ticket α) : Bool :=
  a.distance < b.distance || (a.distance == b.distance && a.number < b.number)

/-- A heap of tickets with the length of the right spine in each node. -/
inductive Heap (α : Type) where
  | nil
  | node (rank : Nat) (root : Ticket α) (left right : Heap α)
  deriving DecidableEq, Repr, Inhabited

namespace Heap

variable {α : Type}

/-- The length of the right spine. -/
def rank : Heap α → Nat
  | .nil => 0
  | .node r _ _ _ => r

/-- A node over two heaps, the one with the shorter spine on the right. -/
def join (root : Ticket α) (a b : Heap α) : Heap α :=
  if b.rank ≤ a.rank then .node (b.rank + 1) root a b else .node (a.rank + 1) root b a

/-- Merges the node `root, left` into `b`, where `mergeRight` merges the right part of that node
into a heap. -/
def mergeNode (rank : Nat) (root : Ticket α) (left right : Heap α)
    (mergeRight : Heap α → Heap α) : Heap α → Heap α
  | .nil => .node rank root left right
  | .node rank' root' left' right' =>
    if root'.before root then
      join root' left' (mergeNode rank root left right mergeRight right')
    else join root left (mergeRight (.node rank' root' left' right'))

/-- The heap of the tickets of both heaps. -/
def merge : Heap α → Heap α → Heap α
  | .nil => id
  | .node rank root left right => mergeNode rank root left right (merge right)

/-- The ticket that leaves next. -/
def root? : Heap α → Option (Ticket α)
  | .nil => none
  | .node _ root _ _ => some root

/-- The heap with one more ticket. -/
def insert (t : Ticket α) (h : Heap α) : Heap α := merge (.node 1 t .nil .nil) h

/-- The ticket that leaves next and the heap without it. -/
def pop? : Heap α → Option (Ticket α × Heap α)
  | .nil => none
  | .node _ root left right => some (root, merge left right)

/-- The tickets of the heap, in no particular order. -/
def toList : Heap α → List (Ticket α)
  | .nil => []
  | .node _ root left right => root :: (left.toList ++ right.toList)

end Heap

/-- A bounded queue of items by distance. -/
structure Frontier (α : Type) where
  /-- One less than the most items held; nothing is held when it is negative. -/
  capacity : Int
  heap : Heap α := .nil
  size : Nat := 0
  /-- The number of the next ticket. -/
  next : Nat := 0
  /-- The most items held so far. -/
  peak : Nat := 0
  deriving DecidableEq, Repr, Inhabited

namespace Frontier

variable {α : Type}

/-- The queue with nothing in it. -/
def empty (capacity : Int) : Frontier α := { capacity }

/-- Whether nothing is waiting. -/
def isEmpty (q : Frontier α) : Bool := q.size == 0

/-- Adds an item, unless the queue is over its capacity. -/
def push? (q : Frontier α) (distance : Int) (item : α) : Option (Frontier α) :=
  if (q.size : Int) > q.capacity then none
  else
    let size := q.size + 1
    some { q with
      heap := q.heap.insert ⟨distance, q.next, item⟩
      size, next := q.next + 1, peak := max q.peak size }

/-- The ticket that leaves next. -/
def peek? (q : Frontier α) : Option (Ticket α) := q.heap.root?

/-- The ticket that leaves next and the queue without it. -/
def pop? (q : Frontier α) : Option (Ticket α × Frontier α) :=
  q.heap.pop?.map fun (t, heap) => (t, { q with heap, size := q.size - 1 })

/-- The least distance waiting. -/
def minDistance? (q : Frontier α) : Option Int := q.peek?.map (·.distance)

end Frontier

end CallReach
