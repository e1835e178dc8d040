import CallReach.Search.State
import Std.Data.TreeMap

/-!
# The duplicate filter

The filter remembers the states that have been admitted at the first position of a block, by their
position and their pending calls.  Inside a block control flow is a straight line, so other positions
are not remembered.

Keys with the same number lie in one bucket, found by that number; in a bucket keys are compared
themselves, so the numbering only decides how long a look-up takes.
-/

namespace CallReach

/-- What two states must share to be duplicates: the position and the whole stack. -/
structure Key (P : Type) where
  position : P
  stack : CallStack P
  deriving DecidableEq, Repr, Inhabited

/-- The key of a state. -/
def State.key {P : Type} (s : State P) : Key P := ⟨s.position, s.stack⟩

/-- A number for a key, from a number for each of its positions. -/
def Key.slot {P : Type} (slot : P → Nat) (k : Key P) : Nat :=
  k.stack.innermostFirst.foldl (fun n p => (n * 1000003 + slot p) % 1099511627776)
    (slot k.position)

/-- The keys remembered. -/
structure Seen (P : Type) where
  buckets : Std.TreeMap Nat (List (Key P)) := ∅
  size : Nat := 0

namespace Seen

variable {P B F : Type} [DecidableEq P]

/-- Nothing remembered. -/
def empty : Seen P := {}

/-- Whether a key is remembered. -/
def contains (slot : P → Nat) (seen : Seen P) (k : Key P) : Bool :=
  (seen.buckets.getD (k.slot slot) []).contains k

/-- Remembers a key. -/
def insert (slot : P → Nat) (seen : Seen P) (k : Key P) : Seen P :=
  if seen.contains slot k then seen
  else
    let n := k.slot slot
    { buckets := seen.buckets.insert n (k :: seen.buckets.getD n []), size := seen.size + 1 }

/-- Whether a state is a duplicate of one remembered. -/
def wasSeen (G : Graph P B F) (seen : Seen P) (s : State P) : Except Fault Bool := do
  if ← G.isBlockEntry s.position then pure (seen.contains G.slot s.key) else pure false

/-- Remembers a state, if it is at the first position of its block. -/
def mark (G : Graph P B F) (seen : Seen P) (s : State P) : Except Fault (Seen P) := do
  if ← G.isBlockEntry s.position then pure (seen.insert G.slot s.key) else pure seen

end Seen

end CallReach
