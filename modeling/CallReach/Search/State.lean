import CallReach.Search.CallStack

/-!
# Search states

Where the search is, how far it has come, and which calls it is inside.
-/

namespace CallReach

/-- A position with its distance from the start and its pending calls. -/
structure State (P : Type) where
  position : P
  distance : Int := 0
  stack : CallStack P := {}
  deriving DecidableEq, Repr, Inhabited

namespace State

variable {P : Type}

/-- The state at `position`, `cost` further on; without a stack of its own it keeps this one's. -/
def advance (s : State P) (position : P) (cost : Int) (stack : Option (CallStack P) := none) :
    State P :=
  { position, distance := s.distance + cost, stack := stack.getD s.stack }

end State

end CallReach
