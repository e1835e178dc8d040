import CallReach.Search.Config
import CallReach.Search.Frontier
import CallReach.Search.Seen

/-!
# The search

A search measures the distance from a start to a target.  It keeps the states that wait to be
expanded in a frontier and takes the nearest one first; a call that is entered pushes itself on the
stack of the new state, and a return goes on after the innermost call.  A call of a function that is
already active on the stack is not entered.

Main definitions:

* `Searcher` — a search in progress, with its counters.
* `Move` — a step to a position with a stack; `Expansion` — what can follow a state.
* `Searcher.accept` — takes a state into the frontier, or counts why not.
* `Searcher.step` — one expansion.
* `Searcher.run` — expansions until a verdict; a fault leaves the search as it was at that moment.
-/

namespace CallReach

/-- Why a search ended. -/
inductive StopReason where
  | found
  | exhausted
  | distanceBound
  | iterationBound
  deriving DecidableEq, Repr, Inhabited

/-- The word for a reason. -/
def StopReason.name : StopReason → String
  | .found => "found"
  | .exhausted => "exhausted"
  | .distanceBound => "distance_bound"
  | .iterationBound => "iteration_bound"

/-- The counters of a search. -/
structure Stats where
  iterations : Nat := 0
  recursionPruned : Nat := 0
  duplicatesDropped : Nat := 0
  queueDropped : Nat := 0
  peakFrontier : Nat := 0
  deriving DecidableEq, Repr, Inhabited

/-- What a search found. -/
structure SearchResult where
  distance : Option Int
  reason : StopReason
  stats : Stats
  deriving DecidableEq, Repr, Inhabited

/-- Whether the target was found. -/
def SearchResult.reachable (r : SearchResult) : Bool := r.distance.isSome

/-- A step to a position, with the calls pending there. -/
structure Move (P : Type) where
  position : P
  stack : CallStack P
  deriving DecidableEq, Repr, Inhabited

/-- What can follow a state. -/
inductive Expansion (P : Type) where
  /-- A call that would be recursive. -/
  | pruned
  /-- The steps, each of which may have no answer, in order. -/
  | moves (list : List (Except Fault (Move P)))

section Expansion

variable {P B F : Type} [DecidableEq F]

/-- The one step to a position, if there is an answer. -/
def Expansion.single (target : Except Fault P) (stack : CallStack P) : Expansion P :=
  .moves [target.map fun p => ⟨p, stack⟩]

/-- What follows a state at a call. -/
def expandCall (G : Graph P B F) (s : State P) : Expansion P :=
  let callee := G.calleeOf s.position
  match callee.entry with
  | some entry =>
    if G.isDefinedCall callee then
      if s.stack.isRecursive G s.position then .pruned
      else .single (G.firstOf entry) (s.stack.push s.position)
    else .single (G.followerOf s.position) s.stack
  | none => .single (G.followerOf s.position) s.stack

/-- What follows a state at a return: nothing when no call is pending. -/
def expandReturn (G : Graph P B F) (s : State P) : Expansion P :=
  match s.stack.pop with
  | .ok (call, stack) => .single (G.returnOf call) stack
  | .error _ => .moves []

/-- What follows a state at a terminator: the first positions of the successors of its block. -/
def expandBranch (G : Graph P B F) (s : State P) : Except Fault (Expansion P) := do
  let b ← G.blockOf s.position
  pure (.moves ((G.successorsOf b).map fun t => (G.firstOf t).map fun p => ⟨p, s.stack⟩))

/-- What follows a state. -/
def expand (G : Graph P B F) (s : State P) : Except Fault (Expansion P) :=
  match G.kindOf s.position with
  | .ok .call => .ok (expandCall G s)
  | .ok .ret => .ok (expandReturn G s)
  | .ok .terminator => expandBranch G s
  | .ok .other => .ok (.single (G.followerOf s.position) s.stack)
  | .error shown => .error (.unknownKind (G.describe s.position) shown)

end Expansion

/-- A search in progress. -/
structure Searcher (P B F : Type) where
  graph : Graph P B F
  config : Config P
  start : State P
  target : P
  frontier : Frontier (State P)
  seen : Seen P := {}
  iterations : Nat := 0
  recursionPruned : Nat := 0
  duplicatesDropped : Nat := 0
  queueDropped : Nat := 0
  /-- The states taken from the frontier to be expanded, the last one first. -/
  expanded : List (State P) := []
  /-- What the search found, once it has ended. -/
  result : Option SearchResult := none

namespace Searcher

variable {P B F : Type} [DecidableEq P] [DecidableEq F]

/-- Takes a state into the frontier.  A duplicate and a state that finds the frontier full are
counted instead; the first position of a block is checked before it is taken. -/
def accept (r : Searcher P B F) (s : State P) : Except Fault (Searcher P B F) := do
  if ← r.seen.wasSeen r.graph s then
    pure { r with duplicatesDropped := r.duplicatesDropped + 1 }
  else
    if ← r.graph.isBlockEntry s.position then r.graph.check s.position
    match r.frontier.push? s.distance s with
    | none => pure { r with queueDropped := r.queueDropped + 1 }
    | some frontier => pure { r with frontier, seen := ← r.seen.mark r.graph s }

/-- Makes one step from a state: the target of the step comes first, then its cost, then the
admission of the new state. -/
def follow (r : Searcher P B F) (s : State P) (move : Except Fault (Move P)) :
    Except Fault (Searcher P B F) := do
  let m ← move
  let cost ← r.config.costOf r.graph s.position
  r.accept (s.advance m.position cost (some m.stack))

/-- Makes the steps in order, until one has a fault. -/
def followAll (r : Searcher P B F) (s : State P) :
    List (Except Fault (Move P)) → Searcher P B F × Option Fault
  | [] => (r, none)
  | m :: rest =>
    match r.follow s m with
    | .ok r => followAll r s rest
    | .error fault => (r, some fault)

/-- Expands a state that has been taken from the frontier. -/
def expandState (r : Searcher P B F) (s : State P) : Searcher P B F × Option Fault :=
  match expand r.graph s with
  | .error fault => (r, some fault)
  | .ok .pruned => ({ r with recursionPruned := r.recursionPruned + 1 }, none)
  | .ok (.moves list) => r.followAll s list

/-- What to do next. -/
inductive Verdict (P : Type) where
  | stop (reason : StopReason)
  | expand (head : State P) (rest : Frontier (State P))

/-- The verdict on a search: an empty frontier, a nearest state at the distance bound, the bound on
expansions and a nearest state at the target end it, in this order. -/
def verdict (r : Searcher P B F) : Verdict P :=
  match r.frontier.pop? with
  | none => .stop .exhausted
  | some (head, rest) =>
    if head.distance ≥ r.config.maxDistance then .stop .distanceBound
    else if r.iterations ≥ r.config.maxIterations then .stop .iterationBound
    else if head.item.position = r.target then .stop .found
    else .expand head.item rest

/-- One expansion of the nearest state. -/
def step (r : Searcher P B F) (head : State P) (rest : Frontier (State P)) :
    Searcher P B F × Option Fault :=
  match expandState { r with frontier := rest, expanded := head :: r.expanded } head with
  | (r, none) => ({ r with iterations := r.iterations + 1 }, none)
  | (r, some fault) => (r, some fault)

/-- The counters of a search. -/
def stats (r : Searcher P B F) : Stats where
  iterations := r.iterations
  recursionPruned := r.recursionPruned
  duplicatesDropped := r.duplicatesDropped
  queueDropped := r.queueDropped
  peakFrontier := r.frontier.peak

/-- Ends a search. -/
def finish (r : Searcher P B F) (reason : StopReason) :
    Searcher P B F × Except Fault SearchResult :=
  let distance := if reason = .found then r.frontier.minDistance? else none
  let result : SearchResult := { distance, reason, stats := r.stats }
  ({ r with result := some result }, .ok result)

/-- Expansions until a verdict, at most `fuel` of them. -/
def runFor : Nat → Searcher P B F → Searcher P B F × Except Fault SearchResult
  | fuel, r =>
    match r.verdict with
    | .stop reason => r.finish reason
    | .expand head rest =>
      match fuel with
      | 0 => r.finish .iterationBound
      | fuel + 1 =>
        match r.step head rest with
        | (r, none) => runFor fuel r
        | (r, some fault) => (r, .error fault)

/-- Runs a search to its end.  A search that has ended is not run again; one that met a fault goes on
from where it stood. -/
def run (r : Searcher P B F) : Searcher P B F × Except Fault SearchResult :=
  match r.result with
  | some _ => (r, .error .alreadyRun)
  | none => runFor (r.config.maxIterations - r.iterations) r

/-- The search before its first state is admitted. -/
def blank (G : Graph P B F) (start target : P) (calls : List P) (config : Config P) :
    Searcher P B F where
  graph := G
  config := config
  start := { position := start, stack := .ofCalls calls }
  target := target
  frontier := .empty config.maxQueueLength

/-- The calls of an initial stack are positions of their blocks and calls. -/
def checkCalls (G : Graph P B F) : List P → Except Fault Unit
  | [] => pure ()
  | call :: rest => do
    G.check call
    match G.kindOf call with
    | .ok .call => checkCalls G rest
    | _ => throw (.notACall (G.describe call))

/-- A search from `start` to `target`, inside the given calls (the outermost first). -/
def create (G : Graph P B F) (start target : P) (calls : List P) (config : Config P) :
    Except Fault (Searcher P B F) := do
  G.check start
  checkCalls G calls
  let r := blank G start target calls config
  r.accept r.start

/-- The states expanded, the first one first. -/
def trace (r : Searcher P B F) : List (State P) := r.expanded.reverse

end Searcher

end CallReach
