import CallReach.Program.Instruction

/-!
# Graphs of positions

The search walks a `Graph`: positions of type `P` in blocks of type `B`, with calls to functions of
type `F`.  A graph answers questions about control flow and may fail to answer; it need not be
consistent, so the search checks what it relies on.  `Fault` is the cause of every failure.

Main definitions:

* `Graph` — the questions and their answers.
* `Graph.isFirst`, `Graph.lists` — two answers found from the others; a graph may have shorter ways.
* `Graph.check` — a position is part of its own block.
* `Graph.isDefinedCall` — a call that is entered: resolved, with a body, not intrinsic.
-/

namespace CallReach

/-- Why a graph, a cost or a search does not answer.  Positions, blocks and values appear by their
texts. -/
inductive Fault where
  /-- A position lies in no block. -/
  | detached (position : String)
  /-- A block has no first position. -/
  | emptyBlock (block : String)
  /-- A position is the last of its block. -/
  | lastOfBlock (position block : String)
  /-- A block does not list a position that claims to lie in it. -/
  | misplaced (position block : String)
  /-- An initial stack holds a position that is no call. -/
  | notACall (position : String)
  /-- A position is of no known kind. -/
  | unknownKind (position kind : String)
  /-- Nothing follows a position in its block. -/
  | noNext (position : String)
  /-- Nothing follows a call in its block. -/
  | noReturn (call : String)
  /-- A step cost is not a natural number. -/
  | badCost (position cost : String)
  /-- A search was run a second time. -/
  | alreadyRun
  /-- An empty stack has no top to remove. -/
  | emptyStack
  /-- A table has no entry for a key. -/
  | missingEntry
  /-- A list has no item at an index. -/
  | outOfRange
  deriving DecidableEq, Repr, Inhabited

namespace Fault

/-- The text of a fault. -/
def message : Fault → String
  | .detached p => p ++ " does not belong to any block"
  | .emptyBlock b => b ++ " has no instructions"
  | .lastOfBlock p b =>
    p ++ " is the last instruction of " ++ b ++ " and has no sequential successor"
  | .misplaced p b => "position " ++ p ++ " is not part of its own block " ++ b
  | .notACall p => "initial stack entry " ++ p ++ " is not a call position"
  | .unknownKind p k => "position " ++ p ++ " has no valid kind (got " ++ k ++ ")"
  | .noNext p => "position " ++ p ++ " has no sequential successor in its block"
  | .noReturn c => "call " ++ c ++ " has no position to return to"
  | .badCost p c =>
    "step cost for " ++ p ++ " must be a non-negative integer, got " ++ c
  | .alreadyRun => "a BFSearcher instance can only run once"
  | .emptyStack => "cannot pop from an empty call stack"
  | .missingEntry => "missing entry"
  | .outOfRange => "index out of range"

end Fault

/-- What a call calls: nothing known, a function without a body, or a function with the block it
starts with. -/
structure Callee (F B : Type) where
  function : Option F := none
  entry : Option B := none
  deriving DecidableEq, Repr, Inhabited

/-- Whether a call has no body that could be entered. -/
def Callee.isExternal {F B : Type} (c : Callee F B) : Bool := c.function.isNone || c.entry.isNone

/-- Control flow as the search asks for it. -/
structure Graph (P B F : Type) where
  /-- The block a position lies in. -/
  blockOf : P → Except Fault B
  /-- The positions of a block in order. -/
  positionsOf : B → Except Fault (List P)
  /-- The first position of a block. -/
  firstOf : B → Except Fault P
  /-- The position after a position in its block, if there is one. -/
  nextOf : P → Except Fault (Option P)
  /-- The blocks the last position of a block branches to. -/
  successorsOf : B → List B
  /-- The kind of a position, or the text of what stands in its place. -/
  kindOf : P → Except String Kind
  /-- What a call calls. -/
  calleeOf : P → Callee F B
  /-- Whether calls of a function are never entered. -/
  isIntrinsic : F → Bool
  /-- Whether a position is the first of its block. -/
  isBlockEntry : P → Except Fault Bool
  /-- Whether a block lists a position. -/
  blockContains : B → P → Except Fault Bool
  /-- The text of a position. -/
  describe : P → String
  /-- The text of a block. -/
  describeBlock : B → String
  /-- A number for a position.  The duplicate filter keeps keys with the same number together, so
  any function serves; one with many values makes look-ups short. -/
  slot : P → Nat

namespace Graph

variable {P B F : Type} (G : Graph P B F)

/-- Whether a position is the first of its block, by looking at the block. -/
def isFirst [BEq P] (p : P) : Except Fault Bool := do
  pure ((← G.firstOf (← G.blockOf p)) == p)

/-- Whether a block lists a position, by looking at the whole list. -/
def lists [BEq P] (b : B) (p : P) : Except Fault Bool := do
  pure ((← G.positionsOf b).contains p)

/-- A position is listed by its own block. -/
def check (p : P) : Except Fault Unit := do
  let b ← G.blockOf p
  if ← G.blockContains b p then pure () else throw (.misplaced (G.describe p) (G.describeBlock b))

/-- A call the search enters: resolved, with a body, not intrinsic. -/
def isDefinedCall (c : Callee F B) : Bool :=
  match c.function with
  | some f => c.entry.isSome && !G.isIntrinsic f
  | none => false

/-- The position after a call, where its callee returns to. -/
def returnOf (call : P) : Except Fault P := do
  match ← G.nextOf call with
  | some p => pure p
  | none => throw (.noReturn (G.describe call))

/-- The position after a position that is no branch. -/
def followerOf (p : P) : Except Fault P := do
  match ← G.nextOf p with
  | some q => pure q
  | none => throw (.noNext (G.describe p))

end Graph

end CallReach
