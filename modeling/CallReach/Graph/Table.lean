import CallReach.Data.Entries
import CallReach.Data.Value
import CallReach.Graph.OfProgram

/-!
# Graphs given by tables

A graph may be written down as tables: blocks list their positions, and further tables give kinds,
successors and callees.  Positions, blocks and functions are texts.  Nothing keeps the tables
consistent: a position may claim to lie in a block that does not list it, or be followed by anything.
-/

namespace CallReach

open CallReach.Data (Value Entries)

/-- What a table says about a function. -/
structure TableFunction where
  entry : Option String := none
  intrinsic : Bool := false
  deriving DecidableEq, Repr, Inhabited

/-- A graph as tables. -/
structure Table where
  blocks : Entries String (List String)
  /-- Positions that claim a block of their own. -/
  owners : Entries String String := []
  /-- Positions whose follower is not the next one of their block. -/
  followers : Entries String (Option String) := []
  successors : Entries String (List String) := []
  kinds : Entries String Value := []
  callees : Entries String (Option String) := []
  functions : Entries String TableFunction := []

namespace Table

variable (T : Table)

/-- The positions that a block lists. -/
def positionsOf (b : String) : Except Fault (List String) :=
  match T.blocks.get? b with
  | some ps => .ok ps
  | none => .error .missingEntry

/-- The block a position lies in: the one it claims, or the last one that lists it. -/
def blockOf (p : String) : Except Fault String :=
  match T.owners.get? p with
  | some b => .ok b
  | none =>
    match T.blocks.reverse.find? fun (_, ps) => ps.contains p with
    | some (b, _) => .ok b
    | none => .error .missingEntry

/-- The first position of a block. -/
def firstOf (b : String) : Except Fault String := do
  match ← T.positionsOf b with
  | p :: _ => pure p
  | [] => throw .outOfRange

/-- The position after the first occurrence of `p`. -/
def after (p : String) : List String → Option String
  | [] => none
  | q :: rest => if q == p then rest.head? else after p rest

/-- The position that follows another. -/
def nextOf (p : String) : Except Fault (Option String) :=
  match T.followers.get? p with
  | some next => .ok next
  | none => do pure (after p (← T.positionsOf (← T.blockOf p)))

/-- The kind of a position, `other` when no table gives one. -/
def kindOf (p : String) : Except String Kind :=
  match T.kinds.get? p with
  | none => .ok .other
  | some v =>
    match v with
    | .text name =>
      match Kind.ofName? name with
      | some k => .ok k
      | none => .error v.shown
    | v => .error v.shown

/-- What a position calls. -/
def calleeOf (p : String) : Callee String String :=
  match (T.callees.get? p).join with
  | none => {}
  | some name => { function := some name, entry := (T.functions.get? name).bind (·.entry) }

/-- The graph that the tables give. -/
def graph : Graph String String String where
  blockOf := T.blockOf
  positionsOf := T.positionsOf
  firstOf := T.firstOf
  nextOf := T.nextOf
  successorsOf b := (T.successors.get? b).getD []
  kindOf := T.kindOf
  calleeOf := T.calleeOf
  isIntrinsic f := ((T.functions.get? f).map (·.intrinsic)).getD false
  isBlockEntry p := do pure ((← T.firstOf (← T.blockOf p)) == p)
  blockContains b p := do pure ((← T.positionsOf b).contains p)
  describe := Text.quoted
  describeBlock := Text.quoted
  slot := textSlot

end Table

end CallReach
