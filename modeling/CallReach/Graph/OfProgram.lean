import CallReach.Graph.Basic
import CallReach.Program.Basic

/-!
# The graph of a program

Positions are coordinates, so the first position of a block is the one with index zero, and a block
lists a position exactly when it is the position's own block and has an instruction there.
-/

namespace CallReach

/-- A number for a text: its characters, mixed. -/
def textSlot (s : String) : Nat :=
  s.toList.foldl (fun n c => (n * 31 + c.toNat) % 1099511627776) 0

namespace Program

variable (M : Program)

/-- The text of a position in messages. -/
def describePosition (p : Position) : String :=
  Instruction.describe p.ref (((M.instruction? p).map (·.text)).getD "")

/-- The number of instructions of a block, zero when there is no such block. -/
def blockSize (b : BlockName) : Nat := ((M.block? b).map (·.instructions.length)).getD 0

/-- The text of a block in messages. -/
def describeBlock (b : BlockName) : String := Block.describe b (M.blockSize b)

/-- What the instruction at a position calls. -/
def calleeAt (p : Position) : Callee String BlockName :=
  match ((M.instruction? p).bind (·.callee)).bind M.function? with
  | none => {}
  | some f =>
    { function := some f.name, entry := f.entryBlock?.map fun b => ⟨f.name, b.name⟩ }

/-- The graph of a program. -/
def graph : Graph Position BlockName String where
  blockOf p := if (M.block? p.blockName).isSome then .ok p.blockName
    else .error (.detached (M.describePosition p))
  positionsOf b := .ok ((List.range (M.blockSize b)).map fun i => ⟨b.function, b.block, i⟩)
  firstOf b := if 0 < M.blockSize b then .ok ⟨b.function, b.block, 0⟩
    else .error (.emptyBlock (M.describeBlock b))
  nextOf p :=
    if p.index + 1 < M.blockSize p.blockName then .ok (some { p with index := p.index + 1 })
    else .error (.lastOfBlock (M.describePosition p) (M.describeBlock p.blockName))
  successorsOf b :=
    (((M.block? b).map (·.successors)).getD []).map fun name => ⟨b.function, name⟩
  kindOf p := .ok (((M.instruction? p).map (·.kind)).getD .other)
  calleeOf := M.calleeAt
  isIntrinsic f := ((M.function? f).map (·.intrinsic)).getD false
  isBlockEntry p := .ok (p.index == 0)
  blockContains b p := .ok (b == p.blockName && p.index < M.blockSize b)
  describe := M.describePosition
  describeBlock := M.describeBlock
  slot p := textSlot p.function + 7 * textSlot p.block + p.index

end Program

end CallReach
