import CallReach.Data.Entries
import CallReach.Graph.Basic
import CallReach.Program.Basic

/-!
# Programs put together by hand

An assembly is a program in the making.  Instructions and blocks have numbers of their own, so that
one instruction may be appended to several blocks; it then knows the place it was given last.  The
successors of a block are those found when the assembly was last linked.

Main definitions:

* `Assembly.addFunction`, `newBlock`, `attach`, `addBlock`, `append`, `move`, `clear`, `link` — the
  building steps.
* `Assembly.ofProgram` — the assembly of a program.
* `Assembly.graph` — the graph of an assembly; it trusts the place each instruction remembers.
-/

namespace CallReach

open CallReach.Data (Entries)

/-- An instruction and the place it was given last: a block and an index. -/
structure Placed where
  instruction : Instruction
  home : Option (Nat × Nat) := none
  deriving DecidableEq, Repr, Inhabited

/-- A block of an assembly: the numbers of its instructions and of its successors. -/
structure DraftBlock where
  name : String
  /-- The name of the function the block was added to. -/
  function : Option String := none
  instructions : List Nat := []
  successors : List Nat := []
  deriving DecidableEq, Repr, Inhabited

/-- A function of an assembly: the numbers of its blocks by name. -/
structure DraftFunction where
  name : String
  intrinsic : Bool := false
  file : Option String := none
  blocks : Entries String Nat := []
  entry : Option String := none
  deriving DecidableEq, Repr, Inhabited

/-- A program in the making. -/
structure Assembly where
  name : String := "<module>"
  instructions : Array Placed := #[]
  blocks : Array DraftBlock := #[]
  functions : Entries String DraftFunction := []
  deriving DecidableEq, Repr, Inhabited

namespace DraftFunction

/-- The number of the block the function starts with, when it has one. -/
def entryBlock? (f : DraftFunction) : Option Nat := f.entry.bind f.blocks.get?

/-- Adds a block, in place of one of the same name; the first one becomes the entry. -/
def addBlock (f : DraftFunction) (name : String) (b : Nat) : DraftFunction :=
  { f with blocks := f.blocks.put name b, entry := some (f.entry.getD name) }

/-- The text that stands for a function in messages. -/
def describe (f : DraftFunction) : String :=
  Function.describeAs f.name f.blocks.length f.intrinsic

end DraftFunction

/-- The reference of a block, whose function may be missing. -/
def DraftBlock.ref (b : DraftBlock) : String :=
  BlockName.ref ⟨b.function.getD "<detached>", b.name⟩

/-- The text that stands for a block in messages. -/
def DraftBlock.describe (b : DraftBlock) : String :=
  Block.describe ⟨b.function.getD "<detached>", b.name⟩ b.instructions.length

namespace Assembly

variable (A : Assembly)

/-- A block by its number. -/
def blockAt (b : Nat) : DraftBlock := (A.blocks[b]?).getD default

/-- An instruction by its number. -/
def placedAt (p : Nat) : Placed := (A.instructions[p]?).getD default

/-- The reference of an instruction: that of its block and its index. -/
def ref (p : Nat) : String :=
  let placed := A.placedAt p
  match placed.home with
  | none => "<detached>:" ++ placed.instruction.text
  | some (b, i) => (A.blockAt b).ref ++ ":" ++ toString i

/-- The index an instruction remembers, -1 when it lies in no block. -/
def indexOf (p : Nat) : Int :=
  match (A.placedAt p).home with
  | none => -1
  | some (_, i) => i

/-- The text that stands for an instruction in messages. -/
def describe (p : Nat) : String := Instruction.describe (A.ref p) (A.placedAt p).instruction.text

/-- The text that stands for the assembly in messages. -/
def describeAll : String := Program.describeAs A.name A.functions.length

/-- A function by its name. -/
def function (name : String) : Except Fault DraftFunction :=
  match A.functions.get? name with
  | some f => .ok f
  | none => .error .missingEntry

/-- The number of a block by the names of its function and itself. -/
def block (b : BlockName) : Except Fault Nat := do
  match (← A.function b.function).blocks.get? b.block with
  | some n => pure n
  | none => throw .missingEntry

/-- The item at an index, counted from the end when the index is negative. -/
def itemAt {α : Type} (items : List α) (index : Int) : Except Fault α :=
  let place := if index < 0 then index + items.length else index
  match if place < 0 then none else items[place.toNat]? with
  | some a => .ok a
  | none => .error .outOfRange

/-- The number of the instruction at an index of a block. -/
def position (b : BlockName) (index : Int) : Except Fault Nat := do
  itemAt (A.blockAt (← A.block b)).instructions index

/-- Adds a function without blocks; one of the same name is replaced where it stands. -/
def addFunction (f : DraftFunction) : Assembly :=
  { A with functions := A.functions.put f.name f }

/-- Adds an empty block that belongs to no function. -/
def newBlock (name : String) : Nat × Assembly :=
  (A.blocks.size, { A with blocks := A.blocks.push { name } })

/-- Tells a block the function it belongs to. -/
def own (function : String) (b : Nat) : Assembly :=
  { A with blocks := A.blocks.modify b fun block => { block with function := some function } }

/-- Adds a block to a function. -/
def attach (function : String) (b : Nat) : Except Fault Assembly := do
  let f ← A.function function
  pure { A.own function b with
    functions := A.functions.put function (f.addBlock (A.blockAt b).name b) }

/-- Adds an empty block to a function. -/
def addBlock (b : BlockName) : Except Fault (Nat × Assembly) := do
  let (n, A) := A.newBlock b.block
  pure (n, ← A.attach b.function n)

/-- Adds an instruction that lies in no block. -/
def addDetached (instruction : Instruction) : Nat × Assembly :=
  (A.instructions.size, { A with instructions := A.instructions.push { instruction } })

/-- Puts an instruction at the end of a block. -/
def place (p b : Nat) : Assembly :=
  let home := some (b, (A.blockAt b).instructions.length)
  { A with
    instructions := A.instructions.modify p fun placed => { placed with home }
    blocks := A.blocks.modify b fun block =>
      { block with instructions := block.instructions ++ [p] } }

/-- Appends a new instruction to a block. -/
def append (b : BlockName) (instruction : Instruction) : Except Fault (Nat × Assembly) := do
  let n ← A.block b
  let (p, A) := A.addDetached instruction
  pure (p, A.place p n)

/-- Appends an instruction to one more block. -/
def move (p : Nat) (b : BlockName) : Except Fault Assembly := do
  pure (A.place p (← A.block b))

/-- Empties a block. -/
def clear (b : BlockName) : Except Fault (Nat × Assembly) := do
  let n ← A.block b
  pure (n, { A with blocks := A.blocks.modify n fun block => { block with instructions := [] } })

/-- Names the block a function starts with. -/
def setEntry (name : String) (entry : Option String) : Except Fault Assembly := do
  let f ← A.function name
  pure { A with functions := A.functions.put name { f with entry } }

/-- The last instruction of a block. -/
def last? (b : Nat) : Option Nat := (A.blockAt b).instructions.getLast?

/-- The numbers of the blocks that the last instruction of a block names. -/
def targetsOf (f : DraftFunction) (b : Nat) : Except Fault (List Nat) :=
  let targets := ((A.last? b).map fun p => (A.placedAt p).instruction.targets).getD []
  targets.mapM fun name =>
    match f.blocks.get? name with
    | some n => .ok n
    | none => .error .missingEntry

/-- Finds the successors of blocks in order, until one names no block. -/
def linkAll : List (DraftFunction × Nat) → Assembly → Assembly × Option Fault
  | [], A => (A, none)
  | (f, b) :: rest, A =>
    match A.targetsOf f b with
    | .ok successors =>
      linkAll rest { A with blocks := A.blocks.modify b fun block => { block with successors } }
    | .error fault => (A, some fault)

/-- Finds the successors of all blocks; those before a fault keep what was found for them. -/
def link : Assembly × Option Fault :=
  linkAll (A.functions.flatMap fun (_, f) => f.blocks.map fun (_, b) => (f, b)) A

/-- Appends new instructions to a block. -/
def appendAll (b : Nat) : List Instruction → Assembly → Assembly
  | [], A => A
  | i :: rest, A =>
    let (p, A) := A.addDetached i
    appendAll b rest (A.place p b)

/-- Adds blocks with their instructions to a function that is not part of the assembly yet. -/
def addBlocks : List Block → DraftFunction → Assembly → DraftFunction × Assembly
  | [], f, A => (f, A)
  | b :: rest, f, A =>
    let (n, A) := A.newBlock b.name
    addBlocks rest (f.addBlock b.name n) (appendAll n b.instructions (A.own f.name n))

/-- Adds functions with their blocks. -/
def addFunctions : List Function → Assembly → Assembly
  | [], A => A
  | f :: rest, A =>
    let (draft, A) := addBlocks f.blocks
      { name := f.name, intrinsic := f.intrinsic, file := f.file } A
    addFunctions rest (A.addFunction { draft with entry := f.entry })

/-- The assembly of a program: its functions one after the other, each with all of its blocks. -/
def ofProgram (M : Program) : Assembly := (addFunctions M.functions { name := M.name }).link.1

/-- What an instruction calls. -/
def calleeOf (p : Nat) : Callee String Nat :=
  match (A.placedAt p).instruction.callee.bind A.functions.get? with
  | none => {}
  | some f => { function := some f.name, entry := f.entryBlock? }

/-- The graph of an assembly. -/
def graph : Graph Nat Nat String where
  blockOf p :=
    match (A.placedAt p).home with
    | some (b, _) => .ok b
    | none => .error (.detached (A.describe p))
  positionsOf b := .ok (A.blockAt b).instructions
  firstOf b :=
    match (A.blockAt b).instructions with
    | p :: _ => .ok p
    | [] => .error (.emptyBlock (A.blockAt b).describe)
  nextOf p :=
    match (A.placedAt p).home with
    | none => .error (.detached (A.describe p))
    | some (b, i) =>
      match (A.blockAt b).instructions[i + 1]? with
      | some q => .ok (some q)
      | none => .error (.lastOfBlock (A.describe p) (A.blockAt b).describe)
  successorsOf b := (A.blockAt b).successors
  kindOf p := .ok (A.placedAt p).instruction.kind
  calleeOf := A.calleeOf
  isIntrinsic f := ((A.functions.get? f).map (·.intrinsic)).getD false
  isBlockEntry p :=
    match (A.placedAt p).home with
    | some (_, i) => .ok (i == 0)
    | none => .ok false
  blockContains b p :=
    match (A.placedAt p).home with
    | some (_, i) => .ok ((A.blockAt b).instructions[i]? == some p)
    | none => .ok false
  describe := A.describe
  describeBlock b := (A.blockAt b).describe
  slot := id

end Assembly

end CallReach
