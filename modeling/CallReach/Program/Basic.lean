import CallReach.Program.Instruction
import CallReach.Data.Value

/-!
# Programs

A program is a list of functions, a function a list of blocks, a block a list of instructions; names
are unique in each list.  A function without blocks is a declaration.  The successors of a block are
the blocks that its last instruction names, so they need no storage of their own.

Positions are coordinates: the name of a function, the name of a block and a place in it.
-/

namespace CallReach

/-- A straight line of instructions. -/
structure Block where
  name : String
  instructions : List Instruction := []
  deriving DecidableEq, Repr, Inhabited

/-- A function: blocks in order, and the name of the one it starts with. -/
structure Function where
  name : String
  intrinsic : Bool := false
  /-- The file the function was read from. -/
  file : Option String := none
  blocks : List Block := []
  entry : Option String := none
  deriving DecidableEq, Repr, Inhabited

/-- A program: functions in order. -/
structure Program where
  name : String
  functions : List Function := []
  deriving DecidableEq, Repr, Inhabited

/-- A block of a program by the names of its function and itself. -/
structure BlockName where
  function : String
  block : String
  deriving DecidableEq, Repr, Inhabited

/-- A place in a block of a program. -/
structure Position where
  function : String
  block : String
  index : Nat
  deriving DecidableEq, Repr, Inhabited

/-- The reference of a block: function and block with a colon between. -/
def BlockName.ref (b : BlockName) : String := b.function ++ ":" ++ b.block

namespace Position

/-- The block a position lies in. -/
def blockName (p : Position) : BlockName := ⟨p.function, p.block⟩

/-- The reference of a position: function, block and index with colons between. -/
def ref (p : Position) : String := p.blockName.ref ++ ":" ++ toString p.index

end Position

namespace Block

/-- The last instruction. -/
def last? (b : Block) : Option Instruction := b.instructions.getLast?

/-- The names of the successors, in the order and as often as the last instruction lists them. -/
def successors (b : Block) : List String := (b.last?.map (·.targets)).getD []

/-- The text that stands for a block in messages. -/
def describe (b : BlockName) (size : Nat) : String :=
  "BasicBlock(" ++ b.ref ++ ", " ++ toString size ++ " instructions)"

end Block

/-- The text that stands for an instruction in messages. -/
def Instruction.describe (ref text : String) : String :=
  "Instruction(" ++ ref ++ ", " ++ Text.quoted text ++ ")"

namespace Function

/-- The block of a given name. -/
def block? (f : Function) (name : String) : Option Block := f.blocks.find? (·.name == name)

/-- The block the function starts with, when it has one. -/
def entryBlock? (f : Function) : Option Block := f.entry.bind f.block?

/-- Whether the function has no body. -/
def isDeclaration (f : Function) : Bool := f.blocks.isEmpty

/-- The text that stands for a function in messages. -/
def describeAs (name : String) (blocks : Nat) (intrinsic : Bool) : String :=
  "Function(name='" ++ name ++ "', blocks=" ++ toString blocks ++ ", intrinsic=" ++
    Data.Value.boolText intrinsic ++ ")"

/-- The text that stands for this function in messages. -/
def describe (f : Function) : String := describeAs f.name f.blocks.length f.intrinsic

/-- The positions of a block and their instructions, in order. -/
def blockPositions (f : Function) (b : Block) : List (Position × Instruction) :=
  b.instructions.mapIdx fun i instruction => (⟨f.name, b.name, i⟩, instruction)

/-- The positions of a function and their instructions, in block order. -/
def positions (f : Function) : List (Position × Instruction) :=
  f.blocks.flatMap f.blockPositions

end Function

namespace Program

/-- The function of a given name. -/
def function? (p : Program) (name : String) : Option Function :=
  p.functions.find? (·.name == name)

/-- The block of a given name. -/
def block? (p : Program) (b : BlockName) : Option Block :=
  (p.function? b.function).bind (·.block? b.block)

/-- The instruction at a position. -/
def instruction? (p : Program) (at_ : Position) : Option Instruction :=
  (p.block? at_.blockName).bind (·.instructions[at_.index]?)

/-- Adds a function; one of the same name is replaced where it stands. -/
def addFunction (p : Program) (f : Function) : Program :=
  { p with
    functions :=
      if p.functions.any (·.name == f.name) then
        p.functions.map fun g => if g.name == f.name then f else g
      else p.functions ++ [f] }

/-- The text that stands for a program in messages. -/
def describeAs (name : String) (functions : Nat) : String :=
  "Module(name='" ++ name ++ "', functions=" ++ toString functions ++ ")"

/-- The text that stands for this program in messages. -/
def describe (p : Program) : String := describeAs p.name p.functions.length

/-- All positions with their instructions, in function and block order. -/
def positions (p : Program) : List (Position × Instruction) :=
  p.functions.flatMap (·.positions)

end Program

end CallReach
