import CallReach.Program.Basic
import CallReach.Schema.Check

/-!
# Program descriptions

A description lists functions, their blocks and the lines of each block.  `Document.check` reads one
from plain data; `Document.build` makes a program of it: every block has lines, the last line of a
block and no other ends it, branches name blocks of their own function, and so does the entry.
-/

namespace CallReach

open CallReach.Data (Value)
open CallReach.Schema (Checked)

/-- The description of a function. -/
structure FunctionSpec where
  blocks : List (String × List String) := []
  entry : Option String := none
  intrinsic : Bool := false
  deriving DecidableEq, Repr, Inhabited

/-- The description of a program. -/
structure Document where
  name : Option String := none
  functions : List (String × FunctionSpec) := []
  deriving DecidableEq, Repr, Inhabited

/-- Why a description is no program. -/
inductive BuildError where
  /-- A line is no instruction. -/
  | line (cause : LineError)
  /-- A block has no lines. -/
  | emptyBlock (block : BlockName)
  /-- A line ends its block and others follow. -/
  | endsEarly (text : String) (block : BlockName)
  /-- The last line of a block does not end it. -/
  | notEnded (block : BlockName) (text : String)
  /-- A branch names no block of its function. -/
  | unknownTarget (block : BlockName) (target : String)
  /-- The entry names no block of its function. -/
  | noEntry (function entry : String)
  deriving DecidableEq, Repr

namespace BuildError

/-- The text of the error. -/
def message : BuildError → String
  | .line cause => cause.message
  | .emptyBlock b => "block '" ++ b.ref ++ "' is empty"
  | .endsEarly text b =>
    "'" ++ text ++ "' ends block '" ++ b.ref ++ "' but is not its last instruction"
  | .notEnded b text =>
    "block '" ++ b.ref ++ "' must end with a terminator or return, found '" ++ text ++ "'"
  | .unknownTarget b target =>
    "block '" ++ b.ref ++ "' branches to unknown block '" ++ target ++ "'"
  | .noEntry function entry =>
    "function '" ++ function ++ "' has no entry block '" ++ entry ++ "'"

end BuildError

namespace FunctionSpec

/-- The instructions of the lines of a block. -/
def buildLines (b : BlockName) : List String → Except BuildError (List Instruction)
  | [] => .ok []
  | text :: rest => do
    let instruction ← (Instruction.parse text).mapError .line
    if instruction.kind.endsBlock && !rest.isEmpty then throw (.endsEarly text b)
    if rest.isEmpty && !instruction.kind.endsBlock then throw (.notEnded b text)
    return instruction :: (← buildLines b rest)

/-- A block of a function, in which the names in `known` are blocks. -/
def buildBlock (function : String) (known : List String) (name : String) (lines : List String) :
    Except BuildError Block := do
  let b : BlockName := ⟨function, name⟩
  if lines.isEmpty then throw (.emptyBlock b)
  let block : Block := { name, instructions := ← buildLines b lines }
  match block.successors.find? fun target => !known.contains target with
  | some target => throw (.unknownTarget b target)
  | none => return block

/-- The function that a description describes. -/
def build (name : String) (spec : FunctionSpec) : Except BuildError Function := do
  let known := spec.blocks.map (·.1)
  let blocks ← spec.blocks.mapM fun (block, lines) => buildBlock name known block lines
  match spec.entry with
  | none => return { name, intrinsic := spec.intrinsic, blocks, entry := known.head? }
  | some entry =>
    if known.contains entry then
      return { name, intrinsic := spec.intrinsic, blocks, entry := some entry }
    else throw (.noEntry name entry)

/-- The fields of a function's description. -/
def fields : List String := ["blocks", "entry", "intrinsic"]

/-- Reads the description of a function. -/
def check : Value → Checked FunctionSpec :=
  Schema.checkRecord "FunctionSpec" fields fun get =>
    let blocks := Schema.optional get "blocks" [] (Schema.checkMap (Schema.checkList Schema.checkText))
    let entry := Schema.optional get "entry" none Schema.checkOptText
    let intrinsic := Schema.optional get "intrinsic" false Schema.checkBool
    (blocks.both (entry.both intrinsic)).map fun (blocks, entry, intrinsic) =>
      { blocks, entry, intrinsic }

end FunctionSpec

namespace Document

/-- The name of a program that is given none. -/
def defaultName : String := "<program>"

/-- The first name that is not empty. -/
def programName (given described : Option String) : String :=
  (([given, described].filterMap id).find? fun s => !s.isEmpty).getD defaultName

/-- The program that a description describes; a name given from outside wins over its own. -/
def build (d : Document) (name : Option String := none) : Except BuildError Program := do
  let functions ← d.functions.mapM fun (f, spec) => spec.build f
  return { name := programName name d.name, functions }

/-- A null in place of a function's description is an empty one. -/
def fillDeclarations : Value → Value
  | .map entries => .map (entries.map fun (k, v) =>
      (k, match v with | .null => .map [] | v => v))
  | v => v

/-- The fields of a description. -/
def fields : List String := ["name", "functions"]

/-- Reads a description. -/
def check : Value → Checked Document :=
  Schema.checkRecord "ProgramDocument" fields fun get =>
    let name := Schema.optional get "name" none Schema.checkOptText
    let functions := Schema.required get "functions" fun v =>
      Schema.checkMap FunctionSpec.check (fillDeclarations v)
    (name.both functions).map fun (name, functions) => { name, functions }

end Document

end CallReach
