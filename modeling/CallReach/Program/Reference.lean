import CallReach.Program.Basic
import CallReach.Text.Integer
import CallReach.Text.Split

/-!
# References to positions

A reference is a text that names a position of a program:

* `function` — the first instruction of the block the function starts with;
* `function:block` — the first instruction of a block;
* `function:block:index` — the instruction at an index;
* `function@line` — the first instruction on a line of the source.

Names hold neither a colon nor an at sign, and blanks at both ends of a reference do not count.
-/

namespace CallReach

/-- A text cut into the parts of a reference. -/
inductive Reference where
  | entry (function : String)
  | block (function block : String)
  | index (function block index : String)
  | line (function : String) (line : Int)
  deriving DecidableEq, Repr

/-- Why a reference names no position. -/
inductive ReferenceError where
  /-- There is nothing in it. -/
  | empty
  /-- What follows the at sign is no integer. -/
  | badLine (ref : String)
  /-- There are more than two colons. -/
  | malformed (ref : String)
  /-- The program has no such function. -/
  | unknownFunction (name : String)
  /-- The function is only declared. -/
  | noBody (name : String)
  /-- The function has no instruction on a line. -/
  | noLine (function : String) (line : Int)
  /-- The function has no such block. -/
  | noBlock (function block : String)
  /-- The index is no integer. -/
  | badIndex (ref : String)
  /-- The block has no instruction at an index. -/
  | noIndex (block : BlockName) (index : Int) (size : Nat)
  /-- The function has no instruction to start with. -/
  | noEntry (function : String)
  deriving DecidableEq, Repr

namespace ReferenceError

/-- The text of the error. -/
def message : ReferenceError → String
  | .empty => "empty position reference"
  | .badLine ref => "invalid line number in '" ++ ref ++ "'"
  | .malformed ref => "malformed position reference '" ++ ref ++ "'"
  | .unknownFunction name => "unknown function '" ++ name ++ "'"
  | .noBody name => "function '" ++ name ++ "' has no body"
  | .noLine function line =>
    "function '" ++ function ++ "' has no instruction on line " ++ toString line
  | .noBlock function block => "function '" ++ function ++ "' has no block '" ++ block ++ "'"
  | .badIndex ref => "invalid instruction index in '" ++ ref ++ "'"
  | .noIndex block index size =>
    "block '" ++ block.ref ++ "' has no instruction " ++ toString index ++ " (" ++
      toString size ++ " instructions)"
  | .noEntry function => "function '" ++ function ++ "' has no first instruction"

end ReferenceError

namespace Reference

/-- The parts of a text without blanks around it. -/
def ofTrimmed (cs : List Char) : Except ReferenceError Reference :=
  if cs.isEmpty then .error .empty
  else if cs.contains '@' then
    let function := String.ofList (cs.takeWhile (· != '@'))
    match Text.integer? (String.ofList ((cs.dropWhile (· != '@')).drop 1)) with
    | some n => .ok (.line function n)
    | none => .error (.badLine (String.ofList cs))
  else
    match (Text.splitChars ':' cs).map String.ofList with
    | [f] => .ok (.entry f)
    | [f, b] => .ok (.block f b)
    | [f, b, i] => .ok (.index f b i)
    | _ => .error (.malformed (String.ofList cs))

/-- The parts of a reference. -/
def parse (text : String) : Except ReferenceError Reference :=
  ofTrimmed (Text.trimChars text.toList)

end Reference

namespace Function

/-- A block of a function. -/
def blockNamed (f : Function) (name : String) : Except ReferenceError Block :=
  match f.block? name with
  | some b => .ok b
  | none => .error (.noBlock f.name name)

/-- The position at an index of a block. -/
def positionAt (f : Function) (b : Block) (index : Int) : Except ReferenceError Position :=
  if 0 ≤ index && index < b.instructions.length then .ok ⟨f.name, b.name, index.toNat⟩
  else .error (.noIndex ⟨f.name, b.name⟩ index b.instructions.length)

end Function

namespace Program

/-- A function that has a body. -/
def definedFunction (M : Program) (name : String) : Except ReferenceError Function :=
  match M.function? name with
  | none => .error (.unknownFunction name)
  | some f => if f.isDeclaration then .error (.noBody name) else .ok f

/-- The position that a reference names; `text` is the reference as it was written. -/
def locate (M : Program) (text : String) : Reference → Except ReferenceError Position
  | .line name line => do
    let f ← M.definedFunction name
    match f.positions.find? fun (_, instruction) => instruction.line == line with
    | some (p, _) => pure p
    | none => throw (.noLine name line)
  | .entry name => do
    let f ← M.definedFunction name
    match f.entryBlock? with
    | some b => if b.instructions.isEmpty then throw (.noEntry name) else pure ⟨f.name, b.name, 0⟩
    | none => throw (.noEntry name)
  | .block name block => do
    let f ← M.definedFunction name
    f.positionAt (← f.blockNamed block) 0
  | .index name block index => do
    let f ← M.definedFunction name
    let b ← f.blockNamed block
    match Text.integer? index with
    | some n => f.positionAt b n
    | none => throw (.badIndex text)

/-- The position that a text refers to. -/
def resolve (M : Program) (text : String) : Except ReferenceError Position := do
  let reference ← Reference.parse text
  M.locate (Text.trim text) reference

end Program

end CallReach
