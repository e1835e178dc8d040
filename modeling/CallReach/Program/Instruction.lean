import CallReach.Text.Blank
import CallReach.Text.Case

/-!
# Instructions

An instruction is an opcode with its text.  For the search only its kind counts: calls, returns,
terminators that end a block with branches, and all others.  `Instruction.parse` reads one line of a
program description: the first word, in lower case, is the opcode.
-/

namespace CallReach

/-- What an instruction does to the flow of control. -/
inductive Kind where
  | call
  | ret
  | terminator
  | other
  deriving DecidableEq, Repr, Inhabited

namespace Kind

/-- The word for a kind. -/
def name : Kind → String
  | .call => "call"
  | .ret => "return"
  | .terminator => "terminator"
  | .other => "other"

/-- The kinds in their order of listing. -/
def all : List Kind := [.call, .ret, .terminator, .other]

/-- The kind with a given name. -/
def ofName? (s : String) : Option Kind := all.find? (·.name == s)

/-- Whether an instruction of this kind ends its block. -/
def endsBlock (k : Kind) : Bool := k == .terminator || k == .ret

end Kind

/-- One instruction of a block. -/
structure Instruction where
  opcode : String
  kind : Kind
  text : String
  line : Int := 0
  /-- The function a call names. -/
  callee : Option String := none
  /-- The blocks a terminator names. -/
  targets : List String := []
  deriving DecidableEq, Repr, Inhabited

/-- Why a line is not an instruction. -/
inductive LineError where
  /-- There is no word in it. -/
  | blank
  /-- A call names nothing. -/
  | noCallee (text : String)
  /-- A branch names no block. -/
  | noTarget (opcode text : String)
  deriving DecidableEq, Repr

namespace LineError

/-- The text of the error. -/
def message : LineError → String
  | .blank => "empty instruction"
  | .noCallee text => "call without a callee: '" ++ text ++ "'"
  | .noTarget opcode text =>
    "'" ++ opcode ++ "' needs at least one target block: '" ++ text ++ "'"

end LineError

namespace Instruction

/-- An instruction whose text, when there is none, is the opcode. -/
def ofOpcode (opcode : String) (kind : Kind) (text : String) (line : Int)
    (callee : Option String) (targets : List String) : Instruction :=
  { opcode, kind, text := if text.isEmpty then opcode else text, line, callee, targets }

/-- The opcodes that return to the caller. -/
def returnOpcodes : List String := ["ret", "return"]

/-- The opcodes that branch to the blocks they name. -/
def branchOpcodes : List String := ["br", "jmp", "jump", "goto", "switch"]

/-- The opcodes that end a block and go nowhere. -/
def haltOpcodes : List String := ["unreachable", "raise", "throw", "halt"]

/-- Reads one line of a description. -/
def parse (text : String) (line : Int := 0) : Except LineError Instruction :=
  match Text.words text with
  | [] => .error .blank
  | word :: operands =>
    let opcode := Text.lower word
    if opcode == "call" then
      match operands with
      | [] => .error (.noCallee text)
      | callee :: _ => .ok { opcode, kind := .call, text, line, callee := some callee }
    else if returnOpcodes.contains opcode then .ok { opcode, kind := .ret, text, line }
    else if branchOpcodes.contains opcode then
      if operands.isEmpty then .error (.noTarget opcode text)
      else .ok { opcode, kind := .terminator, text, line, targets := operands }
    else if haltOpcodes.contains opcode then .ok { opcode, kind := .terminator, text, line }
    else .ok { opcode, kind := .other, text, line }

end Instruction

end CallReach
