import CallReach.Program.Basic
import CallReach.Source.Calls
import CallReach.Source.Printer

/-!
# Programs from source text

Each function of a source text becomes a function of a program: its statements are cut into blocks,
and every call in a statement is an instruction before that of the statement itself.  The statements
outside of functions and classes make up a function of their own, `<module>`; a method is named after
its class.

* `if`, `while`, `for`, `try` and `match` end the current block with a branch to the blocks of their
  parts, which lead on to a common block after them.
* `return` ends a block with a return, `raise` with a branch to nowhere; what follows lies in a block
  that nothing leads to.
* `break` and `continue` jump out of the innermost loop, or to its head.
* A `match` can pass all its cases by, unless the last one matches everything.

An instruction shows the text of what it is made from, so nothing is made of statements that cannot
be written.

Main definitions:

* `Builder` — the blocks made so far, and the one that is being filled.
* `lowerStmt`, `lowerBody` — the blocks of statements.
* `lowerProgram` — the program of a source text.
-/

namespace CallReach.Source

/-- The class that a function is a method of, if there is one, and the methods of that class. -/
structure Scope where
  className : Option String := none
  methods : List String := []

/-- A block by its number and its name. -/
structure Label where
  number : Nat
  name : String
  deriving DecidableEq, Repr, Inhabited

/-- A loop: the block of its head, and the block after it. -/
structure Loop where
  head : Label
  after : Label
  deriving DecidableEq, Repr, Inhabited

/-- The blocks of a function in the making.  The current block is the one that instructions are added
to; there is none after a block has been ended. -/
structure Builder where
  blocks : List Block := [{ name := "entry" }]
  current : Option Nat := some 0
  deriving DecidableEq, Repr, Inhabited

/-- A step in the making of blocks, which fails when a text cannot be written. -/
abbrev Build := StateT Builder Option

namespace Build

/-- Adds an empty block, named by a word and its number. -/
def newBlock (word : String) : Build Label := do
  let b ← get
  let number := b.blocks.length
  let name := word ++ "." ++ toString number
  let block : Block := { name }
  set { b with blocks := b.blocks ++ [block] }
  return { number, name }

/-- Adds an empty block if a condition holds. -/
def newBlockIf (condition : Bool) (word : String) : Build (Option Label) := do
  if condition then return some (← newBlock word) else return none

/-- Adds an empty block for each item. -/
def newBlocks {α : Type} (word : String) : List α → Build (List Label)
  | [] => return []
  | _ :: rest => do
    let label ← newBlock word
    return label :: (← newBlocks word rest)

/-- Goes on in a block. -/
def goTo (label : Label) : Build Unit := modify fun b => { b with current := some label.number }

/-- Leaves the current block. -/
def leave : Build Unit := modify fun b => { b with current := none }

/-- The number of the current block; without one, a block is added that nothing leads to. -/
def currentBlock : Build Nat := do
  match (← get).current with
  | some n => return n
  | none =>
    let label ← newBlock "dead"
    goTo label
    return label.number

/-- Adds an instruction to the current block. -/
def emit (i : Instruction) : Build Unit := do
  let n ← currentBlock
  modify fun b => { b with
    blocks := b.blocks.modify n fun block =>
      { block with instructions := block.instructions ++ [i] } }

/-- Ends the current block with a branch. -/
def terminate (opcode : String) (targets : List Label) (line : Nat) (text : String) :
    Build Unit := do
  emit { opcode, kind := .terminator, text, line, targets := targets.map (·.name) }
  leave

/-- Ends the current block, if there is one, with a jump. -/
def jump (target : Label) (line : Nat) : Build Unit := do
  if (← get).current.isSome then terminate "jump" [target] line "jump"

end Build

open Build

/-- The function a call names: a method of the same class, or else the text of the callee. -/
def Scope.callee (scope : Scope) (e : Expr) : String :=
  match e with
  | .attribute (.name owner) method =>
    match scope.className with
    | some c =>
      if (owner == "self" || owner == "cls") && scope.methods.contains method then
        c ++ "." ++ method
      else e.text
    | none => e.text
  | e => e.text

/-- The instruction of a call. -/
def Scope.callInstruction (scope : Scope) (c : CallSite) : Instruction :=
  let callee := scope.callee c.callee
  { opcode := "call", kind := .call, text := "call " ++ callee, line := c.line,
    callee := some callee }

/-- Adds the instructions of calls. -/
def emitCalls (scope : Scope) (calls : List CallSite) : Build Unit :=
  calls.forM fun c => do
    guard c.callee.writable
    emit (scope.callInstruction c)

/-- The word for a simple statement. -/
def Simple.opcode : Simple → String
  | .expression _ => "expr"
  | .assign _ _ => "assign"
  | .augmented _ _ _ => "augassign"
  | .annotated _ _ _ _ => "annassign"
  | .delete _ => "delete"
  | .assertion _ _ => "assert"
  | .pass => "pass"
  | .importNames _ => "import"
  | .importFrom _ _ _ => "importfrom"
  | .global _ => "global"
  | .nonlocal _ => "nonlocal"

/-- Adds an instruction that goes on to the next one. -/
def emitOther (opcode text : String) (line : Nat) : Build Unit :=
  emit { opcode, kind := .other, text, line }

/-- Adds the instruction of a return. -/
def emitReturn (text : String) (line : Nat) : Build Unit := do
  emit { opcode := "return", kind := .ret, text, line }
  leave

/-- Whether a test always holds. -/
def alwaysTrue : Expr → Bool
  | .constant c => c.truthy
  | _ => false

/-- Whether a case matches everything. -/
def Case.isIrrefutable : Case → Bool
  | .mk (.any _) none _ => true
  | _ => false

mutual

/-- Adds the instructions of a statement, inside the given innermost loop. -/
def lowerStmt (scope : Scope) (loop : Option Loop) : Stmt → Build Unit
  | .simple span s => do
    emitCalls scope s.calls
    guard s.writable
    emitOther s.opcode s.text span.first
  | .functionDef span isAsync decorators name params returns body => do
    emitCalls scope (callsOfAll decorators)
    guard (Stmt.functionDef span isAsync decorators name params returns body).writable
    emitOther (if isAsync then "asyncfunctiondef" else "functiondef")
      (definitionText decorators (functionHead isAsync name params returns)) span.first
  | .classDef span decorators name bases keywords body => do
    emitCalls scope (callsOfAll decorators)
    guard (Stmt.classDef span decorators name bases keywords body).writable
    emitOther "classdef" (definitionText decorators (classHead name bases keywords)) span.first
  | .ret span value => do
    emitCalls scope (callsOfOption value)
    guard (optionWritable value)
    emitReturn (returnText value) span.first
  | .raise span exception cause => do
    emitCalls scope (callsOfOption exception ++ callsOfOption cause)
    guard (optionWritable exception && optionWritable cause)
    terminate "raise" [] span.first (raiseText exception cause)
  | .exit span => do
    if let some l := loop then terminate "jump" [l.after] span.first "break"
  | .again span => do
    if let some l := loop then terminate "jump" [l.head] span.first "continue"
  | .branch span test body orelse => do
    emitCalls scope test.calls
    let thenBlock ← newBlock "if.then"
    let elseBlock ← newBlockIf (!orelse.isEmpty) "if.else"
    let join ← newBlock "if.end"
    guard test.writable
    terminate "branch" [thenBlock, elseBlock.getD join] span.first ("if " ++ test.text)
    goTo thenBlock
    lowerBody scope loop body
    jump join span.first
    if let some label := elseBlock then
      goTo label
      lowerBody scope loop orelse
      jump join span.first
    goTo join
  | .whileLoop span test body orelse => do
    let head ← newBlock "while.cond"
    let bodyBlock ← newBlock "while.body"
    let elseBlock ← newBlockIf (!orelse.isEmpty) "while.else"
    let after ← newBlock "while.end"
    jump head span.first
    goTo head
    emitCalls scope test.calls
    let targets := if alwaysTrue test then [bodyBlock] else [bodyBlock, elseBlock.getD after]
    guard test.writable
    terminate "branch" targets span.first ("while " ++ test.text)
    goTo bodyBlock
    lowerBody scope (some ⟨head, after⟩) body
    jump head span.first
    if let some label := elseBlock then
      goTo label
      lowerBody scope loop orelse
      jump after span.first
    goTo after
  | .forLoop span target iter body orelse => do
    emitCalls scope iter.calls
    let head ← newBlock "for.head"
    let bodyBlock ← newBlock "for.body"
    let elseBlock ← newBlockIf (!orelse.isEmpty) "for.else"
    let after ← newBlock "for.end"
    jump head span.first
    goTo head
    guard (target.writable && iter.writable)
    terminate "for" [bodyBlock, elseBlock.getD after] span.first
      ("for " ++ target.text ++ " in " ++ iter.text)
    goTo bodyBlock
    lowerBody scope (some ⟨head, after⟩) body
    jump head span.first
    if let some label := elseBlock then
      goTo label
      lowerBody scope loop orelse
      jump after span.first
    goTo after
  | .within span items body => do
    emitCalls scope (callsOfAll (items.map (·.context)))
    guard (items.all WithItem.writable)
    emitOther "with" ("with " ++ ", ".intercalate (items.map WithItem.text)) span.first
    lowerBody scope loop body
  | .attempt span body handlers orelse final => do
    let bodyBlock ← newBlock "try.body"
    let handlerBlocks ← newBlocks "except" handlers
    let finalBlock ← newBlockIf (!final.isEmpty) "finally"
    let join ← newBlock "try.end"
    let after := finalBlock.getD join
    terminate "try" (bodyBlock :: handlerBlocks) span.first "try"
    goTo bodyBlock
    lowerBody scope loop body
    lowerBody scope loop orelse
    jump after span.first
    lowerHandlers scope loop after handlerBlocks handlers
    if let some label := finalBlock then
      goTo label
      lowerBody scope loop final
      jump join span.first
    goTo join
  | .select span subject cases => do
    emitCalls scope subject.calls
    let caseBlocks ← newBlocks "case" cases
    let join ← newBlock "match.end"
    let passes := !(cases.getLast?.map Case.isIrrefutable).getD false
    guard subject.writable
    terminate "match" (caseBlocks ++ if passes then [join] else []) span.first
      ("match " ++ subject.text)
    lowerCases scope loop join span.first caseBlocks cases
    goTo join

/-- Adds the instructions of statements. -/
def lowerBody (scope : Scope) (loop : Option Loop) : List Stmt → Build Unit
  | [] => pure ()
  | s :: rest => do
    lowerStmt scope loop s
    lowerBody scope loop rest

/-- Fills the blocks of handlers. -/
def lowerHandlers (scope : Scope) (loop : Option Loop) (after : Label) (labels : List Label) :
    List Handler → Build Unit
  | [] => pure ()
  | .mk line exception body :: rest => do
    if let some label := labels.head? then
      goTo label
      emitCalls scope (callsOfOption exception)
      lowerBody scope loop body
      jump after line
    lowerHandlers scope loop after labels.tail rest

/-- Fills the blocks of cases. -/
def lowerCases (scope : Scope) (loop : Option Loop) (join : Label) (line : Nat)
    (labels : List Label) : List Case → Build Unit
  | [] => pure ()
  | .mk _ guard' body :: rest => do
    if let some label := labels.head? then
      goTo label
      emitCalls scope (callsOfOption guard')
      lowerBody scope loop body
      jump join line
    lowerCases scope loop join line labels.tail rest

end

/-- Adds the instructions of the statements of a function, and a return on the line it ends on unless
they end in one. -/
def lowerWithReturn (scope : Scope) (body : List Stmt) (lastLine : Nat) : Build Unit := do
  lowerBody scope none body
  if (← get).current.isSome then emitReturn "return (implicit)" lastLine

/-- The blocks of a function. -/
def lowerBlocks (scope : Scope) (body : List Stmt) (lastLine : Nat) : Option (List Block) :=
  ((lowerWithReturn scope body lastLine).run {}).map fun (_, b) => b.blocks

/-- A function from its statements, if all that it shows can be written. -/
def lowerFunction (scope : Scope) (file : Option String) (name : String) (body : List Stmt)
    (lastLine : Nat) : Option Function :=
  (lowerBlocks scope body lastLine).map fun blocks => { name, file, blocks, entry := some "entry" }

/-- The name of the function of statements outside of functions. -/
def moduleFunction : String := "<module>"

/-- Whether a statement is a definition. -/
def Stmt.isDefinition : Stmt → Bool
  | .functionDef .. => true
  | .classDef .. => true
  | _ => false

/-- Whether a statement defines a function. -/
def Stmt.isFunction : Stmt → Bool
  | .functionDef .. => true
  | _ => false

/-- The names of the functions that statements define. -/
def functionNames (body : List Stmt) : List String :=
  body.filterMap fun
    | .functionDef _ _ _ name _ _ _ => some name
    | _ => none

/-- The methods of a class: those of the last definition of its name. -/
def methodsOf (body : List Stmt) (className : String) : List String :=
  (body.reverse.findSome? fun
    | .classDef _ _ name _ _ classBody =>
      if name == className then some (functionNames classBody) else none
    | _ => none).getD []

/-- The functions that a definition makes, among the statements outside of functions. -/
def lowerDefinition (top : List Stmt) (file : Option String) : Stmt → Option (List Function)
  | .functionDef span _ _ name _ _ body => do return [← lowerFunction {} file name body span.last]
  | .classDef _ _ className _ _ classBody =>
    let scope : Scope := { className, methods := methodsOf top className }
    (classBody.filter Stmt.isFunction).mapM fun
      | .functionDef span _ _ name _ _ body =>
        lowerFunction scope file (className ++ "." ++ name) body span.last
      | _ => none
  | _ => some []

/-- The program of a source text, if all that it shows can be written. -/
def lowerProgram (body : List Stmt) (name : String) (file : Option String) : Option Program := do
  let lastLine := (body.map (·.span.last)).foldl max 0
  let main ← lowerFunction {} file moduleFunction (body.filter fun s => !s.isDefinition) lastLine
  let others ← body.mapM (lowerDefinition body file)
  return (main :: others.flatten).foldl Program.addFunction { name }

end CallReach.Source
