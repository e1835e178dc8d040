import CallReach.Source.Lowering
import Mathlib.Data.List.TakeWhile

/-!
# Structured control flow

What the statements of a function do, told without blocks: a list of tasks is carried out from the
front, and a statement comes down to simpler tasks.  Instructions come out in the order in which
they are reached.  Which way a branch goes is left open, so tasks can be carried out in many ways,
some of which never end.

* `Task.ofStmt` : what a statement comes down to, before the tasks that wait behind it.  `break` and
  `continue` drop the tasks up to the innermost loop, `return` and `raise` drop all of them.
* `Task.Step`, `Task.Runs` : carrying out tasks.
* `Task.Begins` : the instructions that come out of the tasks when they are watched for a while, the
  finite beginnings of all that can come out of them.

Instructions are shown without the names of the blocks that they lead to.
-/

namespace CallReach.Source

/-- An instruction without the blocks that it leads to. -/
def shown (i : Instruction) : Instruction := { i with targets := [] }

/-- The instruction of a branch, without the blocks that it leads to. -/
def branchInstruction (opcode text : String) (line : Nat) : Instruction :=
  { opcode, kind := .terminator, text, line }

/-- What a loop does: the instructions of its head, its body, what follows when the head does not
lead to the body, and whether that can happen. -/
structure Cycle where
  head : List Instruction
  body : List Stmt
  orelse : List Stmt
  leaves : Bool

/-- Something to be done. -/
inductive Task where
  /-- An instruction. -/
  | emit (i : Instruction)
  /-- A statement. -/
  | run (s : Stmt)
  /-- One of several lists of tasks. -/
  | choose (ways : List (List Task))
  /-- Rounds of a loop. -/
  | loop (c : Cycle)

namespace Task

/-- Whether a task is a loop. -/
def isLoop : Task → Bool
  | .loop _ => true
  | _ => false

/-- The tasks of statements. -/
def runs (body : List Stmt) : List Task := body.map .run

/-- The tasks of calls. -/
def calls (scope : Scope) (sites : List CallSite) : List Task :=
  sites.map fun c => .emit (scope.callInstruction c)

/-- The tasks from the innermost loop on; all of them when there is no loop. -/
def fromLoop (k : List Task) : List Task :=
  match k.dropWhile (!·.isLoop) with
  | [] => k
  | task :: rest => task :: rest

/-- The tasks behind the innermost loop; all of them when there is no loop. -/
def afterLoop (k : List Task) : List Task :=
  match k.dropWhile (!·.isLoop) with
  | [] => k
  | _ :: rest => rest

/-- A round of a loop: its head, and then the body and another round, or what follows the loop. -/
def round (c : Cycle) : List Task :=
  c.head.map .emit ++
    [.choose ((runs c.body ++ [.loop c]) :: if c.leaves then [runs c.orelse] else [])]

/-- A handler: the calls of its exception and its body. -/
def ofHandler (scope : Scope) : Handler → List Task
  | .mk _ exception body => calls scope (callsOfOption exception) ++ runs body

/-- A case: the calls of its guard and its body. -/
def ofCase (scope : Scope) : Case → List Task
  | .mk _ guard' body => calls scope (callsOfOption guard') ++ runs body

/-- Whether a match can pass all its cases by. -/
def passes (cases : List Case) : Bool := !(cases.getLast?.map Case.isIrrefutable).getD false

/-- What a statement comes down to, when the tasks `k` wait behind it. -/
def ofStmt (scope : Scope) : Stmt → List Task → List Task
  | .simple span s, k =>
    calls scope s.calls ++
      .emit { opcode := s.opcode, kind := .other, text := s.text, line := span.first } :: k
  | .functionDef span isAsync decorators name params returns _, k =>
    calls scope (callsOfAll decorators) ++
      .emit { opcode := if isAsync then "asyncfunctiondef" else "functiondef", kind := .other,
              text := definitionText decorators (functionHead isAsync name params returns),
              line := span.first } :: k
  | .classDef span decorators name bases keywords _, k =>
    calls scope (callsOfAll decorators) ++
      .emit { opcode := "classdef", kind := .other,
              text := definitionText decorators (classHead name bases keywords),
              line := span.first } :: k
  | .ret span value, _ =>
    calls scope (callsOfOption value) ++
      [.emit { opcode := "return", kind := .ret,
               text := returnText value, line := span.first }]
  | .raise span exception cause, _ =>
    calls scope (callsOfOption exception ++ callsOfOption cause) ++
      [.emit (branchInstruction "raise" (raiseText exception cause) span.first)]
  | .exit _, k => afterLoop k
  | .again _, k => fromLoop k
  | .branch span test body orelse, k =>
    calls scope test.calls ++
      .emit (branchInstruction "branch" ("if " ++ test.text) span.first) ::
      .choose [runs body, runs orelse] :: k
  | .whileLoop span test body orelse, k =>
    .loop ⟨test.calls.map scope.callInstruction ++
        [branchInstruction "branch" ("while " ++ test.text) span.first],
      body, orelse, !alwaysTrue test⟩ :: k
  | .forLoop span target iter body orelse, k =>
    calls scope iter.calls ++
      .loop ⟨[branchInstruction "for" ("for " ++ target.text ++ " in " ++ iter.text) span.first],
        body, orelse, true⟩ :: k
  | .within span items body, k =>
    calls scope (callsOfAll (items.map (·.context))) ++
      .emit { opcode := "with", kind := .other,
              text := "with " ++ ", ".intercalate (items.map WithItem.text),
              line := span.first } :: (runs body ++ k)
  | .attempt span body handlers orelse final, k =>
    .emit (branchInstruction "try" "try" span.first) ::
      .choose ((runs body ++ runs orelse) :: handlers.map (ofHandler scope)) :: (runs final ++ k)
  | .select span subject cases, k =>
    calls scope subject.calls ++
      .emit (branchInstruction "match" ("match " ++ subject.text) span.first) ::
      .choose (cases.map (ofCase scope) ++ if passes cases then [[]] else []) :: k

/-- The tasks of a function: its statements and the return at its end. -/
def ofFunction (body : List Stmt) (lastLine : Nat) : List Task :=
  runs body ++
    [.emit { opcode := "return", kind := .ret, text := "return (implicit)", line := lastLine }]

/-- Carrying out the first task: what comes out, and the tasks that are left. -/
inductive Step (scope : Scope) : List Task → List Instruction → List Task → Prop
  | emit {i : Instruction} {k : List Task} : Step scope (.emit i :: k) [i] k
  | run {s : Stmt} {k : List Task} : Step scope (.run s :: k) [] (ofStmt scope s k)
  | choose {ways : List (List Task)} {way k : List Task} :
      way ∈ ways → Step scope (.choose ways :: k) [] (way ++ k)
  | loop {c : Cycle} {k : List Task} : Step scope (.loop c :: k) [] (round c ++ k)

/-- Carrying out tasks for a while: what comes out, and the tasks that are left. -/
inductive Runs (scope : Scope) : List Task → List Instruction → List Task → Prop
  | nil {k : List Task} : Runs scope k [] k
  | cons {k l m : List Task} {t u : List Instruction} :
      Step scope k t l → Runs scope l u m → Runs scope k (t ++ u) m

/-- What can come out of tasks at the beginning. -/
def Begins (scope : Scope) (k : List Task) (t : List Instruction) : Prop :=
  ∃ l, Runs scope k t l

/-! ### What comes out of a task -/

section Begins

variable {scope : Scope} {k : List Task} {t : List Instruction}

theorem begins_nil : Begins scope k [] := ⟨k, .nil⟩

/-- What comes out of tasks is nothing, or what a step and then the tasks left by it give. -/
theorem begins_iff_step :
    Begins scope k t ↔ t = [] ∨ ∃ u l v, Step scope k u l ∧ t = u ++ v ∧ Begins scope l v := by
  constructor
  · rintro ⟨l, h⟩
    cases h with
    | nil => exact Or.inl rfl
    | cons hstep hruns => exact Or.inr ⟨_, _, _, hstep, rfl, _, hruns⟩
  · rintro (rfl | ⟨u, l, v, hstep, rfl, m, hruns⟩)
    · exact begins_nil
    · exact ⟨m, .cons hstep hruns⟩

theorem begins_emit {i : Instruction} :
    Begins scope (.emit i :: k) t ↔ t = [] ∨ ∃ v, t = i :: v ∧ Begins scope k v := by
  rw [begins_iff_step]
  refine or_congr Iff.rfl ⟨?_, ?_⟩
  · rintro ⟨u, l, v, hstep, rfl, hv⟩
    cases hstep
    exact ⟨v, rfl, hv⟩
  · rintro ⟨v, rfl, hv⟩
    exact ⟨_, _, v, .emit, rfl, hv⟩

theorem begins_emit_cons {i j : Instruction} :
    Begins scope (.emit i :: k) (j :: t) ↔ j = i ∧ Begins scope k t := by
  simp [begins_emit, and_assoc]

/-- A silent step that is the only one does not change what comes out. -/
theorem begins_of_only_step {l : List Task} (hstep : Step scope k [] l)
    (honly : ∀ u m, Step scope k u m → u = [] ∧ m = l) :
    Begins scope k t ↔ Begins scope l t := by
  rw [begins_iff_step]
  constructor
  · rintro (rfl | ⟨u, m, v, hs, rfl, hv⟩)
    · exact begins_nil
    · obtain ⟨rfl, rfl⟩ := honly u m hs
      exact hv
  · exact fun h => Or.inr ⟨[], l, t, hstep, rfl, h⟩

theorem begins_run {s : Stmt} :
    Begins scope (.run s :: k) t ↔ Begins scope (ofStmt scope s k) t :=
  begins_of_only_step .run fun u m h => by
    cases h
    exact ⟨rfl, rfl⟩

theorem begins_loop {c : Cycle} :
    Begins scope (.loop c :: k) t ↔ Begins scope (round c ++ k) t :=
  begins_of_only_step .loop fun u m h => by
    cases h
    exact ⟨rfl, rfl⟩

theorem begins_choose {ways : List (List Task)} :
    Begins scope (.choose ways :: k) t ↔ t = [] ∨ ∃ way ∈ ways, Begins scope (way ++ k) t := by
  rw [begins_iff_step]
  refine or_congr Iff.rfl ⟨?_, ?_⟩
  · rintro ⟨u, l, v, hstep, rfl, hv⟩
    cases hstep with
    | choose hway => exact ⟨_, hway, hv⟩
  · rintro ⟨way, hway, hv⟩
    exact ⟨[], _, t, .choose hway, rfl, hv⟩

theorem begins_choose_cons {ways : List (List Task)} {i : Instruction} :
    Begins scope (.choose ways :: k) (i :: t) ↔
      ∃ way ∈ ways, Begins scope (way ++ k) (i :: t) := by
  simp [begins_choose]

theorem begins_done : Begins scope [] t ↔ t = [] := by
  rw [begins_iff_step]
  refine or_iff_left ?_
  rintro ⟨u, l, v, hstep, -⟩
  cases hstep

end Begins

/-! ### The innermost loop -/

section Innermost

variable {k ts : List Task}

theorem isLoop_of_mem_runs {body : List Stmt} {task : Task} (h : task ∈ runs body) :
    task.isLoop = false := by
  obtain ⟨s, -, rfl⟩ := List.mem_map.1 h
  rfl

theorem dropWhile_append_plain (h : ∀ task ∈ ts, task.isLoop = false) :
    (ts ++ k).dropWhile (!·.isLoop) = k.dropWhile (!·.isLoop) := by
  rw [List.dropWhile_append_of_pos fun task ht => by simp [h task ht]]

theorem dropWhile_ne_nil (hk : ∃ task ∈ k, task.isLoop = true) :
    k.dropWhile (!·.isLoop) ≠ [] := by
  obtain ⟨task, hmem, hloop⟩ := hk
  intro h
  simpa [hloop] using List.dropWhile_eq_nil_iff.1 h task hmem

theorem fromLoop_append (hts : ∀ task ∈ ts, task.isLoop = false)
    (hk : ∃ task ∈ k, task.isLoop = true) : fromLoop (ts ++ k) = fromLoop k := by
  simp only [fromLoop, dropWhile_append_plain hts]
  cases h : k.dropWhile (!·.isLoop) with
  | nil => exact (dropWhile_ne_nil hk h).elim
  | cons task rest => rfl

theorem afterLoop_append (hts : ∀ task ∈ ts, task.isLoop = false)
    (hk : ∃ task ∈ k, task.isLoop = true) : afterLoop (ts ++ k) = afterLoop k := by
  simp only [afterLoop, dropWhile_append_plain hts]
  cases h : k.dropWhile (!·.isLoop) with
  | nil => exact (dropWhile_ne_nil hk h).elim
  | cons task rest => rfl

theorem dropWhile_eq_nil (hk : ∀ task ∈ k, task.isLoop = false) :
    k.dropWhile (!·.isLoop) = [] := by
  rw [List.dropWhile_eq_nil_iff]
  intro task hmem
  simp [hk task hmem]

theorem fromLoop_eq_self (hk : ∀ task ∈ k, task.isLoop = false) : fromLoop k = k := by
  simp [fromLoop, dropWhile_eq_nil hk]

theorem afterLoop_eq_self (hk : ∀ task ∈ k, task.isLoop = false) : afterLoop k = k := by
  simp [afterLoop, dropWhile_eq_nil hk]

end Innermost

end Task

end CallReach.Source
