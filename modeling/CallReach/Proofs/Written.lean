import CallReach.Proofs.Builder
import CallReach.Proofs.Parsed

/-!
# When statements can be written

The making of blocks fails only when there is something to be shown that cannot be written.  Nothing
else can stop it, so whether a function is made can be told from its statements alone.

* `Stmt.Shown` : all that is shown of a statement can be written.
* `Needs` : a step in the making of blocks fails exactly if a condition does not hold.
* `lowerBody_needs` : statements are lowered exactly if all that is shown of them can be written, by
  induction on their syntax; each kind of statement has a lemma that assumes this of its parts.
* `exists_lowerFunction_iff` : and so it is with functions.
-/

namespace CallReach.Source

open Build

/-! ### What is shown of statements -/

/-- Whether what is shown of a statement besides its calls can be written.  Definitions are written
as wholes. -/
def Stmt.ownWritable : Stmt → Bool
  | .simple _ s => s.writable
  | .ret _ value => optionWritable value
  | .raise _ exception cause => optionWritable exception && optionWritable cause
  | .exit _ => true
  | .again _ => true
  | .branch _ test _ _ => test.writable
  | .whileLoop _ test _ _ => test.writable
  | .forLoop _ target iter _ _ => target.writable && iter.writable
  | .within _ items _ => items.all WithItem.writable
  | .attempt .. => true
  | .select _ subject _ => subject.writable
  | .functionDef span isAsync decorators name params returns body =>
    (Stmt.functionDef span isAsync decorators name params returns body).writable
  | .classDef span decorators name bases keywords body =>
    (Stmt.classDef span decorators name bases keywords body).writable

/-- The callees of all calls in expressions can be written. -/
def CalleesWritable (es : List Expr) : Prop :=
  ∀ e ∈ es, ∀ c ∈ e.calls, c.callee.writable = true

/-- All that is shown of a statement can be written: the callees of the calls that it makes, the
statement itself and the statements that it holds, unless it is a definition. -/
inductive Stmt.Shown : Stmt → Prop
  | intro {s : Stmt} : CalleesWritable s.exprs → s.ownWritable = true →
      (s.isDefinition = false → ∀ part ∈ s.parts, Shown part) → Shown s

theorem Stmt.shown_iff {s : Stmt} : s.Shown ↔ CalleesWritable s.exprs ∧ s.ownWritable = true ∧
    (s.isDefinition = false → ∀ part ∈ s.parts, part.Shown) := by
  constructor
  · rintro ⟨hcalls, hown, hparts⟩
    exact ⟨hcalls, hown, hparts⟩
  · rintro ⟨hcalls, hown, hparts⟩
    exact ⟨hcalls, hown, hparts⟩

/-! ### Steps that may fail -/

/-- A step fails exactly if a condition does not hold, wherever it begins. -/
def Needs {α : Type} (m : Build α) (p : Prop) : Prop := ∀ b, (∃ r, m.run b = some r) ↔ p

section Steps

variable {α β : Type} {m : Build α} {f : α → Build β} {p q : Prop}

theorem Needs.congr (h : Needs m p) (hpq : p ↔ q) : Needs m q := fun b => (h b).trans hpq

theorem needs_pure (a : α) : Needs (pure a) True := fun _ => iff_of_true ⟨_, rfl⟩ trivial

/-- The condition of a step and that of what is done with its result. -/
theorem Needs.bind (hm : Needs m p)
    (hf : ∀ a, (∃ b b', m.run b = some (a, b')) → Needs (f a) q) : Needs (m >>= f) (p ∧ q) := by
  intro b
  rw [← hm b]
  constructor
  · rintro ⟨⟨c, b'⟩, h⟩
    obtain ⟨a, b₁, ha, hc⟩ := run_bind_eq.1 h
    exact ⟨⟨_, ha⟩, (hf a ⟨b, b₁, ha⟩ b₁).1 ⟨_, hc⟩⟩
  · rintro ⟨⟨⟨a, b₁⟩, ha⟩, hq⟩
    obtain ⟨⟨c, b'⟩, hc⟩ := (hf a ⟨b, b₁, ha⟩ b₁).2 hq
    exact ⟨_, run_bind_eq.2 ⟨a, b₁, ha, hc⟩⟩

/-- A step that cannot fail does not add to the condition. -/
theorem Needs.next (hm : Needs m True) (hf : ∀ a, (∃ b b', m.run b = some (a, b')) → Needs (f a) q) :
    Needs (m >>= f) q :=
  (hm.bind hf).congr (and_iff_right trivial)

theorem needs_get : Needs (get : Build Builder) True := fun _ => iff_of_true ⟨_, rfl⟩ trivial

theorem needs_guard [Decidable p] : Needs (guard p : Build Unit) p := by
  intro b
  constructor
  · rintro ⟨⟨u, b'⟩, h⟩
    exact (run_guard_eq.1 h).1
  · exact fun h => ⟨((), b), run_guard_eq.2 ⟨h, rfl⟩⟩

theorem newBlock_needs (word : String) : Needs (newBlock word) True :=
  fun _ => iff_of_true ⟨_, rfl⟩ trivial

theorem newBlockIf_needs (condition : Bool) (word : String) :
    Needs (newBlockIf condition word) True := by
  cases condition with
  | true => exact (newBlock_needs word).next fun _ _ => needs_pure _
  | false => exact needs_pure _

theorem newBlocks_needs (word : String) (items : List α) : Needs (newBlocks word items) True := by
  induction items with
  | nil => exact needs_pure _
  | cons item rest ih =>
    exact (newBlock_needs word).next fun _ _ => ih.next fun _ _ => needs_pure _

theorem goTo_needs (label : Label) : Needs (goTo label) True :=
  fun _ => iff_of_true ⟨_, rfl⟩ trivial

theorem leave_needs : Needs leave True := fun _ => iff_of_true ⟨_, rfl⟩ trivial

theorem currentBlock_needs : Needs currentBlock True := by
  refine needs_get.next fun b _ => ?_
  split
  · exact needs_pure _
  · exact (newBlock_needs _).next fun _ _ => (goTo_needs _).next fun _ _ => needs_pure _

theorem emit_needs (i : Instruction) : Needs (emit i) True :=
  currentBlock_needs.next fun _ _ _ => iff_of_true ⟨_, rfl⟩ trivial

theorem emitOther_needs (opcode text : String) (line : ℕ) :
    Needs (emitOther opcode text line) True := emit_needs _

theorem emitReturn_needs (text : String) (line : ℕ) : Needs (emitReturn text line) True :=
  (emit_needs _).next fun _ _ => leave_needs

theorem terminate_needs (opcode text : String) (targets : List Label) (line : ℕ) :
    Needs (terminate opcode targets line text) True :=
  (emit_needs _).next fun _ _ => leave_needs

theorem jump_needs (target : Label) (line : ℕ) : Needs (jump target line) True := by
  refine needs_get.next fun b _ => ?_
  split_ifs
  · exact terminate_needs _ _ _ _
  · exact needs_pure _

/-- The calls of expressions are emitted if their callees can be written. -/
theorem emitCalls_needs {scope : Scope} {sites : List CallSite} {es : List Expr}
    (hsites : ∀ c, c ∈ sites ↔ ∃ e ∈ es, c ∈ e.calls) :
    Needs (emitCalls scope sites) (CalleesWritable es) := by
  have hall : Needs (emitCalls scope sites) (∀ c ∈ sites, c.callee.writable = true) := by
    clear hsites
    induction sites with
    | nil => exact (needs_pure _).congr (by simp)
    | cons c rest ih =>
      have hfirst : Needs (do guard c.callee.writable; emit (scope.callInstruction c))
          (c.callee.writable = true) :=
        (needs_guard.bind fun _ _ => emit_needs _).congr (and_iff_left trivial)
      exact (hfirst.bind fun _ _ => ih).congr (by simp)
  refine hall.congr ⟨fun h e he c hc => h c ((hsites c).2 ⟨e, he, hc⟩), fun h c hc => ?_⟩
  obtain ⟨e, he, hc⟩ := (hsites c).1 hc
  exact h e he c hc

theorem exprCalls_needs (scope : Scope) (e : Expr) :
    Needs (emitCalls scope e.calls) (CalleesWritable [e]) :=
  emitCalls_needs (by simp)

theorem optionCalls_needs (scope : Scope) (o : Option Expr) :
    Needs (emitCalls scope (callsOfOption o)) (CalleesWritable o.toList) :=
  emitCalls_needs (by simp [mem_callsOfOption])

theorem raiseCalls_needs (scope : Scope) (exception cause : Option Expr) :
    Needs (emitCalls scope (callsOfOption exception ++ callsOfOption cause))
      (CalleesWritable (exception.toList ++ cause.toList)) :=
  emitCalls_needs (by simp [mem_callsOfOption, or_and_right, exists_or])

end Steps

/-! ### Statements -/

/-- A statement is lowered, inside any loop, exactly if all that is shown of it can be written. -/
def StmtNeeds (scope : Scope) (s : Stmt) : Prop := ∀ loop, Needs (lowerStmt scope loop s) s.Shown

/-- Several statements are lowered exactly if all that is shown of them can be written. -/
def BodyNeeds (scope : Scope) (body : List Stmt) : Prop :=
  ∀ loop, Needs (lowerBody scope loop body) (∀ s ∈ body, s.Shown)

/-- The blocks of handlers are filled exactly if what is shown of these can be written. -/
def HandlersNeed (scope : Scope) (handlers : List Handler) : Prop :=
  ∀ loop after labels, labels.length = handlers.length →
    Needs (lowerHandlers scope loop after labels handlers)
      (∀ k ∈ handlers, CalleesWritable k.exprs ∧ ∀ s ∈ Parser.handlerBody k, s.Shown)

/-- The blocks of cases are filled exactly if what is shown of these can be written. -/
def CasesNeed (scope : Scope) (cases : List Case) : Prop :=
  ∀ loop join line labels, labels.length = cases.length →
    Needs (lowerCases scope loop join line labels cases)
      (∀ k ∈ cases, CalleesWritable k.exprs ∧ ∀ s ∈ Parser.caseBody k, s.Shown)

section Statements

variable {scope : Scope} {sites : List CallSite} {es : List Expr} {written : Prop}
  [Decidable written] {body orelse : List Stmt}

/-- A statement that is carried out after its calls. -/
theorem simple_needs {opcode text : String} {line : ℕ}
    (hcalls : Needs (emitCalls scope sites) (CalleesWritable es)) :
    Needs (do
      emitCalls scope sites
      guard written
      emitOther opcode text line) (CalleesWritable es ∧ written) :=
  hcalls.bind fun _ _ => (needs_guard.bind fun _ _ => emitOther_needs _ _ _).congr
    (and_iff_left trivial)

/-- Statements in a block of their own, which is there only if they are. -/
theorem optional_needs {other : Option Label} (ih : BodyNeeds scope body)
    (hother : other.isSome = !body.isEmpty) (loop : Option Loop) (join : Label) (line : ℕ) :
    Needs (do
      if let some label := other then
        goTo label
        lowerBody scope loop body
        jump join line
      goTo join) (∀ s ∈ body, s.Shown) := by
  cases other with
  | none =>
    -- there is nothing to be written
    obtain rfl : body = [] := by simpa using hother
    exact (goTo_needs _).congr (by simp)
  | some label =>
    refine (goTo_needs _).next fun _ _ => ((ih loop).bind fun _ _ => ?_).congr
      (and_iff_left trivial)
    exact (jump_needs _ _).next fun _ _ => goTo_needs _

/-- The blocks of a loop. -/
theorem loop_needs {head bodyBlock after : Label} {other : Option Label} {opcode text : String}
    {targets : List Label} {line : ℕ}
    (hcalls : Needs (emitCalls scope sites) (CalleesWritable es)) (ihBody : BodyNeeds scope body)
    (ihOrelse : BodyNeeds scope orelse) (hother : other.isSome = !orelse.isEmpty)
    (loop : Option Loop) :
    Needs (do
      jump head line
      goTo head
      emitCalls scope sites
      guard written
      terminate opcode targets line text
      goTo bodyBlock
      lowerBody scope (some ⟨head, after⟩) body
      jump head line
      if let some label := other then
        goTo label
        lowerBody scope loop orelse
        jump after line
      goTo after)
      (CalleesWritable es ∧ written ∧ (∀ s ∈ body, s.Shown) ∧ ∀ s ∈ orelse, s.Shown) := by
  refine (jump_needs _ _).next fun _ _ => (goTo_needs _).next fun _ _ => ?_
  refine hcalls.bind fun _ _ => needs_guard.bind fun _ _ => ?_
  refine (terminate_needs _ _ _ _).next fun _ _ => (goTo_needs _).next fun _ _ => ?_
  refine (ihBody _).bind fun _ _ => (jump_needs _ _).next fun _ _ => ?_
  exact optional_needs ihOrelse hother loop after line

theorem ret_needs (span : Span) (value : Option Expr) : StmtNeeds scope (.ret span value) := by
  intro loop
  have hsteps : Needs (lowerStmt scope loop (.ret span value))
      (CalleesWritable value.toList ∧ optionWritable value = true ∧ True) :=
    (optionCalls_needs scope value).bind fun _ _ => needs_guard.bind fun _ _ =>
      emitReturn_needs _ _
  refine hsteps.congr ?_
  rw [Stmt.shown_iff]
  simp [Stmt.exprs, Stmt.ownWritable, Stmt.parts]

theorem raise_needs (span : Span) (exception cause : Option Expr) :
    StmtNeeds scope (.raise span exception cause) := by
  intro loop
  have hsteps : Needs (lowerStmt scope loop (.raise span exception cause))
      (CalleesWritable (exception.toList ++ cause.toList) ∧
        (optionWritable exception && optionWritable cause) = true ∧ True) :=
    (raiseCalls_needs scope exception cause).bind fun _ _ => needs_guard.bind fun _ _ =>
      terminate_needs _ _ _ _
  refine hsteps.congr ?_
  rw [Stmt.shown_iff]
  simp [Stmt.exprs, Stmt.ownWritable, Stmt.parts]

/-- A jump to a block of the innermost loop is made if there is one, and shows nothing. -/
theorem leap_needs (side : Loop → Label) (text : String) (line : ℕ) (loop : Option Loop) :
    Needs (do if let some l := loop then terminate "jump" [side l] line text : Build Unit) True := by
  cases loop with
  | none => exact needs_pure _
  | some l => exact terminate_needs _ _ _ _

theorem exit_needs (span : Span) : StmtNeeds scope (.exit span) := by
  refine fun loop => (leap_needs Loop.after _ _ loop).congr ?_
  rw [Stmt.shown_iff]
  simp [CalleesWritable, Stmt.exprs, Stmt.ownWritable, Stmt.parts]

theorem again_needs (span : Span) : StmtNeeds scope (.again span) := by
  refine fun loop => (leap_needs Loop.head _ _ loop).congr ?_
  rw [Stmt.shown_iff]
  simp [CalleesWritable, Stmt.exprs, Stmt.ownWritable, Stmt.parts]

theorem if_needs (span : Span) (test : Expr) (ihBody : BodyNeeds scope body)
    (ihOrelse : BodyNeeds scope orelse) : StmtNeeds scope (.branch span test body orelse) := by
  intro loop
  have hsteps : Needs (lowerStmt scope loop (.branch span test body orelse))
      (CalleesWritable [test] ∧ test.writable = true ∧ (∀ s ∈ body, s.Shown) ∧
        ∀ s ∈ orelse, s.Shown) := by
    refine (exprCalls_needs scope test).bind fun _ _ => (newBlock_needs _).next fun _ _ => ?_
    refine (newBlockIf_needs _ _).next fun _ ⟨_, _, helse⟩ => ?_
    refine (newBlock_needs _).next fun _ _ => needs_guard.bind fun _ _ => ?_
    refine (terminate_needs _ _ _ _).next fun _ _ => (goTo_needs _).next fun _ _ => ?_
    refine (ihBody loop).bind fun _ _ => (jump_needs _ _).next fun _ _ => ?_
    exact optional_needs ihOrelse (newBlockIf_adds helse).2 loop _ _
  refine hsteps.congr ?_
  rw [Stmt.shown_iff]
  simp [Stmt.exprs, Stmt.ownWritable, Stmt.parts, Stmt.isDefinition, or_imp, forall_and]

theorem while_needs (span : Span) (test : Expr) (ihBody : BodyNeeds scope body)
    (ihOrelse : BodyNeeds scope orelse) : StmtNeeds scope (.whileLoop span test body orelse) := by
  intro loop
  have hsteps : Needs (lowerStmt scope loop (.whileLoop span test body orelse))
      (CalleesWritable [test] ∧ test.writable = true ∧ (∀ s ∈ body, s.Shown) ∧
        ∀ s ∈ orelse, s.Shown) := by
    refine (newBlock_needs _).next fun _ _ => (newBlock_needs _).next fun _ _ => ?_
    refine (newBlockIf_needs _ _).next fun _ ⟨_, _, helse⟩ => (newBlock_needs _).next fun _ _ => ?_
    exact loop_needs (exprCalls_needs scope test) ihBody ihOrelse (newBlockIf_adds helse).2 loop
  refine hsteps.congr ?_
  rw [Stmt.shown_iff]
  simp [Stmt.exprs, Stmt.ownWritable, Stmt.parts, Stmt.isDefinition, or_imp, forall_and]

theorem for_needs (span : Span) (target iter : Expr) (ihBody : BodyNeeds scope body)
    (ihOrelse : BodyNeeds scope orelse) :
    StmtNeeds scope (.forLoop span target iter body orelse) := by
  intro loop
  have hsteps : Needs (lowerStmt scope loop (.forLoop span target iter body orelse))
      (CalleesWritable [iter] ∧ CalleesWritable [] ∧
        (target.writable && iter.writable) = true ∧ (∀ s ∈ body, s.Shown) ∧
        ∀ s ∈ orelse, s.Shown) := by
    refine (exprCalls_needs scope iter).bind fun _ _ => (newBlock_needs _).next fun _ _ => ?_
    refine (newBlock_needs _).next fun _ _ => (newBlockIf_needs _ _).next fun _ ⟨_, _, helse⟩ => ?_
    -- the head of the loop makes no calls
    have hnone : Needs (emitCalls scope []) (CalleesWritable []) := emitCalls_needs (by simp)
    exact (newBlock_needs _).next fun _ _ =>
      loop_needs hnone ihBody ihOrelse (newBlockIf_adds helse).2 loop
  refine hsteps.congr ?_
  rw [Stmt.shown_iff]
  simp [CalleesWritable, Stmt.exprs, Stmt.ownWritable, Stmt.parts, Stmt.isDefinition, or_imp,
    forall_and]

theorem with_needs (span : Span) (items : List WithItem) (ihBody : BodyNeeds scope body) :
    StmtNeeds scope (.within span items body) := by
  intro loop
  have hsteps : Needs (lowerStmt scope loop (.within span items body))
      (CalleesWritable (items.map (·.context)) ∧ items.all WithItem.writable = true ∧
        ∀ s ∈ body, s.Shown) := by
    refine (emitCalls_needs fun _ => mem_callsOfAll).bind fun _ _ => ?_
    exact needs_guard.bind fun _ _ => (emitOther_needs _ _ _).next fun _ _ => ihBody loop
  refine hsteps.congr ?_
  rw [Stmt.shown_iff]
  simp [Stmt.exprs, Stmt.ownWritable, Stmt.parts, Stmt.isDefinition]

theorem try_needs (span : Span) {final : List Stmt} {handlers : List Handler}
    (ihBody : BodyNeeds scope body) (ihOrelse : BodyNeeds scope orelse)
    (ihFinal : BodyNeeds scope final) (ihHandlers : HandlersNeed scope handlers) :
    StmtNeeds scope (.attempt span body handlers orelse final) := by
  intro loop
  have hsteps : Needs (lowerStmt scope loop (.attempt span body handlers orelse final))
      ((∀ s ∈ body, s.Shown) ∧ (∀ s ∈ orelse, s.Shown) ∧
        (∀ k ∈ handlers, CalleesWritable k.exprs ∧ ∀ s ∈ Parser.handlerBody k, s.Shown) ∧
        ∀ s ∈ final, s.Shown) := by
    refine (newBlock_needs _).next fun _ _ => (newBlocks_needs _ _).next fun _ ⟨_, _, hlabels⟩ => ?_
    refine (newBlockIf_needs _ _).next fun _ ⟨_, _, hfinal⟩ => (newBlock_needs _).next fun _ _ => ?_
    refine (terminate_needs _ _ _ _).next fun _ _ => (goTo_needs _).next fun _ _ => ?_
    refine (ihBody loop).bind fun _ _ => (ihOrelse loop).bind fun _ _ => ?_
    refine (jump_needs _ _).next fun _ _ => ?_
    -- as many blocks have been made as there are handlers
    refine (ihHandlers loop _ _ (newBlocks_adds hlabels).2).bind fun _ _ => ?_
    exact optional_needs ihFinal (newBlockIf_adds hfinal).2 loop _ _
  refine hsteps.congr ?_
  rw [Stmt.shown_iff]
  simp only [CalleesWritable, Stmt.exprs, Stmt.ownWritable, Stmt.parts, Stmt.isDefinition,
    List.mem_append, List.mem_flatMap]
  grind

theorem match_needs (span : Span) (subject : Expr) {cases : List Case}
    (ihCases : CasesNeed scope cases) : StmtNeeds scope (.select span subject cases) := by
  intro loop
  have hsteps : Needs (lowerStmt scope loop (.select span subject cases))
      (CalleesWritable [subject] ∧ subject.writable = true ∧
        (∀ k ∈ cases, CalleesWritable k.exprs ∧ ∀ s ∈ Parser.caseBody k, s.Shown) ∧ True) := by
    refine (exprCalls_needs scope subject).bind fun _ _ => ?_
    refine (newBlocks_needs _ _).next fun _ ⟨_, _, hlabels⟩ => (newBlock_needs _).next fun _ _ => ?_
    refine needs_guard.bind fun _ _ => (terminate_needs _ _ _ _).next fun _ _ => ?_
    exact (ihCases loop _ _ _ (newBlocks_adds hlabels).2).bind fun _ _ => goTo_needs _
  refine hsteps.congr ?_
  rw [Stmt.shown_iff]
  simp only [CalleesWritable, Stmt.exprs, Stmt.ownWritable, Stmt.parts, Stmt.isDefinition,
    List.mem_cons, List.mem_flatMap]
  grind

theorem handlers_need {line : ℕ} {exception : Option Expr} {rest : List Handler}
    (ih : BodyNeeds scope body) (ihRest : HandlersNeed scope rest) :
    HandlersNeed scope (.mk line exception body :: rest) := by
  intro loop after labels hlength
  obtain _ | ⟨label, labels⟩ := labels
  · simp at hlength
  have hsteps : Needs (lowerHandlers scope loop after (label :: labels)
      (.mk line exception body :: rest)) (CalleesWritable exception.toList ∧
        (∀ s ∈ body, s.Shown) ∧
        ∀ k ∈ rest, CalleesWritable k.exprs ∧ ∀ s ∈ Parser.handlerBody k, s.Shown) := by
    refine (goTo_needs label).next fun _ _ => (optionCalls_needs scope exception).bind fun _ _ => ?_
    refine (ih loop).bind fun _ _ => (jump_needs _ _).next fun _ _ => ?_
    exact ihRest loop after labels (Nat.succ.inj hlength)
  refine hsteps.congr ?_
  rw [List.forall_mem_cons, and_assoc]
  rfl

theorem cases_need {pattern : Pattern} {guard' : Option Expr} {rest : List Case}
    (ih : BodyNeeds scope body) (ihRest : CasesNeed scope rest) :
    CasesNeed scope (.mk pattern guard' body :: rest) := by
  intro loop join line labels hlength
  obtain _ | ⟨label, labels⟩ := labels
  · simp at hlength
  have hsteps : Needs (lowerCases scope loop join line (label :: labels)
      (.mk pattern guard' body :: rest)) (CalleesWritable guard'.toList ∧ (∀ s ∈ body, s.Shown) ∧
        ∀ k ∈ rest, CalleesWritable k.exprs ∧ ∀ s ∈ Parser.caseBody k, s.Shown) := by
    refine (goTo_needs label).next fun _ _ => (optionCalls_needs scope guard').bind fun _ _ => ?_
    refine (ih loop).bind fun _ _ => (jump_needs _ _).next fun _ _ => ?_
    exact ihRest loop join line labels (Nat.succ.inj hlength)
  refine hsteps.congr ?_
  rw [List.forall_mem_cons, and_assoc]
  rfl

end Statements

mutual

/-- **A statement is lowered exactly if all that is shown of it can be written.** -/
theorem lowerStmt_needs (scope : Scope) : (s : Stmt) → StmtNeeds scope s
  | .simple .. => fun _ => (simple_needs (emitCalls_needs fun _ => mem_simple_calls)).congr (by
      rw [Stmt.shown_iff]
      simp [Stmt.exprs, Stmt.ownWritable, Stmt.parts])
  -- a definition is written as a whole, and its statements are not lowered here
  | .functionDef .. => fun _ => (simple_needs (emitCalls_needs fun _ => mem_callsOfAll)).congr (by
      rw [Stmt.shown_iff]
      simp [Stmt.exprs, Stmt.ownWritable, Stmt.isDefinition])
  | .classDef .. => fun _ => (simple_needs (emitCalls_needs fun _ => mem_callsOfAll)).congr (by
      rw [Stmt.shown_iff]
      simp [Stmt.exprs, Stmt.ownWritable, Stmt.isDefinition])
  | .ret span value => ret_needs span value
  | .raise span exception cause => raise_needs span exception cause
  | .exit span => exit_needs span
  | .again span => again_needs span
  | .branch span test body orelse =>
    if_needs span test (lowerBody_needs scope body) (lowerBody_needs scope orelse)
  | .whileLoop span test body orelse =>
    while_needs span test (lowerBody_needs scope body) (lowerBody_needs scope orelse)
  | .forLoop span target iter body orelse =>
    for_needs span target iter (lowerBody_needs scope body) (lowerBody_needs scope orelse)
  | .within span items body => with_needs span items (lowerBody_needs scope body)
  | .attempt span body handlers orelse final =>
    try_needs span (lowerBody_needs scope body) (lowerBody_needs scope orelse)
      (lowerBody_needs scope final) (lowerHandlers_need scope handlers)
  | .select span subject cases => match_needs span subject (lowerCases_need scope cases)

theorem lowerBody_needs (scope : Scope) : (body : List Stmt) → BodyNeeds scope body
  | [] => fun _ => (needs_pure _).congr (by simp)
  | s :: rest => fun loop =>
    ((lowerStmt_needs scope s loop).bind fun _ _ => lowerBody_needs scope rest loop).congr
      List.forall_mem_cons.symm

theorem lowerHandlers_need (scope : Scope) :
    (handlers : List Handler) → HandlersNeed scope handlers
  | [] => fun _ _ _ _ => (needs_pure _).congr (by simp)
  | .mk _ _ body :: rest =>
    handlers_need (lowerBody_needs scope body) (lowerHandlers_need scope rest)

theorem lowerCases_need (scope : Scope) : (cases : List Case) → CasesNeed scope cases
  | [] => fun _ _ _ _ _ => (needs_pure _).congr (by simp)
  | .mk _ _ body :: rest => cases_need (lowerBody_needs scope body) (lowerCases_need scope rest)

end

/-! ### Functions -/

section Functions

variable {scope : Scope} {file : Option String} {name : String} {body : List Stmt} {lastLine : ℕ}

/-- A function has the blocks that have been made when its last statement has been. -/
theorem lowerFunction_eq_some {f : Function} :
    lowerFunction scope file name body lastLine = some f ↔
      ∃ b, (lowerWithReturn scope body lastLine).run {} = some ((), b) ∧
        f = { name, file, blocks := b.blocks, entry := some "entry" } := by
  simp only [lowerFunction, lowerBlocks, Option.map_map, Option.map_eq_some_iff, Prod.exists]
  exact ⟨fun ⟨_, b, hrun, hf⟩ => ⟨b, hrun, hf.symm⟩, fun ⟨b, hrun, hf⟩ => ⟨(), b, hrun, hf.symm⟩⟩

theorem lowerWithReturn_needs (scope : Scope) (body : List Stmt) (lastLine : ℕ) :
    Needs (lowerWithReturn scope body lastLine) (∀ s ∈ body, s.Shown) := by
  refine ((lowerBody_needs scope body none).bind fun _ _ => needs_get.next fun b _ => ?_).congr
    (and_iff_left trivial)
  split_ifs
  · exact emitReturn_needs _ _
  · exact needs_pure _

/-- **A function is made of statements exactly if all that is shown of them can be written.** -/
theorem exists_lowerFunction_iff :
    (∃ f, lowerFunction scope file name body lastLine = some f) ↔ ∀ s ∈ body, s.Shown := by
  rw [← lowerWithReturn_needs scope body lastLine {}]
  constructor
  · rintro ⟨f, hf⟩
    obtain ⟨b, hrun, -⟩ := lowerFunction_eq_some.1 hf
    exact ⟨_, hrun⟩
  · rintro ⟨⟨u, b⟩, hrun⟩
    exact ⟨_, lowerFunction_eq_some.2 ⟨b, hrun, rfl⟩⟩

end Functions

end CallReach.Source
