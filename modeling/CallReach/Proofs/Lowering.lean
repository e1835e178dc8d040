import CallReach.Proofs.Definitions
import CallReach.Proofs.Pieces

/-!
# Blocks do what their statements say

The blocks that are made of statements are read as the statements are carried out.  Each kind of
statement has a lemma that assumes this of its parts.

* `lowerBody_lowers` : all statements are lowered so, by induction on their syntax.
* `lowerFunction_completes` : the blocks of a function are finished and have distinct names.
* `lowered_traces` : the traces of the paths through a function are the beginnings of what can come
  out of its statements.
* `lowerProgram_closed` : each function of a program is well-formed and can be linked.
-/

namespace CallReach.Source

open Build

/-! ### Simple statements -/

section Statements

variable {scope : Scope} {loop : Option Loop} {W : List Label} {b b' : Builder}

/-- A statement that is carried out after its calls, and then the next one. -/
theorem simple_straight {sites : List CallSite} {written : Prop} [Decidable written]
    {opcode text : String} {line : ℕ} (hb : b.Shape W)
    (h : (do
      emitCalls scope sites
      guard written
      emitOther opcode text line : Build Unit).run b = some ((), b')) :
    Straight scope W b b' (Task.calls scope sites ++
      [.emit { opcode, kind := .other, text, line }]) := by
  obtain ⟨_, b₁, hcalls, h⟩ := run_bind_eq.1 h
  obtain ⟨_, b₂, hguard, hother⟩ := run_bind_eq.1 h
  obtain ⟨-, rfl⟩ := run_guard_eq.1 hguard
  have hstraight := emitCalls_straight hb hcalls
  exact hstraight.trans (emitOther_straight hstraight.shape hother)

/-- A statement after which nothing is carried out. -/
theorem Ends.run {b₁ : Builder} {ts : List Task} {i : Instruction} {s : Stmt}
    (h : Ends W b₁ b' i) (hts : Straight scope W b b₁ ts) (hends : i.kind.endsBlock = true)
    (hvisible : i.isJump = false) (htargets : i.targets = [])
    (hs : ∀ k, Task.ofStmt scope s k = ts ++ [.emit i]) : Lowers scope loop W b b' [.run s] where
  grows := hts.grows.trans h.grows
  shape := h.shape
  carries {f n k p} hf hp _ _ := by
    have hshown : shown i = i := by
      rw [shown, ← htargets]
    have hhalt : ∀ q, b₁.point? = some q → Carries scope f n q [.emit i] := by
      intro q hq
      rw [← hshown]
      exact Carries.halt hf.wellFormed (h.placed hf hq) hends hvisible htargets
    refine (hts.carries (hf.of_grows h.grows) hp hhalt).congr fun t => ?_
    rw [← hs k]
    exact Task.begins_run

/-- A statement that goes on at a block of the innermost loop, if there is one. -/
theorem leap_lowers (side : Loop → Label) {s : Stmt} {line : ℕ} {text : String} (hb : b.Shape W)
    (hside : ∀ l ∈ loop, Present b.blocks (side l).name)
    (hs : ∀ {f n k l}, LoopCarries scope f n (some l) k →
      Carries scope f n (.first (side l).name) (Task.ofStmt scope s k))
    (hnone : ∀ {k}, (∀ task ∈ k, task.isLoop = false) → Task.ofStmt scope s k = k)
    (h : (do if let some l := loop then terminate "jump" [side l] line text : Build Unit).run b =
      some ((), b')) : Lowers scope loop W b b' [.run s] := by
  cases loop with
  | none =>
    obtain ⟨-, rfl⟩ := run_inj h
    refine ⟨.refl _, hb, fun {f n k p} _ hp hend hloop => (hend p hp).congr fun t => ?_⟩
    rw [List.singleton_append, Task.begins_run, hnone hloop]
  | some l =>
    have hends := terminate_ends (by simpa using hside l rfl) hb h
    have hjumps : Jumps scope W b b' (side l) := hends.jump rfl rfl
    refine ⟨hjumps.grows, hjumps.shape, fun hf hp _ hloop => ?_⟩
    exact (hjumps.carries hf hp (hs hloop)).congr fun _ => Task.begins_run

theorem exit_lowers (span : Span) : StmtLowers scope (.exit span) := by
  intro loop W b b' hb hloop h
  exact leap_lowers Loop.after hb (fun l hl => (hloop l hl).2)
    (fun hcarries => hcarries.2.2) Task.afterLoop_eq_self h

theorem again_lowers (span : Span) : StmtLowers scope (.again span) := by
  intro loop W b b' hb hloop h
  exact leap_lowers Loop.head hb (fun l hl => (hloop l hl).1)
    (fun hcarries => hcarries.2.1) Task.fromLoop_eq_self h

theorem ret_lowers (span : Span) (value : Option Expr) : StmtLowers scope (.ret span value) := by
  intro loop W b b' hb _ h
  obtain ⟨_, b₁, hcalls, h⟩ := run_bind_eq.1 h
  obtain ⟨_, b₂, hguard, hreturn⟩ := run_bind_eq.1 h
  obtain ⟨-, rfl⟩ := run_guard_eq.1 hguard
  have hstraight := emitCalls_straight hb hcalls
  exact (emitReturn_ends hstraight.shape hreturn).run hstraight rfl rfl rfl fun _ => rfl

theorem raise_lowers (span : Span) (exception cause : Option Expr) :
    StmtLowers scope (.raise span exception cause) := by
  intro loop W b b' hb _ h
  obtain ⟨_, b₁, hcalls, h⟩ := run_bind_eq.1 h
  obtain ⟨_, b₂, hguard, hraise⟩ := run_bind_eq.1 h
  obtain ⟨-, rfl⟩ := run_guard_eq.1 hguard
  have hstraight := emitCalls_straight hb hcalls
  exact (terminate_ends (by simp) hstraight.shape hraise).run hstraight rfl rfl rfl fun _ => rfl

end Statements

/-! ### Compound statements -/

section CompoundStatements

variable {scope : Scope}

theorem if_lowers (span : Span) (test : Expr) {body orelse : List Stmt}
    (ihBody : BodyLowers scope body) (ihOrelse : BodyLowers scope orelse) :
    StmtLowers scope (.branch span test body orelse) := by
  intro loop W b b' hb hloop h
  obtain ⟨_, b₁, hcalls, h⟩ := run_bind_eq.1 h
  simp only [run_bind_eq] at h
  obtain ⟨thenBlock, b₂, hthen, elseBlock, b₃, helse, join, b₄, hjoin, _, b₀, hguard, _, b₅, hterm,
    _, b₆, hgo, _, b₇, hbody, _, b₈, hjump, hrest⟩ := h
  obtain ⟨-, rfl⟩ := run_guard_eq.1 hguard
  have hstraight := emitCalls_straight hb hcalls
  obtain ⟨haddsElse, hexists⟩ := newBlockIf_adds helse
  have hadds := ((newBlock_adds hthen).trans haddsElse).trans (newBlock_adds hjoin)
  have hb₄ : b₄.Shape (thenBlock :: (elseBlock.toList ++ join :: W)) := by
    simpa using hadds.shape [] W hstraight.shape
  have hother := getD_mem_toList elseBlock join W
  have hends := terminate_ends (by simpa using ⟨hb₄.present List.mem_cons_self,
    hb₄.present (List.mem_cons_of_mem _ hother)⟩) hb₄ hterm
  have hloop₅ : b₅.KnowsLoop loop :=
    hloop.mono (hstraight.grows.trans (hadds.grows.trans hends.grows))
  have hpresent : Present b₅.blocks join.name := hends.shape.present (by simp)
  have hfills : Fills scope loop _ b₅ b₈ join [thenBlock] [Task.runs body] :=
    fills_block hends.shape hends.current hpresent hgo
      (fun hs hg => ihBody hs (hloop₅.mono hg) hbody) hjump
  obtain ⟨b₉, hfillsElse, hgoJoin⟩ := fills_optional ihOrelse hexists hfills.shape hfills.current
    (hfills.grows.present hpresent) (hloop₅.mono hfills.grows) hrest
  have hbranch := branch_lowers rfl hends (hfills.append hfillsElse)
    (.self join hfillsElse.shape hfillsElse.current) (by simp) hgoJoin
  exact (hstraight.andThen (hadds.lowers hstraight.shape hbranch)).run fun k => by
    simp [Task.ofStmt]

theorem while_lowers (span : Span) (test : Expr) {body orelse : List Stmt}
    (ihBody : BodyLowers scope body) (ihOrelse : BodyLowers scope orelse) :
    StmtLowers scope (.whileLoop span test body orelse) := by
  intro loop W b b' hb hloop h
  obtain ⟨head, b₁, hhead, h⟩ := run_bind_eq.1 h
  obtain ⟨bodyBlock, b₂, hbody, h⟩ := run_bind_eq.1 h
  obtain ⟨elseBlock, b₃, helse, h⟩ := run_bind_eq.1 h
  obtain ⟨after, b₄, hafter, h⟩ := run_bind_eq.1 h
  obtain ⟨haddsElse, hexists⟩ := newBlockIf_adds helse
  have hadds := (((newBlock_adds hhead).trans (newBlock_adds hbody)).trans haddsElse).trans
    (newBlock_adds hafter)
  have hb₄ : b₄.Shape (head :: bodyBlock :: (elseBlock.toList ++ after :: W)) := by
    simpa using hadds.shape [] W hb
  have hlowers : Lowers scope loop W b₄ b' [.loop ⟨test.calls.map scope.callInstruction ++
      [branchInstruction "branch" ("while " ++ test.text) span.first], body, orelse,
      !alwaysTrue test⟩] :=
    loop_lowers test.calls rfl rfl (by cases alwaysTrue test <;> rfl) ihBody ihOrelse hexists hb₄
      (hloop.mono hadds.grows) h
  exact (hadds.lowers hb hlowers).run fun _ => rfl

theorem for_lowers (span : Span) (target iter : Expr) {body orelse : List Stmt}
    (ihBody : BodyLowers scope body) (ihOrelse : BodyLowers scope orelse) :
    StmtLowers scope (.forLoop span target iter body orelse) := by
  intro loop W b b' hb hloop h
  obtain ⟨_, b₀, hcalls, h⟩ := run_bind_eq.1 h
  obtain ⟨head, b₁, hhead, h⟩ := run_bind_eq.1 h
  obtain ⟨bodyBlock, b₂, hbody, h⟩ := run_bind_eq.1 h
  obtain ⟨elseBlock, b₃, helse, h⟩ := run_bind_eq.1 h
  obtain ⟨after, b₄, hafter, h⟩ := run_bind_eq.1 h
  have hstraight := emitCalls_straight hb hcalls
  obtain ⟨haddsElse, hexists⟩ := newBlockIf_adds helse
  have hadds := (((newBlock_adds hhead).trans (newBlock_adds hbody)).trans haddsElse).trans
    (newBlock_adds hafter)
  have hb₄ : b₄.Shape (head :: bodyBlock :: (elseBlock.toList ++ after :: W)) := by
    simpa using hadds.shape [] W hstraight.shape
  have hlowers : Lowers scope loop W b₄ b' [.loop ⟨[branchInstruction "for"
      ("for " ++ target.text ++ " in " ++ iter.text) span.first], body, orelse, true⟩] :=
    loop_lowers [] rfl rfl rfl ihBody ihOrelse hexists hb₄
      (hloop.mono (hstraight.grows.trans hadds.grows)) h
  exact (hstraight.andThen (hadds.lowers hstraight.shape hlowers)).run fun k => by
    simp [Task.ofStmt]

theorem with_lowers (span : Span) (items : List WithItem) {body : List Stmt}
    (ihBody : BodyLowers scope body) : StmtLowers scope (.within span items body) := by
  intro loop W b b' hb hloop h
  obtain ⟨_, b₁, hcalls, h⟩ := run_bind_eq.1 h
  obtain ⟨_, b₂, hguard, h⟩ := run_bind_eq.1 h
  obtain ⟨_, b₃, hother, hbody⟩ := run_bind_eq.1 h
  have hstraight := simple_straight hb
    (run_bind_eq.2 ⟨_, b₁, hcalls, run_bind_eq.2 ⟨_, b₂, hguard, hother⟩⟩)
  have hlowers := ihBody hstraight.shape (hloop.mono hstraight.grows) hbody
  exact (hstraight.andThen hlowers).run fun k => by simp [Task.ofStmt]

theorem try_lowers (span : Span) {body orelse final : List Stmt} {handlers : List Handler}
    (ihBody : BodyLowers scope body) (ihOrelse : BodyLowers scope orelse)
    (ihFinal : BodyLowers scope final) (ihHandlers : HandlersFill scope handlers) :
    StmtLowers scope (.attempt span body handlers orelse final) := by
  intro loop W b b' hb hloop h
  obtain ⟨bodyBlock, b₁, hnew, h⟩ := run_bind_eq.1 h
  simp only [run_bind_eq] at h
  obtain ⟨handlerBlocks, b₂, hhandlers, finalBlock, b₃, hfinal, join, b₄, hjoin, _, b₅, hterm, _,
    b₆, hgo, _, b₇, hbody, _, b₈, horelse, _, b₉, hjump, _, b₁₀, hlower, hrest⟩ := h
  obtain ⟨haddsHandlers, hlength⟩ := newBlocks_adds hhandlers
  obtain ⟨haddsFinal, hexists⟩ := newBlockIf_adds hfinal
  have hadds := (((newBlock_adds hnew).trans haddsHandlers).trans haddsFinal).trans
    (newBlock_adds hjoin)
  have hb₄ : b₄.Shape (bodyBlock :: (handlerBlocks ++ (finalBlock.toList ++ join :: W))) := by
    simpa using hadds.shape [] W hb
  have hafter := getD_mem_toList finalBlock join W
  have hends := terminate_ends (fun l hl => hb₄.present (by
    rw [← List.cons_append]
    exact List.mem_append_left _ hl)) hb₄ hterm
  have hloop₅ : b₅.KnowsLoop loop := hloop.mono (hadds.grows.trans hends.grows)
  have hpresent : Present b₅.blocks (finalBlock.getD join).name :=
    hends.shape.present (List.mem_cons_of_mem _ (List.mem_append_right _ hafter))
  have hfills : Fills scope loop _ b₅ b₉ (finalBlock.getD join) [bodyBlock]
      [Task.runs body ++ Task.runs orelse] :=
    fills_block hends.shape hends.current hpresent hgo (fun hs hg => by
      have hfirst := ihBody hs (hloop₅.mono hg) hbody
      exact hfirst.trans (ihOrelse hfirst.shape (hloop₅.mono (hg.trans hfirst.grows)) horelse)
        fun task => Task.isLoop_of_mem_runs) hjump
  have hfillsHandlers := ihHandlers hlength hfills.shape hfills.current
    (hfills.grows.present hpresent) (hloop₅.mono hfills.grows) hlower
  have hgrows₁₀ := hfills.grows.trans hfillsHandlers.grows
  obtain ⟨b₁₁, hfillsFinal, hgoJoin⟩ := fills_optional ihFinal hexists hfillsHandlers.shape
    hfillsHandlers.current (hfillsHandlers.shape.present (by simp)) (hloop₅.mono hgrows₁₀) hrest
  -- body and handlers meet at the final block, or at the end when there is none
  have hbranch := branch_lowers rfl hends (hfills.append hfillsHandlers) hfillsFinal
    (fun task => Task.isLoop_of_mem_runs) hgoJoin
  exact (hadds.lowers hb hbranch).run fun _ => rfl

theorem match_lowers (span : Span) (subject : Expr) {cases : List Case}
    (ihCases : CasesFill scope cases) : StmtLowers scope (.select span subject cases) := by
  intro loop W b b' hb hloop h
  obtain ⟨_, b₁, hcalls, h⟩ := run_bind_eq.1 h
  simp only [run_bind_eq] at h
  obtain ⟨caseBlocks, b₂, hblocks, join, b₃, hjoin, _, b₀, hguard, _, b₄, hterm, _, b₅, hlower,
    hgo⟩ := h
  obtain ⟨-, rfl⟩ := run_guard_eq.1 hguard
  have hstraight := emitCalls_straight hb hcalls
  obtain ⟨haddsCases, hlength⟩ := newBlocks_adds hblocks
  have hadds := haddsCases.trans (newBlock_adds hjoin)
  have hb₃ : b₃.Shape (caseBlocks ++ join :: W) := by
    simpa using hadds.shape [] W hstraight.shape
  have hends := terminate_ends (fun l hl => hb₃.present ?_) hb₃ hterm
  · -- when no case need match, the block after the statement is one of the targets
    have hfills := ihCases hlength hends.shape hends.current (hends.shape.present (by simp))
      (hloop.mono (hstraight.grows.trans (hadds.grows.trans hends.grows))) hlower
    have hpass : Fills scope loop (join :: W) b₅ b₅ join
        (if Task.passes cases then [join] else []) (if Task.passes cases then [[]] else []) := by
      split_ifs
      · exact .self join hfills.shape hfills.current
      · exact .nil join hfills.shape hfills.current
    have hbranch := branch_lowers rfl hends (hfills.append hpass)
      (.self join hfills.shape hfills.current) (by simp) hgo
    exact (hstraight.andThen (hadds.lowers hstraight.shape hbranch)).run fun k => by
      simp [Task.ofStmt]
  · rcases List.mem_append.1 hl with hl | hl
    · exact List.mem_append_left _ hl
    · split_ifs at hl
      · rw [List.mem_singleton.1 hl]
        simp
      · simp at hl

/-! ### Lists of statements, handlers and cases -/

theorem body_lowers {s : Stmt} {rest : List Stmt} (ih : StmtLowers scope s)
    (ihRest : BodyLowers scope rest) : BodyLowers scope (s :: rest) := by
  intro loop W b b' hb hloop h
  obtain ⟨_, b₁, hstmt, hrest⟩ := run_bind_eq.1 h
  have hfirst := ih hb hloop hstmt
  exact hfirst.trans (ihRest hfirst.shape (hloop.mono hfirst.grows) hrest)
    fun task => Task.isLoop_of_mem_runs

/-- The first of several blocks is filled with calls and statements, and then the others are. -/
theorem fills_cons {loop : Option Loop} {W : List Label} {b b' : Builder} {label target : Label}
    {labels : List Label} {ways : List (List Task)} {sites : List CallSite} {body : List Stmt}
    {line : ℕ} {rest : Build Unit} (ih : BodyLowers scope body)
    (hb : b.Shape (label :: (labels ++ W))) (hc : b.current = none)
    (htarget : Present b.blocks target.name) (hloop : b.KnowsLoop loop)
    (h : (do
      goTo label
      emitCalls scope sites
      lowerBody scope loop body
      jump target line
      rest : Build Unit).run b = some ((), b'))
    (hrest : ∀ {b₁}, b₁.Shape (labels ++ W) → b₁.current = none →
      Present b₁.blocks target.name → b₁.KnowsLoop loop → rest.run b₁ = some ((), b') →
      Fills scope loop W b₁ b' target labels ways) :
    Fills scope loop W b b' target (label :: labels)
      ((Task.calls scope sites ++ Task.runs body) :: ways) := by
  simp only [run_bind_eq] at h
  obtain ⟨_, b₁, hgo, _, b₂, hcalls, _, b₃, hbody, _, b₄, hjump, h⟩ := h
  have hfills : Fills scope loop (labels ++ W) b b₄ target [label]
      [Task.calls scope sites ++ Task.runs body] :=
    fills_block hb hc htarget hgo (fun hs hg => by
      have hstraight := emitCalls_straight hs hcalls
      exact hstraight.andThen
        (ih hstraight.shape (hloop.mono (hg.trans hstraight.grows)) hbody)) hjump
  exact hfills.append (hrest hfills.shape hfills.current (hfills.grows.present htarget)
    (hloop.mono hfills.grows) h)

theorem handlers_fill {line : ℕ} {exception : Option Expr} {body : List Stmt} {rest : List Handler}
    (ih : BodyLowers scope body) (ihRest : HandlersFill scope rest) :
    HandlersFill scope (.mk line exception body :: rest) := by
  intro loop W b b' after labels hlength hb hc hafter hloop h
  obtain _ | ⟨label, labels⟩ := labels
  · simp at hlength
  · exact fills_cons ih hb hc hafter hloop h (ihRest (by simpa using hlength))

theorem cases_fill {pattern : Pattern} {guard' : Option Expr} {body : List Stmt} {rest : List Case}
    (ih : BodyLowers scope body) (ihRest : CasesFill scope rest) :
    CasesFill scope (.mk pattern guard' body :: rest) := by
  intro loop W b b' join line labels hlength hb hc hjoin hloop h
  obtain _ | ⟨label, labels⟩ := labels
  · simp at hlength
  · exact fills_cons ih hb hc hjoin hloop h (ihRest (by simpa using hlength))

end CompoundStatements

/-! ### All statements -/

mutual

theorem lowerStmt_lowers (scope : Scope) : (s : Stmt) → StmtLowers scope s
  | .simple .. => fun hb _ h => (simple_straight hb h).lowers.run fun _ => by simp [Task.ofStmt]
  | .functionDef .. =>
    fun hb _ h => (simple_straight hb h).lowers.run fun _ => by simp [Task.ofStmt]
  | .classDef .. => fun hb _ h => (simple_straight hb h).lowers.run fun _ => by simp [Task.ofStmt]
  | .ret span value => ret_lowers span value
  | .raise span exception cause => raise_lowers span exception cause
  | .exit span => exit_lowers span
  | .again span => again_lowers span
  | .branch span test body orelse =>
    if_lowers span test (lowerBody_lowers scope body) (lowerBody_lowers scope orelse)
  | .whileLoop span test body orelse =>
    while_lowers span test (lowerBody_lowers scope body) (lowerBody_lowers scope orelse)
  | .forLoop span target iter body orelse =>
    for_lowers span target iter (lowerBody_lowers scope body) (lowerBody_lowers scope orelse)
  | .within span items body => with_lowers span items (lowerBody_lowers scope body)
  | .attempt span body handlers orelse final =>
    try_lowers span (lowerBody_lowers scope body) (lowerBody_lowers scope orelse)
      (lowerBody_lowers scope final) (lowerHandlers_fills scope handlers)
  | .select span subject cases => match_lowers span subject (lowerCases_fills scope cases)

theorem lowerBody_lowers (scope : Scope) : (body : List Stmt) → BodyLowers scope body
  | [] => fun hb _ h => (run_inj h).2 ▸ (Straight.refl hb).lowers
  | s :: rest => body_lowers (lowerStmt_lowers scope s) (lowerBody_lowers scope rest)

theorem lowerHandlers_fills (scope : Scope) :
    (handlers : List Handler) → HandlersFill scope handlers
  | [] => fun hlength hb hc _ _ h => by
    obtain rfl := List.length_eq_zero_iff.1 hlength
    obtain ⟨-, rfl⟩ := run_inj h
    exact .nil _ hb hc
  | .mk _ _ body :: rest =>
    handlers_fill (lowerBody_lowers scope body) (lowerHandlers_fills scope rest)

theorem lowerCases_fills (scope : Scope) : (cases : List Case) → CasesFill scope cases
  | [] => fun hlength hb hc _ _ h => by
    obtain rfl := List.length_eq_zero_iff.1 hlength
    obtain ⟨-, rfl⟩ := run_inj h
    exact .nil _ hb hc
  | .mk _ _ body :: rest => cases_fill (lowerBody_lowers scope body) (lowerCases_fills scope rest)

end

/-! ### Functions -/

section Functions

variable {scope : Scope} {file : Option String} {name : String} {body : List Stmt} {lastLine : ℕ}
  {f : Function}

theorem shape_empty : Builder.Shape {} [] where
  named n block h := by
    obtain ⟨hn, rfl⟩ := List.getElem?_eq_some_iff.1 h
    obtain rfl : n = 0 := by simpa using hn
    exact Or.inl ⟨rfl, rfl⟩
  current c hc := by
    cases hc
    exact ⟨_, rfl, by simp⟩
  waits l hl := by simp at hl
  distinct := List.nodup_nil
  closed n block h hn := by
    obtain ⟨hlt, -⟩ := List.getElem?_eq_some_iff.1 h
    obtain rfl : n = 0 := by simpa using hlt
    exact absurd rfl hn

/-- The blocks of a function are those of its statements and a return at their end. -/
theorem lowerWithReturn_ends {b' : Builder}
    (h : (lowerWithReturn scope body lastLine).run {} = some ((), b')) :
    ∃ b, Lowers scope none [] {} b (Task.runs body) ∧
      Ends [] b b'
        { opcode := "return", kind := .ret, text := "return (implicit)", line := lastLine } := by
  obtain ⟨_, b, hbody, h⟩ := run_bind_eq.1 h
  obtain ⟨_, b₁, hget, hreturn⟩ := run_bind_eq.1 h
  obtain ⟨rfl, rfl⟩ := run_inj hget
  have hlowers := lowerBody_lowers scope body shape_empty (by rintro _ ⟨⟩) hbody
  refine ⟨b, hlowers, ?_⟩
  cases hc : b.current with
  | none =>
    -- a statement has ended the last block, and nothing is added
    rw [hc] at hreturn
    obtain ⟨-, rfl⟩ := run_inj hreturn
    exact ⟨.refl _, hlowers.shape, hc, fun _ hp => by simp [Builder.point?, hc] at hp⟩
  | some c =>
    rw [hc] at hreturn
    exact emitReturn_ends hlowers.shape hreturn

/-- When no block waits any more, the function made of the blocks is complete. -/
theorem Builder.Shape.completes {b : Builder} (hb : b.Shape []) (hc : b.current = none)
    {f : Function} (hf : f.blocks = b.blocks) : Completes f b where
  wellFormed block hmem := by
    rw [hf] at hmem
    obtain ⟨n, hn⟩ := List.mem_iff_getElem?.1 hmem
    refine (hb.closed n block hn (by simp [hc]) (by simp)).mono fun name hname => ?_
    rwa [Function.Has, hf]
  distinct := by
    rw [hf, List.nodup_iff_getElem?_ne_getElem?]
    intro i j hij hj heq
    rw [List.length_map] at hj
    obtain ⟨block, hblock⟩ : ∃ block, b.blocks[j]? = some block := ⟨_, List.getElem?_eq_getElem hj⟩
    obtain ⟨block', hblock'⟩ : ∃ block', b.blocks[i]? = some block' :=
      ⟨_, List.getElem?_eq_getElem (hij.trans hj)⟩
    simp only [List.getElem?_map, hblock, hblock', Option.map_some, Option.some.injEq] at heq
    have := (hb.named i block' hblock').unique (heq ▸ hb.named j block hblock)
    omega
  grows := hf ▸ .refl _

/-- **The blocks of a function are finished and have distinct names**, whatever its statements are,
and have grown out of the entry block. -/
theorem lowerFunction_completes (h : lowerFunction scope file name body lastLine = some f) :
    Completes f {} := by
  obtain ⟨b', hrun, rfl⟩ := lowerFunction_eq_some.1 h
  obtain ⟨b, hlowers, hends⟩ := lowerWithReturn_ends hrun
  exact (hends.shape.completes hends.current rfl).of_grows (hlowers.grows.trans hends.grows)

/-- A function starts with its first block, which is called `entry`. -/
theorem lowerFunction_entryBlock? (h : lowerFunction scope file name body lastLine = some f) :
    ∃ b ∈ f.blocks.head?, f.entryBlock? = some b ∧ b.name = "entry" := by
  have hf := lowerFunction_completes h
  obtain ⟨b, hb, hname, -⟩ := hf.grows 0 { name := "entry" } rfl
  have hfind := Function.block?_of_mem hf.distinct (List.mem_of_getElem? hb)
  obtain ⟨b', -, rfl⟩ := lowerFunction_eq_some.1 h
  refine ⟨b, List.head?_eq_getElem?.trans hb, ?_, hname⟩
  rwa [hname] at hfind

/-- The entry block carries the statements of the function, up to any length. -/
theorem lowerFunction_carries (h : lowerFunction scope file name body lastLine = some f) (n : ℕ) :
    Carries scope f n (.first "entry") (Task.ofFunction body lastLine) := by
  obtain ⟨b', hrun, rfl⟩ := lowerFunction_eq_some.1 h
  obtain ⟨b, hlowers, hends⟩ := lowerWithReturn_ends hrun
  have hf := hends.shape.completes (f := { name, file, blocks := b'.blocks, entry := some "entry" })
    hends.current rfl
  refine hlowers.carries (hf.of_grows hends.grows) rfl (fun q hq => ?_) ?_
  · exact Carries.halt hf.wellFormed (hends.placed hf hq) rfl rfl rfl
  · simp [LoopCarries, Task.isLoop]

/-- **The traces of the paths through a function are the beginnings of what can come out of its
statements**, and there is a function exactly if all that is shown of these can be written.  A path
starts at the entry block and follows the successors of the blocks; on its trace jumps are left out
and calls are instructions like others. -/
theorem lowered_traces (scope : Scope) (file : Option String) (name : String) (body : List Stmt)
    (lastLine : ℕ) :
    ((∃ f, lowerFunction scope file name body lastLine = some f) ↔ ∀ s ∈ body, s.Shown) ∧
      ∀ f, lowerFunction scope file name body lastLine = some f → ∀ t,
        (∃ entry ps, f.entry = some entry ∧ f.Path (.first entry) ps ∧ f.trace ps = t) ↔
          Task.Begins scope (Task.ofFunction body lastLine) t := by
  refine ⟨exists_lowerFunction_iff, fun f h t => ?_⟩
  have hcarries := lowerFunction_carries h t.length t le_rfl
  have hentry : f.entry = some "entry" := by
    obtain ⟨b, -, rfl⟩ := lowerFunction_eq_some.1 h
    rfl
  rw [← hcarries, Function.reads_iff_path]
  constructor
  · rintro ⟨entry, ps, hsome, hpath, htrace⟩
    obtain rfl := Option.some.inj (hentry.symm.trans hsome)
    exact ⟨ps, hpath, htrace⟩
  · rintro ⟨ps, hpath, htrace⟩
    exact ⟨"entry", ps, hentry, hpath, htrace⟩

end Functions

/-- A loop whose test always holds, around a match whose last case matches everything. -/
def endless : List Stmt :=
  [.whileLoop ⟨1, 6⟩ (.constant (.bool true)) [.select ⟨2, 6⟩ (.name "x")
    [.mk (.refutable [.constant (.int 1)]) none [.exit ⟨4, 4⟩],
      .mk (.any none) none [.simple ⟨6, 6⟩ .pass]]] []]

/-- The loop is left by `break` and not at its head, and no round passes by both cases. -/
theorem lowered_traces_endless :
    ∃ f, lowerFunction {} none "search" endless 6 = some f ∧
      (∃ entry ps, f.entry = some entry ∧ f.Path (.first entry) ps ∧ f.trace ps =
        [branchInstruction "branch" "while True" 1, branchInstruction "match" "match x" 2,
          { opcode := "return", kind := .ret, text := "return (implicit)", line := 6 }]) ∧
      (¬ ∃ entry ps, f.entry = some entry ∧ f.Path (.first entry) ps ∧ f.trace ps =
        [branchInstruction "branch" "while True" 1,
          { opcode := "return", kind := .ret, text := "return (implicit)", line := 6 }]) ∧
      ¬ ∃ entry ps, f.entry = some entry ∧ f.Path (.first entry) ps ∧ f.trace ps =
        [branchInstruction "branch" "while True" 1, branchInstruction "match" "match x" 2,
          branchInstruction "branch" "while True" 1] := by
  obtain ⟨f, hf⟩ := Option.isSome_iff_exists.1
    (show (lowerFunction {} none "search" endless 6).isSome = true by decide +kernel)
  have htest : (Expr.constant (.bool true)).text = "True" := by decide +kernel
  have hsubject : (Expr.name "x").text = "x" := by decide +kernel
  refine ⟨f, hf, ?_⟩
  simp only [(lowered_traces {} none "search" endless 6).2 f hf]
  simp [endless, Task.ofFunction, Task.runs, Task.begins_run, Task.ofStmt, Task.begins_loop,
    Task.round, alwaysTrue, Constant.truthy, Task.calls, Expr.calls, htest, hsubject,
    Task.begins_emit_cons, Task.begins_choose_cons, Task.ofCase, callsOfOption, Simple.calls,
    Task.passes, Case.isIrrefutable, Task.afterLoop, Task.isLoop, Task.begins_nil,
    branchInstruction]

/-! ### Programs -/

/-- **Every function of a program made of statements is well-formed**, whatever the statements are.
No two blocks of a function share a name; in every block the last instruction and no other ends it,
and names only blocks of the function, so that the block can be linked; the function starts with its
first block, which is called `entry`. -/
theorem lowerProgram_closed {top : List Stmt} {name : String} {file : Option String} {M : Program}
    (hM : lowerProgram top name file = some M) {f : Function} (hf : f ∈ M.functions) :
    (f.blocks.map (·.name)).Nodup ∧
      (∀ b ∈ f.blocks, b.Closed f.Has ∧
        ∃ successors, f.successors? b = some successors ∧
          successors.map (·.name) = b.successors) ∧
      ∃ b ∈ f.blocks.head?, f.entryBlock? = some b ∧ b.name = "entry" := by
  obtain ⟨scope, body, lastLine, -, hlowered⟩ := lowered_function hM hf
  have hcompletes := lowerFunction_completes hlowered
  refine ⟨hcompletes.distinct, fun b hb => ?_, lowerFunction_entryBlock? hlowered⟩
  have hclosed := hcompletes.wellFormed b hb
  exact ⟨hclosed, hclosed.successors?⟩

end CallReach.Source
