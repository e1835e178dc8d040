import CallReach.Proofs.Emitted
import CallReach.Proofs.Occurrences

/-!
# The calls of statements in blocks

Every expression of a statement is evaluated in one block, which gets the instructions of all its
calls.  While statements are cut into blocks, the expressions met so far are filed under the blocks.

* `exprsOf`, `boundOf` : the expressions of statements whose calls are made, and those that loops
  and contexts bind.
* `Filed` : the call instructions of blocks are those of the calls in expressions.
* `Files` : a step in the making of blocks that files expressions.
* `lowerStmt_files` : a statement files its expressions, by induction on the syntax.
* `lowerFunction_filed` : so the call instructions of a function are those of the calls in it.
-/

namespace CallReach.Source

open Build
open scoped List

/-! ### The expressions of statements -/

/-- The expressions that a statement itself binds, in a loop or a context. -/
def Stmt.bound : Stmt → List Expr
  | .forLoop _ target _ _ _ => [target]
  | .within _ items _ => items.flatMap (·.target.toList)
  | _ => []

mutual

/-- The same of the statements that a statement holds, but for the bodies of definitions. -/
def Stmt.gather (own : Stmt → List Expr) : Stmt → List Expr
  | .branch _ _ body orelse => gatherAll own body ++ gatherAll own orelse
  | .whileLoop _ _ body orelse => gatherAll own body ++ gatherAll own orelse
  | .forLoop _ _ _ body orelse => gatherAll own body ++ gatherAll own orelse
  | .within _ _ body => gatherAll own body
  | .attempt _ body handlers orelse final =>
    gatherAll own body ++ gatherAll own orelse ++ gatherHandlers own handlers ++
      gatherAll own final
  | .select _ _ cases => gatherCases own cases
  | _ => []

/-- Expressions of statements, and of those that they hold. -/
def gatherAll (own : Stmt → List Expr) : List Stmt → List Expr
  | [] => []
  | s :: rest => own s ++ s.gather own ++ gatherAll own rest

/-- Expressions of the statements in handlers. -/
def gatherHandlers (own : Stmt → List Expr) : List Handler → List Expr
  | [] => []
  | .mk _ _ body :: rest => gatherAll own body ++ gatherHandlers own rest

/-- Expressions of the statements in cases. -/
def gatherCases (own : Stmt → List Expr) : List Case → List Expr
  | [] => []
  | .mk _ _ body :: rest => gatherAll own body ++ gatherCases own rest

end

/-- The expressions of statements whose calls are made. -/
def exprsOf (body : List Stmt) : List Expr := gatherAll Stmt.exprs body

/-- The expressions that statements bind, in loops and contexts. -/
def boundOf (body : List Stmt) : List Expr := gatherAll Stmt.bound body

/-! ### Blocks with the calls of expressions -/

/-- The call instructions of a block. -/
def callsIn (block : Block) : List Instruction := block.instructions.filter (·.kind == .call)

/-- The call instructions of blocks are those of the calls in expressions.  Each expression is filed
under one block, which has the instructions of all its calls, one after the other. -/
def Filed (scope : Scope) (blocks : List Block) (es : List Expr) : Prop :=
  ∃ files : List (List Expr), List.Forall₂ (fun block file =>
      callsIn block = (file.flatMap Expr.calls).map scope.callInstruction) blocks files ∧
    files.flatten ~ es

section Filed

variable {scope : Scope} {blocks : List Block} {es fs : List Expr}

theorem Filed.perm (h : Filed scope blocks es) (hp : es ~ fs) : Filed scope blocks fs := by
  obtain ⟨files, hfiles, hperm⟩ := h
  exact ⟨files, hfiles, hperm.trans hp⟩

/-- A new block has no calls. -/
theorem Filed.add (h : Filed scope blocks es) (name : String) :
    Filed scope (blocks ++ [{ name := name }]) es := by
  obtain ⟨files, hfiles, hperm⟩ := h
  refine ⟨files ++ [[]], List.rel_append hfiles (.cons rfl .nil), ?_⟩
  simpa using hperm

/-- A block with more instructions. -/
def withInstructions (is : List Instruction) (block : Block) : Block :=
  { block with instructions := block.instructions ++ is }

theorem withInstructions_nil : withInstructions [] = id :=
  funext fun block => by simp [withInstructions]

theorem callsIn_withInstructions (is : List Instruction) (block : Block) :
    callsIn (withInstructions is block) = callsIn block ++ is.filter (·.kind == .call) := by
  simp [callsIn, withInstructions]

theorem forall₂_modify {α β : Type} {R : α → β → Prop} {f : α → α} {g : β → β}
    (hR : ∀ x y, R x y → R (f x) (g y)) {xs : List α} {ys : List β} (h : List.Forall₂ R xs ys)
    (n : ℕ) : List.Forall₂ R (xs.modify n f) (ys.modify n g) := by
  induction h generalizing n with
  | nil => simp
  | @cons x y xs ys hxy hrest ih =>
    cases n with
    | zero => simpa using ⟨hR x y hxy, hrest⟩
    | succ n => simpa using ⟨hxy, ih n⟩

theorem flatten_modify {α : Type} {xss : List (List α)} {n : ℕ} (hn : n < xss.length)
    (ys : List α) : (xss.modify n (· ++ ys)).flatten ~ xss.flatten ++ ys := by
  induction xss generalizing n with
  | nil => simp at hn
  | cons xs rest ih =>
    cases n with
    | zero =>
      simp only [List.modify_zero_cons, List.flatten_cons, List.append_assoc]
      exact List.perm_append_comm.append_left xs
    | succ n =>
      simp only [List.modify_succ_cons, List.flatten_cons, List.append_assoc]
      exact (ih (by simpa using hn)).append_left xs

/-- The calls of expressions are added to a block. -/
theorem Filed.modify (h : Filed scope blocks es) {n : ℕ} (hn : n < blocks.length)
    {is : List Instruction}
    (his : is.filter (·.kind == .call) = (fs.flatMap Expr.calls).map scope.callInstruction) :
    Filed scope (blocks.modify n (withInstructions is)) (es ++ fs) := by
  obtain ⟨files, hfiles, hperm⟩ := h
  refine ⟨files.modify n (· ++ fs), forall₂_modify (fun block file hfile => ?_) hfiles n, ?_⟩
  · rw [callsIn_withInstructions, hfile, his, List.flatMap_append, List.map_append]
  · exact (flatten_modify (hfiles.length_eq ▸ hn) fs).trans (hperm.append_right fs)

/-- Expressions without calls can be filed under any block. -/
theorem Filed.silent (h : Filed scope blocks es) {n : ℕ} (hn : n < blocks.length)
    (hfs : fs.flatMap Expr.calls = []) : Filed scope blocks (es ++ fs) := by
  have hfiled : Filed scope (blocks.modify n (withInstructions [])) (es ++ fs) :=
    h.modify hn (by simp [hfs])
  rwa [withInstructions_nil, List.modify_id] at hfiled

end Filed

/-! ### Steps in the making of blocks -/

/-- The current block has been made; if there is no current one, some block has. -/
def Builder.Ready (b : Builder) : Prop := b.current.getD 0 < b.blocks.length

/-- A step that files the calls of expressions.  The blocks with numbers below `n` have been made
before it, so it may go on in any of them. -/
def Files (scope : Scope) (n : ℕ) (m : Build Unit) (es : List Expr) : Prop :=
  ∀ b b' : Builder, n ≤ b.blocks.length → b.Ready → m.run b = some ((), b') →
    n ≤ b'.blocks.length ∧ b'.Ready ∧
      ∀ old, Filed scope b.blocks old → Filed scope b'.blocks (old ++ es)

section Steps

variable {scope : Scope} {n : ℕ} {es fs : List Expr} {m m' : Build Unit}

theorem Files.perm (h : Files scope n m es) (hp : es ~ fs) : Files scope n m fs := by
  intro b b' hn hb hrun
  obtain ⟨hn', hb', hfiled⟩ := h b b' hn hb hrun
  exact ⟨hn', hb', fun old hold => (hfiled old hold).perm (hp.append_left old)⟩

theorem Files.congr (h : Files scope n m es) (heq : es = fs) : Files scope n m fs := heq ▸ h

/-- A step that leaves the blocks as they are. -/
theorem files_of_same (h : ∀ b b' : Builder, m.run b = some ((), b') → n ≤ b.blocks.length →
    b.Ready → b'.blocks = b.blocks ∧ b'.Ready) : Files scope n m [] := by
  intro b b' hn hb hrun
  obtain ⟨hblocks, hready⟩ := h b b' hrun hn hb
  rw [hblocks]
  exact ⟨hn, hready, fun old hold => by rwa [List.append_nil]⟩

theorem files_pure : Files scope n (pure ()) [] :=
  files_of_same fun _ _ hrun _ hb => by
    obtain ⟨-, rfl⟩ := run_inj hrun
    exact ⟨rfl, hb⟩

theorem files_guard {p : Prop} [Decidable p] : Files scope n (guard p) [] :=
  files_of_same fun _ _ hrun _ hb => by
    obtain ⟨-, rfl⟩ := run_guard_eq.1 hrun
    exact ⟨rfl, hb⟩

theorem Files.bind (h : Files scope n m es) (h' : Files scope n m' fs) :
    Files scope n (m >>= fun _ => m') (es ++ fs) := by
  intro b b' hn hb hrun
  obtain ⟨_, b₁, hfirst, hsecond⟩ := run_bind_eq.1 hrun
  obtain ⟨hn₁, hb₁, hfiled₁⟩ := h b b₁ hn hb hfirst
  obtain ⟨hn₂, hb₂, hfiled₂⟩ := h' b₁ b' hn₁ hb₁ hsecond
  refine ⟨hn₂, hb₂, fun old hold => ?_⟩
  rw [← List.append_assoc]
  exact hfiled₂ _ (hfiled₁ old hold)

theorem files_get {f : Builder → Build Unit} (h : ∀ b, Files scope n (f b) es) :
    Files scope n (get >>= f) es := by
  intro b b' hn hb hrun
  obtain ⟨_, b₁, hget, hrest⟩ := run_bind_eq.1 hrun
  obtain ⟨rfl, rfl⟩ := run_inj hget
  exact h b b b' hn hb hrest

/-- A new block can be gone to in what follows. -/
theorem files_newBlock {word : String} {f : Label → Build Unit}
    (h : ∀ l k, n ≤ k → l.number < k → Files scope k (f l) es) :
    Files scope n (newBlock word >>= f) es := by
  intro b b' hn hb hrun
  obtain ⟨l, b₁, hnew, hrest⟩ := run_bind_eq.1 hrun
  obtain ⟨rfl, rfl⟩ : Label.mk b.blocks.length (word ++ "." ++ toString b.blocks.length) = l ∧
      b.add (word ++ "." ++ toString b.blocks.length) = b₁ := run_inj hnew
  have hready : (b.add (word ++ "." ++ toString b.blocks.length)).Ready := by
    simp only [Builder.Ready, Builder.add, List.length_append, List.length_singleton] at hb ⊢
    omega
  obtain ⟨hk, hb', hfiled⟩ := h _ (b.blocks.length + 1) (by omega) (Nat.lt_succ_self _) _ b'
    (by simp [Builder.add]) hready hrest
  exact ⟨le_trans (by omega) hk, hb', fun old hold => hfiled old (hold.add _)⟩

theorem files_newBlockIf {condition : Bool} {word : String} {f : Option Label → Build Unit}
    (h : ∀ o k, n ≤ k → (∀ l ∈ o, l.number < k) → o.isSome = condition →
      Files scope k (f o) es) : Files scope n (newBlockIf condition word >>= f) es := by
  cases condition with
  | false => exact h none n le_rfl (by simp) rfl
  | true => exact files_newBlock fun l k hk hl => h (some l) k hk (by simpa using hl) rfl

theorem files_newBlocks {α : Type} {word : String} {items : List α} {f : List Label → Build Unit}
    (h : ∀ ls k, n ≤ k → (∀ l ∈ ls, l.number < k) → ls.length = items.length →
      Files scope k (f ls) es) : Files scope n (newBlocks word items >>= f) es := by
  induction items generalizing n f with
  | nil => exact h [] n le_rfl (by simp) rfl
  | cons item rest ih =>
    simp only [newBlocks, bind_assoc, pure_bind]
    refine files_newBlock fun l k hk hl => ih fun ls k' hk' hls hlength => ?_
    refine h (l :: ls) k' (by omega) ?_ (by simp [hlength])
    rw [List.forall_mem_cons]
    exact ⟨by omega, hls⟩

theorem files_goTo {l : Label} (hl : l.number < n) : Files scope n (goTo l) [] :=
  files_of_same fun _ _ hrun hn _ => by
    obtain ⟨-, rfl⟩ := run_inj hrun
    exact ⟨rfl, lt_of_lt_of_le hl hn⟩

theorem files_leave : Files scope n leave [] :=
  files_of_same fun _ _ hrun _ hb => by
    obtain ⟨-, rfl⟩ := run_inj hrun
    exact ⟨rfl, lt_of_le_of_lt (Nat.zero_le _) hb⟩

/-! ### Instructions -/

theorem currentBlock_run {b : Builder} {c : ℕ} (hc : b.current = some c) :
    currentBlock.run b = some (c, b) := by
  refine run_bind_eq.2 ⟨b, b, rfl, ?_⟩
  rw [hc]
  rfl

/-- Whenever an instruction comes there is a current block: the one there was, or a new one. -/
theorem currentBlock_ready (scope : Scope) {b : Builder} (hb : b.Ready) :
    ∃ c b₁, currentBlock.run b = some (c, b₁) ∧ b₁.current = some c ∧ c < b₁.blocks.length ∧
      b.blocks.length ≤ b₁.blocks.length ∧
      ∀ old, Filed scope b.blocks old → Filed scope b₁.blocks old := by
  cases hc : b.current with
  | some c =>
    have hlt : c < b.blocks.length := by simpa [Builder.Ready, hc] using hb
    exact ⟨c, b, currentBlock_run hc, hc, hlt, le_rfl, fun old hold => hold⟩
  | none =>
    -- the new block has no calls yet
    refine ⟨b.blocks.length, { b.add ("dead" ++ "." ++ toString b.blocks.length) with
      current := some b.blocks.length }, ?_, rfl, ?_, ?_, fun old hold => hold.add _⟩
    · refine run_bind_eq.2 ⟨b, b, rfl, ?_⟩
      rw [hc]
      rfl
    · simp [Builder.add]
    · simp [Builder.add]

/-- The given block with more instructions. -/
def Builder.extend (b : Builder) (c : ℕ) (is : List Instruction) : Builder :=
  { b with blocks := b.blocks.modify c (withInstructions is) }

theorem extend_extend (b : Builder) (c : ℕ) (is js : List Instruction) :
    (b.extend c is).extend c js = b.extend c (is ++ js) := by
  have hcomp : withInstructions js ∘ withInstructions is = withInstructions (is ++ js) :=
    funext fun block => by simp [withInstructions]
  simp only [Builder.extend, List.modify_modify_eq, hcomp]

theorem emit_run_extend {b b₁ : Builder} {c : ℕ} (h : currentBlock.run b = some (c, b₁))
    (i : Instruction) : (emit i).run b = some ((), b₁.extend c [i]) :=
  run_bind_eq.2 ⟨c, b₁, h, rfl⟩

/-- Instructions go to the current block one after the other. -/
theorem forM_emit_run {b b₁ : Builder} {c : ℕ} (h : currentBlock.run b = some (c, b₁))
    (hc : b₁.current = some c) (i : Instruction) (rest : List Instruction) :
    ((i :: rest).forM emit).run b = some ((), b₁.extend c (i :: rest)) := by
  induction rest generalizing b b₁ i with
  | nil => exact run_bind_eq.2 ⟨(), _, emit_run_extend h i, rfl⟩
  | cons j rest ih =>
    have hnext : currentBlock.run (b₁.extend c [i]) = some (c, b₁.extend c [i]) :=
      currentBlock_run hc
    have hrest := ih hnext hc j
    rw [extend_extend] at hrest
    exact run_bind_eq.2 ⟨(), _, emit_run_extend h i, hrest⟩

/-- Instructions are added: those of all calls in expressions, or some that are no calls. -/
theorem files_forM_emit {is : List Instruction}
    (his : is.filter (·.kind == .call) = (es.flatMap Expr.calls).map scope.callInstruction) :
    Files scope n (is.forM emit) es := by
  intro b b' hn hb hforM
  cases is with
  | nil =>
    obtain ⟨-, rfl⟩ := run_inj hforM
    have hnone : es.flatMap Expr.calls = [] := by simpa using his.symm
    exact ⟨hn, hb, fun old hold => hold.silent hb hnone⟩
  | cons i rest =>
    obtain ⟨c, b₁, hrun, hc, hlt, hle, hsame⟩ := currentBlock_ready scope hb
    obtain ⟨-, rfl⟩ := run_inj ((forM_emit_run hrun hc i rest).symm.trans hforM)
    have hcurrent : (b₁.extend c (i :: rest)).current = some c := hc
    have hlength : (b₁.extend c (i :: rest)).blocks.length = b₁.blocks.length :=
      List.length_modify ..
    refine ⟨by omega, ?_, fun old hold => (hsame old hold).modify hlt his⟩
    rw [Builder.Ready, hcurrent, hlength]
    exact hlt

theorem files_emit {i : Instruction} (hi : i.kind ≠ .call) : Files scope n (emit i) [] := by
  have hfiles : Files scope n ([i].forM emit) [] := files_forM_emit (by simp [hi])
  simpa using hfiles

/-- When all callees can be written, the instructions of the calls are emitted in a row. -/
theorem emitCalls_run {sites : List CallSite} {b b' : Builder}
    (h : (emitCalls scope sites).run b = some ((), b')) :
    ((sites.map scope.callInstruction).forM emit).run b = some ((), b') := by
  induction sites generalizing b with
  | nil => exact h
  | cons c rest ih =>
    obtain ⟨_, b₁, hfirst, hrest⟩ := run_bind_eq.1 h
    obtain ⟨_, b₂, hguard, hemit⟩ := run_bind_eq.1 hfirst
    obtain ⟨-, rfl⟩ := run_guard_eq.1 hguard
    exact run_bind_eq.2 ⟨(), b₁, hemit, ih hrest⟩

theorem files_emitCalls {sites : List CallSite} (h : sites = es.flatMap Expr.calls) :
    Files scope n (emitCalls scope sites) es := by
  have hfiles : Files scope n ((sites.map scope.callInstruction).forM emit) es := by
    refine files_forM_emit ?_
    rw [h, List.filter_eq_self, List.forall_mem_map]
    exact fun _ _ => rfl
  exact fun b b' hn hb hrun => hfiles b b' hn hb (emitCalls_run hrun)

theorem files_exprCalls (e : Expr) : Files scope n (emitCalls scope e.calls) [e] :=
  files_emitCalls (by simp)

theorem files_emitOther (opcode text : String) (line : ℕ) :
    Files scope n (emitOther opcode text line) [] := files_emit (by simp)

theorem files_emitReturn (text : String) (line : ℕ) :
    Files scope n (emitReturn text line) [] :=
  (files_emit (by simp)).bind files_leave

theorem files_terminate (opcode text : String) (targets : List Label) (line : ℕ) :
    Files scope n (terminate opcode targets line text) [] :=
  (files_emit (by simp)).bind files_leave

theorem files_jump (target : Label) (line : ℕ) : Files scope n (jump target line) [] := by
  refine files_get fun b => ?_
  split_ifs
  · exact files_terminate _ _ _ _
  · exact files_pure

end Steps

/-! ### Statements -/

theorem simple_calls_eq (s : Simple) : s.calls = s.exprs.flatMap Expr.calls := by
  cases s <;> simp [Simple.calls, Simple.exprs, callsOfAll_eq, callsOfOption_eq]

section Statements

variable {scope : Scope} {n : ℕ}

/-- A second block of statements that may be absent. -/
theorem files_optional {loop : Option Loop} {body : List Stmt} {o : Option Label} {join : Label}
    (line : ℕ) (hbody : Files scope n (lowerBody scope loop body) (exprsOf body))
    (ho : ∀ l ∈ o, l.number < n) (hsome : o.isSome = !body.isEmpty) (hjoin : join.number < n) :
    Files scope n (do
      if let some label := o then
        goTo label
        lowerBody scope loop body
        jump join line
      goTo join) (exprsOf body) := by
  cases o with
  | none =>
    -- the block is absent when there are no statements for it
    obtain rfl : body = [] := by simpa using hsome
    exact files_goTo hjoin
  | some label =>
    refine ((files_goTo (ho label rfl)).bind (hbody.bind ((files_jump join line).bind
      (files_goTo hjoin)))).congr ?_
    simp

/-- A branch to statements, after which control goes on elsewhere, and to others that may be
absent. -/
theorem files_branch {loop inner : Option Loop} {body orelse : List Stmt} {o : Option Label}
    {first next join : Label} {written : Prop} [Decidable written] (opcode text : String)
    (targets : List Label) (line : ℕ)
    (hbody : Files scope n (lowerBody scope inner body) (exprsOf body))
    (horelse : Files scope n (lowerBody scope loop orelse) (exprsOf orelse))
    (hfirst : first.number < n) (ho : ∀ l ∈ o, l.number < n) (hsome : o.isSome = !orelse.isEmpty)
    (hjoin : join.number < n) :
    Files scope n (do
      guard written
      terminate opcode targets line text
      goTo first
      lowerBody scope inner body
      jump next line
      if let some label := o then
        goTo label
        lowerBody scope loop orelse
        jump join line
      goTo join) (exprsOf body ++ exprsOf orelse) := by
  refine (files_guard.bind ((files_terminate opcode text targets line).bind
    ((files_goTo hfirst).bind (hbody.bind ((files_jump next line).bind
      (files_optional line horelse ho hsome hjoin)))))).congr ?_
  simp

/-- One of several blocks of statements, each behind an expression that may be absent. -/
theorem files_arm {loop : Option Loop} {e : Option Expr} {body : List Stmt} {label after : Label}
    {line : ℕ} {rest : Build Unit} {es fs : List Expr} (hlabel : label.number < n)
    (hbody : Files scope n (lowerBody scope loop body) (exprsOf body))
    (hrest : Files scope n rest (es ++ fs)) :
    Files scope n (do
      goTo label
      emitCalls scope (callsOfOption e)
      lowerBody scope loop body
      jump after line
      rest) (e.toList ++ es ++ (exprsOf body ++ fs)) := by
  refine ((files_goTo hlabel).bind ((files_emitCalls (callsOfOption_eq e)).bind
    (hbody.bind ((files_jump after line).bind hrest)))).perm ?_
  simp only [List.nil_append, List.append_assoc]
  exact (List.perm_append_comm_assoc _ _ _).append_left _

mutual

/-- **Each statement files its expressions**, all but those that loops and contexts bind. -/
theorem lowerStmt_files : (s : Stmt) → ∀ (n : ℕ) loop,
    Files scope n (lowerStmt scope loop s) (s.exprs ++ s.gather Stmt.exprs)
  | .simple _ s, n, _ => by
    refine ((files_emitCalls (simple_calls_eq s)).bind
      (files_guard.bind (files_emitOther _ _ _))).congr ?_
    simp [Stmt.exprs, Stmt.gather]
  | .functionDef _ _ decorators _ _ _ _, n, _ => by
    refine ((files_emitCalls (callsOfAll_eq decorators)).bind
      (files_guard.bind (files_emitOther _ _ _))).congr ?_
    simp [Stmt.exprs, Stmt.gather]
  | .classDef _ decorators _ _ _ _, n, _ => by
    refine ((files_emitCalls (callsOfAll_eq decorators)).bind
      (files_guard.bind (files_emitOther _ _ _))).congr ?_
    simp [Stmt.exprs, Stmt.gather]
  | .ret _ value, n, _ => by
    refine ((files_emitCalls (callsOfOption_eq value)).bind
      (files_guard.bind (files_emitReturn _ _))).congr ?_
    simp [Stmt.exprs, Stmt.gather]
  | .raise _ exception cause, n, _ => by
    have hcalls : callsOfOption exception ++ callsOfOption cause =
        (exception.toList ++ cause.toList).flatMap Expr.calls := by
      simp [callsOfOption_eq]
    refine ((files_emitCalls hcalls).bind
      (files_guard.bind (files_terminate _ _ _ _))).congr ?_
    simp [Stmt.exprs, Stmt.gather]
  | .exit _, n, loop => by
    cases loop with
    | none => exact files_pure
    | some l => exact files_terminate _ _ _ _
  | .again _, n, loop => by
    cases loop with
    | none => exact files_pure
    | some l => exact files_terminate _ _ _ _
  | .branch _ test body orelse, n, loop => by
    refine Files.congr ((files_exprCalls test).bind (files_newBlock fun thenBlock k₁ _ hthen =>
      files_newBlockIf fun elseBlock k₂ _ helse hsome => files_newBlock fun join k₃ hk hjoin =>
      files_branch _ _ _ _ (lowerBody_files body k₃ loop) (lowerBody_files orelse k₃ loop)
        (by omega) (fun l hl => (helse l hl).trans_le hk) hsome hjoin)) ?_
    simp [Stmt.exprs, Stmt.gather, exprsOf]
  | .whileLoop _ test body orelse, n, loop => by
    refine Files.congr (files_newBlock fun head k₁ _ hhead =>
      files_newBlock fun bodyBlock k₂ _ hbody =>
      files_newBlockIf fun elseBlock k₃ _ helse hsome => files_newBlock fun after k₄ hk hafter =>
      (files_jump _ _).bind ((files_goTo (by omega)).bind ((files_exprCalls test).bind
      (files_branch _ _ _ _ (lowerBody_files body k₄ _) (lowerBody_files orelse k₄ loop)
        (by omega) (fun l hl => (helse l hl).trans_le hk) hsome hafter)))) ?_
    simp [Stmt.exprs, Stmt.gather, exprsOf]
  | .forLoop _ _ iter body orelse, n, loop => by
    refine Files.congr ((files_exprCalls iter).bind (files_newBlock fun head k₁ _ hhead =>
      files_newBlock fun bodyBlock k₂ _ hbody =>
      files_newBlockIf fun elseBlock k₃ _ helse hsome => files_newBlock fun after k₄ hk hafter =>
      (files_jump _ _).bind ((files_goTo (by omega)).bind
      (files_branch _ _ _ _ (lowerBody_files body k₄ _) (lowerBody_files orelse k₄ loop)
        (by omega) (fun l hl => (helse l hl).trans_le hk) hsome hafter)))) ?_
    simp [Stmt.exprs, Stmt.gather, exprsOf]
  | .within _ items body, n, loop => by
    refine Files.congr ((files_emitCalls (callsOfAll_eq _)).bind
      (files_guard.bind ((files_emitOther _ _ _).bind (lowerBody_files body n loop)))) ?_
    simp [Stmt.exprs, Stmt.gather, exprsOf]
  | .attempt _ body handlers orelse final, n, loop => by
    refine Files.perm (files_newBlock fun bodyBlock k₁ _ hbody =>
      files_newBlocks fun handlerBlocks k₂ _ hlabels hlength =>
      files_newBlockIf fun finalBlock k₃ _ hfinal hsome => files_newBlock fun join k₄ hk hjoin =>
      (files_terminate _ _ _ _).bind ((files_goTo (by omega)).bind
      ((lowerBody_files body k₄ loop).bind ((lowerBody_files orelse k₄ loop).bind
      ((files_jump _ _).bind ((lowerHandlers_files handlers k₄ loop _ handlerBlocks
        (fun l hl => (hlabels l hl).trans_le (by omega)) hlength).bind
      (files_optional _ (lowerBody_files final k₄ loop) (fun l hl => (hfinal l hl).trans_le hk)
        hsome hjoin))))))) ?_
    -- the exceptions of the handlers come before the statements here
    simp only [Stmt.exprs, Stmt.gather, exprsOf, List.nil_append, List.append_assoc]
    exact (List.perm_append_comm_assoc _ _ _).append_left _ |>.trans
      (List.perm_append_comm_assoc _ _ _)
  | .select _ subject cases, n, loop => by
    refine Files.congr ((files_exprCalls subject).bind
      (files_newBlocks fun caseBlocks k₁ _ hlabels hlength => files_newBlock fun join k₂ hk hjoin =>
      files_guard.bind ((files_terminate _ _ _ _).bind ((lowerCases_files cases k₂ loop join _
        caseBlocks (fun l hl => (hlabels l hl).trans_le hk) hlength).bind
        (files_goTo hjoin))))) ?_
    simp [Stmt.exprs, Stmt.gather]

theorem lowerBody_files : (body : List Stmt) → ∀ (n : ℕ) loop,
    Files scope n (lowerBody scope loop body) (exprsOf body)
  | [], _, _ => files_pure
  | s :: rest, n, loop => (lowerStmt_files s n loop).bind (lowerBody_files rest n loop)

theorem lowerHandlers_files : (handlers : List Handler) → ∀ (n : ℕ) loop after labels,
    (∀ l ∈ labels, l.number < n) → labels.length = handlers.length →
    Files scope n (lowerHandlers scope loop after labels handlers)
      (handlers.flatMap Handler.exprs ++ gatherHandlers Stmt.exprs handlers)
  | [], _, _, _, _, _, _ => files_pure
  | .mk _ exception body :: rest, n, loop, after, labels, hlabels, hlength => by
    cases labels with
    | nil => simp at hlength
    | cons label labels =>
      rw [List.forall_mem_cons] at hlabels
      exact files_arm hlabels.1 (lowerBody_files body n loop)
        (lowerHandlers_files rest n loop after labels hlabels.2 (by simpa using hlength))

theorem lowerCases_files : (cases : List Case) → ∀ (n : ℕ) loop join line labels,
    (∀ l ∈ labels, l.number < n) → labels.length = cases.length →
    Files scope n (lowerCases scope loop join line labels cases)
      (cases.flatMap Case.exprs ++ gatherCases Stmt.exprs cases)
  | [], _, _, _, _, _, _, _ => files_pure
  | .mk _ guard' body :: rest, n, loop, join, line, labels, hlabels, hlength => by
    cases labels with
    | nil => simp at hlength
    | cons label labels =>
      rw [List.forall_mem_cons] at hlabels
      exact files_arm hlabels.1 (lowerBody_files body n loop)
        (lowerCases_files rest n loop join line labels hlabels.2 (by simpa using hlength))

end

end Statements

/-- **The call instructions of a function are those of the calls in its expressions.** -/
theorem lowerFunction_filed {scope : Scope} {file : Option String} {name : String}
    {body : List Stmt} {lastLine : ℕ} {f : Function}
    (h : lowerFunction scope file name body lastLine = some f) :
    Filed scope f.blocks (exprsOf body) := by
  obtain ⟨b, hrun, rfl⟩ := lowerFunction_eq_some.1 h
  have hbuild : Files scope 0 (lowerWithReturn scope body lastLine) (exprsOf body ++ []) :=
    (lowerBody_files body 0 none).bind (files_get fun b => by
      split_ifs
      · exact files_emitReturn _ _
      · exact files_pure)
  have hstart : Filed scope ({} : Builder).blocks [] := ⟨[[]], .cons rfl .nil, .refl _⟩
  rw [List.append_nil] at hbuild
  exact (hbuild {} b (Nat.zero_le _) Nat.zero_lt_one hrun).2.2 [] hstart

end CallReach.Source
