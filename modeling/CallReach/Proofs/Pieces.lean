import CallReach.Proofs.Builder

/-!
# Pieces of code

The blocks of a statement are put together from pieces, and what a piece is read as is put together
from what its parts are read as.

* `LoopCarries` : the blocks of the innermost loop are read as the tasks from the loop on and behind
  it.
* `Lowers` : tasks have been cut into blocks, so that the place where they begin carries them and
  then what the place carries where they end.
* `Fills` : blocks that were waiting have been filled, and lead to a common block.
* `branch_lowers`, `loop_lowers` : the two ways in which blocks are put together.
-/

namespace CallReach.Source

open Build

/-! ### The innermost loop -/

/-- The blocks of the innermost loop carry the tasks from that loop on and behind it; without a loop
there is none among the tasks. -/
def LoopCarries (scope : Scope) (f : Function) (n : ℕ) (loop : Option Loop)
    (k : List Task) : Prop :=
  match loop with
  | none => ∀ task ∈ k, task.isLoop = false
  | some l => (∃ task ∈ k, task.isLoop = true) ∧
      Carries scope f n (.first l.head.name) (Task.fromLoop k) ∧
      Carries scope f n (.first l.after.name) (Task.afterLoop k)

section InnermostLoop

variable {scope : Scope} {f : Function} {n m : ℕ} {loop : Option Loop} {k ts : List Task}

theorem LoopCarries.mono (h : LoopCarries scope f n loop k) (hm : m ≤ n) :
    LoopCarries scope f m loop k := by
  cases loop with
  | none => exact h
  | some l => exact ⟨h.1, h.2.1.mono hm, h.2.2.mono hm⟩

/-- Tasks of the same loop do not change where it is. -/
theorem LoopCarries.append (hts : ∀ task ∈ ts, task.isLoop = false)
    (h : LoopCarries scope f n loop k) : LoopCarries scope f n loop (ts ++ k) := by
  cases loop with
  | none =>
    intro task hmem
    rcases List.mem_append.1 hmem with hmem | hmem
    · exact hts task hmem
    · exact h task hmem
  | some l =>
    obtain ⟨⟨task, hmem, htask⟩, hhead, hafter⟩ := h
    have hk : ∃ task ∈ k, task.isLoop = true := ⟨task, hmem, htask⟩
    refine ⟨⟨task, List.mem_append_right _ hmem, htask⟩, ?_, ?_⟩
    · rwa [Task.fromLoop_append hts hk]
    · rwa [Task.afterLoop_append hts hk]

/-- In a loop, its blocks are those of the innermost loop. -/
theorem LoopCarries.enter {head after : Label} {c : Cycle}
    (hhead : Carries scope f n (.first head.name) (.loop c :: k))
    (hafter : Carries scope f n (.first after.name) k) :
    LoopCarries scope f n (some ⟨head, after⟩) (.loop c :: k) :=
  ⟨⟨.loop c, List.mem_cons_self, rfl⟩, hhead, hafter⟩

end InnermostLoop

/-! ### Pieces of code -/

/-- Tasks have been lowered: where they begin they are carried, and then what is carried where they
end. -/
structure Lowers (scope : Scope) (loop : Option Loop) (W : List Label) (b b' : Builder)
    (ts : List Task) : Prop where
  grows : Grows b.blocks b'.blocks
  shape : b'.Shape W
  carries : ∀ {f n k p}, Completes f b' → b.point? = some p →
    (∀ q, b'.point? = some q → Carries scope f n q k) → LoopCarries scope f n loop k →
    Carries scope f n p (ts ++ k)

/-- Blocks that were waiting have been filled: each carries its way, and then what is carried by the
block they lead to. -/
structure Fills (scope : Scope) (loop : Option Loop) (W : List Label) (b b' : Builder)
    (target : Label) (labels : List Label) (ways : List (List Task)) : Prop where
  grows : Grows b.blocks b'.blocks
  shape : b'.Shape W
  current : b'.current = none
  carries : ∀ {f n k}, Completes f b' → Carries scope f n (.first target.name) k →
    LoopCarries scope f n loop k →
    List.Forall₂ (fun l way => Carries scope f n (.first l.name) (way ++ k)) labels ways

section Pieces

variable {scope : Scope} {loop : Option Loop} {W : List Label} {b b' b'' : Builder}

theorem Straight.lowers {ts : List Task} (h : Straight scope W b b' ts) :
    Lowers scope loop W b b' ts :=
  ⟨h.grows, h.shape, fun hf hp hend _ => h.carries hf hp hend⟩

theorem Straight.andThen {ts us : List Task} (h : Straight scope W b b' ts)
    (h' : Lowers scope loop W b' b'' us) : Lowers scope loop W b b'' (ts ++ us) where
  grows := h.grows.trans h'.grows
  shape := h'.shape
  carries hf hp hend hloop := by
    rw [List.append_assoc]
    exact h.carries (hf.of_grows h'.grows) hp fun q hq => h'.carries hf hq hend hloop

theorem Lowers.trans {ts us : List Task} (h : Lowers scope loop W b b' ts)
    (h' : Lowers scope loop W b' b'' us) (hus : ∀ task ∈ us, task.isLoop = false) :
    Lowers scope loop W b b'' (ts ++ us) where
  grows := h.grows.trans h'.grows
  shape := h'.shape
  carries hf hp hend hloop := by
    rw [List.append_assoc]
    exact h.carries (hf.of_grows h'.grows) hp (fun q hq => h'.carries hf hq hend hloop)
      (hloop.append hus)

/-- A statement is lowered when what it comes down to is. -/
theorem Lowers.run {ts : List Task} {s : Stmt} (h : Lowers scope loop W b b' ts)
    (hs : ∀ k, Task.ofStmt scope s k = ts ++ k) : Lowers scope loop W b b' [.run s] where
  grows := h.grows
  shape := h.shape
  carries {f n k p} hf hp hend hloop := by
    refine (h.carries hf hp hend hloop).congr fun t => ?_
    rw [← hs k]
    exact Task.begins_run

/-- A block that waits is filled and leads to the target. -/
theorem fills_block {l target : Label} {line : ℕ} {ts : List Task} {b₁ b₂ : Builder}
    (hb : b.Shape (l :: W)) (hc : b.current = none) (htarget : Present b.blocks target.name)
    (hgo : (goTo l).run b = some ((), b₁))
    (hbody : b₁.Shape W → Grows b.blocks b₁.blocks → Lowers scope loop W b₁ b₂ ts)
    (hjump : (jump target line).run b₂ = some ((), b')) :
    Fills scope loop W b b' target [l] [ts] := by
  obtain ⟨-, rfl⟩ := run_inj hgo
  obtain ⟨hshape, hpoint⟩ := goTo_shape hb hc
  have hlowers := hbody hshape (.refl _)
  have hjumps : Jumps scope W b₂ b' target :=
    jump_jumps (hlowers.grows.present htarget) hlowers.shape hjump
  refine ⟨hlowers.grows.trans hjumps.grows, hjumps.shape, hjumps.current, ?_⟩
  intro f n k hf hk hloop
  refine .cons (hlowers.carries (hf.of_grows hjumps.grows) hpoint (fun q hq => ?_) hloop) .nil
  exact hjumps.carries hf hq hk

/-- The target itself has nothing to do before it. -/
theorem Fills.self (target : Label) (hb : b.Shape W) (hc : b.current = none) :
    Fills scope loop W b b target [target] [[]] :=
  ⟨.refl _, hb, hc, fun _ hk _ => .cons hk .nil⟩

theorem Fills.nil (target : Label) (hb : b.Shape W) (hc : b.current = none) :
    Fills scope loop W b b target [] [] :=
  ⟨.refl _, hb, hc, fun _ _ _ => .nil⟩

theorem Fills.append {V : List Label} {target : Label} {ls ms : List Label}
    {ways others : List (List Task)} (h : Fills scope loop V b b' target ls ways)
    (h' : Fills scope loop W b' b'' target ms others) :
    Fills scope loop W b b'' target (ls ++ ms) (ways ++ others) where
  grows := h.grows.trans h'.grows
  shape := h'.shape
  current := h'.current
  carries hf hk hloop :=
    List.rel_append (h.carries (hf.of_grows h'.grows) hk hloop) (h'.carries hf hk hloop)

theorem Adds.lowers {ls : List Label} {ts : List Task} (h : Adds b b' ls) (hb : b.Shape W)
    (h' : Lowers scope loop W b' b'' ts) : Lowers scope loop W b b'' ts where
  grows := h.grows.trans h'.grows
  shape := h'.shape
  carries hf hp hend hloop := h'.carries hf ((h.point? W hb).trans hp) hend hloop

end Pieces

/-! ### What the induction assumes about the parts of a statement -/

/-- A statement is lowered by its blocks, wherever it stands. -/
def StmtLowers (scope : Scope) (s : Stmt) : Prop :=
  ∀ {loop W b b'}, b.Shape W → b.KnowsLoop loop → (lowerStmt scope loop s).run b = some ((), b') →
    Lowers scope loop W b b' [.run s]

/-- Statements are lowered by their blocks. -/
def BodyLowers (scope : Scope) (body : List Stmt) : Prop :=
  ∀ {loop W b b'}, b.Shape W → b.KnowsLoop loop → (lowerBody scope loop body).run b = some ((), b') →
    Lowers scope loop W b b' (Task.runs body)

/-- Handlers fill the blocks that were made for them. -/
def HandlersFill (scope : Scope) (handlers : List Handler) : Prop :=
  ∀ {loop W b b' after labels}, labels.length = handlers.length → b.Shape (labels ++ W) →
    b.current = none → Present b.blocks after.name → b.KnowsLoop loop →
    (lowerHandlers scope loop after labels handlers).run b = some ((), b') →
    Fills scope loop W b b' after labels (handlers.map (Task.ofHandler scope))

/-- Cases fill the blocks that were made for them. -/
def CasesFill (scope : Scope) (cases : List Case) : Prop :=
  ∀ {loop W b b' join line labels}, labels.length = cases.length → b.Shape (labels ++ W) →
    b.current = none → Present b.blocks join.name → b.KnowsLoop loop →
    (lowerCases scope loop join line labels cases).run b = some ((), b') →
    Fills scope loop W b b' join labels (cases.map (Task.ofCase scope))

/-! ### Branches and loops -/

section Compound

variable {scope : Scope} {loop : Option Loop} {W V V' : List Label} {b b' b₁ b₂ b₃ : Builder}

/-- An instruction that leads to blocks, and these lead to a common block. -/
theorem branch_lowers {opcode text : String} {line : ℕ} {targets : List Label}
    {ways : List (List Task)} {rest : List Task} {after join : Label}
    (hvisible : (opcode == "jump") = false)
    (hends : Ends V b b₁
      { opcode, kind := .terminator, text, line, targets := targets.map (·.name) })
    (hfills : Fills scope loop V' b₁ b₂ after targets ways)
    (hafter : Fills scope loop (join :: W) b₂ b₃ join [after] [rest])
    (hrest : ∀ task ∈ rest, task.isLoop = false) (hgo : (goTo join).run b₃ = some ((), b')) :
    Lowers scope loop W b b'
      (.emit (branchInstruction opcode text line) :: .choose ways :: rest) := by
  obtain ⟨-, rfl⟩ := run_inj hgo
  obtain ⟨hshape, hpoint⟩ := goTo_shape hafter.shape hafter.current
  have hgrows := hfills.grows.trans hafter.grows
  refine ⟨hends.grows.trans hgrows, hshape, fun {f n k p} hf hp hend hloop => ?_⟩
  have hf₃ : Completes f b₃ := hf.of_grows (.refl _)
  have hrestCarries : Carries scope f n (.first after.name) (rest ++ k) := by
    cases hafter.carries hf₃ (hend _ hpoint) hloop with
    | cons h _ => exact h
  -- the ways meet at `after`, so they are followed by what is carried there
  have hways := hfills.carries (hf₃.of_grows hafter.grows) hrestCarries (hloop.append hrest)
  have hplaced := hends.placed (hf₃.of_grows hgrows) hp
  have hcarries : Carries scope f (n + 1) p (.emit (branchInstruction opcode text line) ::
      .choose ways :: (rest ++ k)) :=
    Carries.branch hf.wellFormed hplaced rfl (by simp [Instruction.isJump, hvisible])
      (List.forall₂_map_left_iff.2 hways)
  exact hcarries.mono (Nat.le_succ n)

/-- A loop is carried when its rounds are: what a round leads back to need only be carried up to a
smaller length, since a round begins with an instruction. -/
theorem Carries.of_rounds {f : Function} {n : ℕ} {p : Place} {c : Cycle} {k : List Task}
    (h : ∀ m < n, Carries scope f m p (.loop c :: k) →
      Carries scope f (m + 1) p (Task.round c ++ k)) :
    Carries scope f n p (.loop c :: k) := by
  -- a round reads one instruction at least, so its end is needed up to one instruction less
  induction n with
  | zero => exact .zero
  | succ n ih =>
    have hn := ih fun m hm => h m (Nat.lt_succ_of_lt hm)
    exact (h n (Nat.lt_succ_self n) hn).congr fun _ => Task.begins_loop

/-- A block that is made only if there are statements for it. -/
theorem fills_optional {body : List Stmt} {l : Option Label} {target : Label} {line : ℕ}
    {rest : Build Unit} (ih : BodyLowers scope body) (hl : l.isSome = !body.isEmpty)
    (hb : b.Shape (l.toList ++ W)) (hc : b.current = none)
    (htarget : Present b.blocks target.name) (hloop : b.KnowsLoop loop)
    (h : (do
      if let some label := l then
        goTo label
        lowerBody scope loop body
        jump target line
      rest : Build Unit).run b = some ((), b')) :
    ∃ b₁, Fills scope loop W b b₁ target [l.getD target] [Task.runs body] ∧
      rest.run b₁ = some ((), b') := by
  cases l with
  | none =>
    obtain rfl : body = [] := by simpa using hl
    exact ⟨b, .self target hb hc, h⟩
  | some label =>
    simp only [run_bind_eq] at h
    obtain ⟨_, b₁, hgo, _, b₂, hbody, _, b₃, hjump, hrest⟩ := h
    exact ⟨b₃, fills_block hb hc htarget hgo (fun hs hg => ih hs (hloop.mono hg) hbody) hjump,
      hrest⟩

theorem getD_mem_toList (l : Option Label) (target : Label) (W : List Label) :
    l.getD target ∈ l.toList ++ target :: W := by
  cases l <;> simp

/-- What the blocks of a loop carry, when those of its body and of what follows it do. -/
theorem loop_carries {f : Function} {n : ℕ} {k : List Task} {head body after other : Label}
    {c : Cycle} {sites : List CallSite} {opcode text : String} {line : ℕ} {targets : List Label}
    (hvisible : (opcode == "jump") = false)
    (hhead : c.head = sites.map scope.callInstruction ++ [branchInstruction opcode text line])
    (htargets : targets = body :: if c.leaves then [other] else [])
    (hcalls : Straight scope V b₁ b₂ (Task.calls scope sites))
    (hends : Ends V b₂ b₃
      { opcode, kind := .terminator, text, line, targets := targets.map (·.name) })
    (hpoint : b₁.point? = some (.first head.name)) (hf : Completes f b₃)
    (hbody : ∀ m ≤ n, LoopCarries scope f m (some ⟨head, after⟩) (.loop c :: k) →
      Carries scope f m (.first body.name) (Task.runs c.body ++ .loop c :: k))
    (hother : Carries scope f n (.first other.name) (Task.runs c.orelse ++ k))
    (hafter : Carries scope f n (.first after.name) k) :
    Carries scope f n (.first head.name) (.loop c :: k) := by
  refine .of_rounds fun m hm hround => ?_
  -- the body leads back to the head, where the loop is carried up to `m` by the induction
  have hways : List.Forall₂ (fun l way => Carries scope f m (.first l.name) (way ++ k)) targets
      ((Task.runs c.body ++ [.loop c]) :: if c.leaves then [Task.runs c.orelse] else []) := by
    rw [htargets]
    refine .cons ?_ ?_
    · rw [List.append_assoc]
      exact hbody m hm.le (.enter hround (hafter.mono hm.le))
    · split_ifs
      · exact .cons (hother.mono hm.le) .nil
      · exact .nil
  have hend : ∀ q, b₂.point? = some q → Carries scope f (m + 1) q
      (.emit (branchInstruction opcode text line) :: .choose _ :: k) := fun q hq =>
    Carries.branch hf.wellFormed (hends.placed hf hq) rfl (by simp [Instruction.isJump, hvisible])
      (List.forall₂_map_left_iff.2 hways)
  have hcarries := hcalls.carries (hf.of_grows hends.grows) hpoint hend
  simpa [Task.round, hhead, Task.calls, Function.comp_def] using hcarries

/-- The head of a loop: what comes before the loop leads to it, and it ends with a branch. -/
theorem loop_head {head : Label} {sites : List CallSite} {opcode text : String} {line : ℕ}
    {targets : List Label} {b₄ : Builder} (hb : b.Shape (head :: V))
    (htargets : ∀ l ∈ targets, Present b.blocks l.name)
    (hjump : (jump head line).run b = some ((), b₁)) (hgo : (goTo head).run b₁ = some ((), b₂))
    (hcalls : (emitCalls scope sites).run b₂ = some ((), b₃))
    (hterm : (terminate opcode targets line text).run b₃ = some ((), b₄)) :
    Jumps scope (head :: V) b b₁ head ∧ Grows b₁.blocks b₂.blocks ∧
      b₂.point? = some (.first head.name) ∧ Straight scope V b₂ b₃ (Task.calls scope sites) ∧
      Ends V b₃ b₄
        { opcode, kind := .terminator, text, line, targets := targets.map (·.name) } := by
  have hjumps : Jumps scope _ b b₁ head := jump_jumps (hb.present List.mem_cons_self) hb hjump
  obtain ⟨-, rfl⟩ := run_inj hgo
  obtain ⟨hshape, hpoint⟩ := goTo_shape hjumps.shape hjumps.current
  have hstraight := emitCalls_straight hshape hcalls
  have hgrows : Grows b.blocks b₃.blocks := hjumps.grows.trans hstraight.grows
  exact ⟨hjumps, .refl _, hpoint, hstraight,
    terminate_ends (fun l hl => hgrows.present (htargets l hl)) hstraight.shape hterm⟩

/-- The blocks of a loop: its head, which leads to the body or to what follows the loop, and the
body, which leads back to the head. -/
theorem loop_lowers (sites : List CallSite) {head body after : Label} {other : Option Label}
    {c : Cycle} {written : Prop} [Decidable written] {opcode text : String} {line : ℕ}
    {targets : List Label} (hvisible : (opcode == "jump") = false)
    (hhead : c.head = sites.map scope.callInstruction ++ [branchInstruction opcode text line])
    (htargets : targets = body :: if c.leaves then [other.getD after] else [])
    (ihBody : BodyLowers scope c.body) (ihOther : BodyLowers scope c.orelse)
    (hexists : other.isSome = !c.orelse.isEmpty)
    (hb : b.Shape (head :: body :: (other.toList ++ after :: W))) (hloop : b.KnowsLoop loop)
    (h : (do
      jump head line
      goTo head
      emitCalls scope sites
      guard written
      terminate opcode targets line text
      goTo body
      lowerBody scope (some ⟨head, after⟩) c.body
      jump head line
      if let some label := other then
        goTo label
        lowerBody scope loop c.orelse
        jump after line
      goTo after : Build Unit).run b = some ((), b')) :
    Lowers scope loop W b b' [.loop c] := by
  simp only [run_bind_eq] at h
  obtain ⟨_, b₁, hjump, _, b₂, hgo, _, b₃, hcalls, _, b₀, hguard, _, b₄, hterm, _, b₅, hgoBody, _,
    b₆, hbody, _, b₇, hback, hrest⟩ := h
  obtain ⟨-, rfl⟩ := run_guard_eq.1 hguard
  have hpresent : ∀ l ∈ targets, Present b.blocks l.name := by
    have hother : other.getD after ∈ other.toList ++ after :: W := getD_mem_toList other after W
    intro l hl
    refine hb.present (List.mem_cons_of_mem _ ?_)
    rw [htargets] at hl
    rcases List.mem_cons.1 hl with rfl | hl
    · exact List.mem_cons_self
    · split_ifs at hl
      · exact List.mem_cons_of_mem _ (List.mem_singleton.1 hl ▸ hother)
      · simp at hl
  -- the head, then the body with the loop around it, then what follows the loop
  obtain ⟨hjumps, hgrows₂, hpoint, hstraight, hends⟩ :=
    loop_head hb hpresent hjump hgo hcalls hterm
  have hgrows₄ : Grows b₁.blocks b₄.blocks :=
    hgrows₂.trans (hstraight.grows.trans hends.grows)
  have hpresentHead : Present b₄.blocks head.name :=
    hgrows₄.present (hjumps.shape.present (by simp))
  have hpresentAfter : Present b₄.blocks after.name := hends.shape.present (by simp)
  have hloopBody : b₄.KnowsLoop (some ⟨head, after⟩) := by
    rintro _ ⟨⟩
    exact ⟨hpresentHead, hpresentAfter⟩
  have hfills : Fills scope (some ⟨head, after⟩) _ b₄ b₇ head [body] [Task.runs c.body] :=
    fills_block hends.shape hends.current hpresentHead hgoBody
      (fun hs hg => ihBody hs (hloopBody.mono hg) hbody) hback
  have hgrows₇ : Grows b.blocks b₇.blocks := (hjumps.grows.trans hgrows₄).trans hfills.grows
  obtain ⟨b₈, hfillsOther, hgoAfter⟩ := fills_optional ihOther hexists hfills.shape hfills.current
    (hfills.grows.present hpresentAfter) (hloop.mono hgrows₇) hrest
  obtain ⟨-, rfl⟩ := run_inj hgoAfter
  obtain ⟨hshape, hpointAfter⟩ := goTo_shape hfillsOther.shape hfillsOther.current
  refine ⟨hgrows₇.trans hfillsOther.grows, hshape, fun {f n k p} hf hp hend hcarries => ?_⟩
  have hf₈ : Completes f b₈ := hf.of_grows (.refl _)
  have hf₇ := hf₈.of_grows hfillsOther.grows
  have hf₄ := hf₇.of_grows hfills.grows
  have hafter := hend _ hpointAfter
  refine hjumps.carries (hf₄.of_grows hgrows₄) hp ?_
  refine loop_carries hvisible hhead htargets hstraight hends hpoint hf₄ (fun m _ hinner => ?_) ?_
    hafter
  · cases hfills.carries hf₇ hinner.2.1 hinner with
    | cons hcons _ => exact hcons
  · cases hfillsOther.carries hf₈ hafter hcarries with
    | cons hcons _ => exact hcons

end Compound

end CallReach.Source
