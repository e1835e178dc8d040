import CallReach.Proofs.Lowering
import CallReach.Proofs.Parsed

/-!
# What the blocks of a source text hold

Every call instruction of a function comes from a call that the statements of the function make, and
every block has a name without the signs that separate the parts of references.  Both are kept by
each step in the making of blocks.

* `Emits` : a step adds only blocks with plain names and instructions of a kind.
* `lowerBody_emits` : statements add only instructions of their calls, and instructions that are no
  calls.
* `lowerFunction_emits` : so the call instructions of a function are those of the calls in it.
-/

namespace CallReach.Source

open Build

/-- A text without the signs that separate the parts of references. -/
def Plain (s : String) : Prop := ':' ∉ s.toList ∧ '@' ∉ s.toList

instance : DecidablePred Plain := fun s =>
  inferInstanceAs (Decidable (':' ∉ s.toList ∧ '@' ∉ s.toList))

theorem plain_append {s t : String} : Plain (s ++ t) ↔ Plain s ∧ Plain t := by
  simp only [Plain, String.toList_append, List.mem_append, not_or]
  tauto

theorem toList_toString (n : ℕ) : (toString n).toList = Nat.toDigits 10 n := by simp

theorem isDigit_of_mem_toDigits {n : ℕ} {c : Char} (h : c ∈ Nat.toDigits 10 n) :
    c.isDigit = true :=
  Nat.isDigit_of_mem_toDigits (by decide) (by decide) h

theorem plain_toString (n : ℕ) : Plain (toString n) := by
  have hdigits : ∀ c, c.isDigit = false → c ∉ (toString n).toList := by
    intro c hc hmem
    rw [toList_toString] at hmem
    rw [isDigit_of_mem_toDigits hmem] at hc
    cases hc
  exact ⟨hdigits ':' (by decide), hdigits '@' (by decide)⟩

theorem IsWord.plain {w : String} (h : IsWord w) : Plain w :=
  ⟨h.notMem (by decide), h.notMem (by decide)⟩

/-! ### Steps in the making of blocks -/

section Steps

variable {I : Instruction → Prop} {α β : Type} {m : Build α} {f : α → Build β}

/-- The blocks have plain names, and all their instructions satisfy `I`. -/
def Holds (I : Instruction → Prop) (b : Builder) : Prop :=
  ∀ block ∈ b.blocks, Plain block.name ∧ ∀ i ∈ block.instructions, I i

/-- A step adds only blocks with plain names and instructions that satisfy `I`. -/
def Emits (I : Instruction → Prop) (m : Build α) : Prop :=
  ∀ b a b', Holds I b → m.run b = some (a, b') → Holds I b'

theorem emits_pure (a : α) : Emits I (pure a) := fun _ _ _ hb h => (run_inj h).2 ▸ hb

theorem Emits.bind (hm : Emits I m) (hf : ∀ a, Emits I (f a)) : Emits I (m >>= f) := by
  intro b c b' hb h
  obtain ⟨a, b₁, ha, hc⟩ := run_bind_eq.1 h
  exact hf a b₁ c b' (hm b a b₁ hb ha) hc

theorem emits_guard {p : Prop} [Decidable p] : Emits I (guard p) :=
  fun _ _ _ hb h => (run_guard_eq.1 h).2 ▸ hb

theorem newBlock_emits {word : String} (h : Plain word) : Emits I (newBlock word) := by
  intro b label b' hb hrun
  obtain ⟨-, rfl⟩ := run_inj hrun
  intro block hblock
  rcases List.mem_append.1 hblock with hblock | hblock
  · exact hb block hblock
  · rw [List.mem_singleton.1 hblock]
    exact ⟨plain_append.2 ⟨plain_append.2 ⟨h, by decide⟩, plain_toString _⟩, by simp⟩

theorem newBlockIf_emits {word : String} (h : Plain word) (condition : Bool) :
    Emits I (newBlockIf condition word) := by
  cases condition with
  | true => exact (newBlock_emits h).bind fun _ => emits_pure _
  | false => exact emits_pure _

theorem newBlocks_emits {word : String} (h : Plain word) (items : List α) :
    Emits I (newBlocks word items) := by
  induction items with
  | nil => exact emits_pure _
  | cons item rest ih => exact (newBlock_emits h).bind fun _ => ih.bind fun _ => emits_pure _

theorem goTo_emits (label : Label) : Emits I (goTo label) :=
  fun _ _ _ hb h => (run_inj h).2 ▸ hb

theorem leave_emits : Emits I leave := fun _ _ _ hb h => (run_inj h).2 ▸ hb

theorem emits_get : Emits I (get : Build Builder) := fun _ _ _ hb h => (run_inj h).2 ▸ hb

theorem currentBlock_emits : Emits I currentBlock := by
  refine emits_get.bind fun b => ?_
  split
  · exact emits_pure _
  · exact (newBlock_emits (by decide)).bind fun _ => (goTo_emits _).bind fun _ => emits_pure _

theorem emit_emits {i : Instruction} (hi : I i) : Emits I (emit i) := by
  refine currentBlock_emits.bind fun n => ?_
  intro b u b' hb hrun
  obtain ⟨-, rfl⟩ := run_inj hrun
  intro block hblock
  obtain ⟨k, hk⟩ := List.mem_iff_getElem?.1 hblock
  have hmodified : (b.blocks.modify n (withInstruction i))[k]? = some block := hk
  rw [List.getElem?_modify] at hmodified
  obtain ⟨old, hold, rfl⟩ := Option.map_eq_some_iff.1 hmodified
  have hholds := hb old (List.mem_of_getElem? hold)
  split_ifs
  · refine ⟨hholds.1, fun j hj => ?_⟩
    rcases List.mem_append.1 hj with hj | hj
    · exact hholds.2 j hj
    · rw [List.mem_singleton.1 hj]
      exact hi
  · exact hholds

/-- All instructions that are no calls satisfy `I`. -/
def Others (I : Instruction → Prop) : Prop := ∀ i : Instruction, i.kind ≠ .call → I i

theorem emitOther_emits (hI : Others I) (opcode text : String) (line : ℕ) :
    Emits I (emitOther opcode text line) := emit_emits (hI _ (by simp))

theorem emitReturn_emits (hI : Others I) (text : String) (line : ℕ) :
    Emits I (emitReturn text line) := (emit_emits (hI _ (by simp))).bind fun _ => leave_emits

theorem terminate_emits (hI : Others I) (opcode text : String) (targets : List Label) (line : ℕ) :
    Emits I (terminate opcode targets line text) :=
  (emit_emits (hI _ (by simp))).bind fun _ => leave_emits

theorem jump_emits (hI : Others I) (target : Label) (line : ℕ) : Emits I (jump target line) := by
  refine emits_get.bind fun b => ?_
  split_ifs
  · exact terminate_emits hI _ _ _ _
  · exact emits_pure _

theorem emitCalls_emits {scope : Scope} {sites : List CallSite}
    (h : ∀ c ∈ sites, I (scope.callInstruction c)) : Emits I (emitCalls scope sites) := by
  induction sites with
  | nil => exact emits_pure _
  | cons c rest ih =>
    rw [List.forall_mem_cons] at h
    exact (emits_guard.bind fun _ => emit_emits h.1).bind fun _ => ih h.2

end Steps

/-! ### Statements -/

section Statements

variable {I : Instruction → Prop} {scope : Scope}

/-- A second block of statements that may be absent. -/
theorem optional_emits (hI : Others I) {body : Build Unit} (hbody : Emits I body)
    (o : Option Label) (join : Label) (line : ℕ) :
    Emits I (do
      if let some label := o then
        goTo label
        body
        jump join line
      goTo join) := by
  cases o with
  | none => exact goTo_emits _
  | some label => exact (goTo_emits _).bind fun _ => hbody.bind fun _ =>
      (jump_emits hI _ _).bind fun _ => goTo_emits _

mutual

/-- **Statements add only instructions of the calls that they make, and instructions that are no
calls**, and blocks with plain names. -/
theorem lowerStmt_emits (hI : Others I) : (s : Stmt) →
    (∀ c, s.Makes c → I (scope.callInstruction c)) → ∀ loop, Emits I (lowerStmt scope loop s)
  | .simple _ s, h, _ => by
    refine (emitCalls_emits fun c hc => ?_).bind fun _ => emits_guard.bind fun _ =>
      emitOther_emits hI _ _ _
    obtain ⟨e, he, hc⟩ := mem_simple_calls.1 hc
    exact h c (.own he hc)
  | .functionDef _ _ decorators _ _ _ _, h, _ => by
    refine (emitCalls_emits fun c hc => ?_).bind fun _ => emits_guard.bind fun _ =>
      emitOther_emits hI _ _ _
    obtain ⟨e, he, hc⟩ := mem_callsOfAll.1 hc
    exact h c (.own he hc)
  | .classDef _ decorators _ _ _ _, h, _ => by
    refine (emitCalls_emits fun c hc => ?_).bind fun _ => emits_guard.bind fun _ =>
      emitOther_emits hI _ _ _
    obtain ⟨e, he, hc⟩ := mem_callsOfAll.1 hc
    exact h c (.own he hc)
  | .ret _ value, h, _ => by
    refine (emitCalls_emits fun c hc => ?_).bind fun _ => emits_guard.bind fun _ =>
      emitReturn_emits hI _ _
    obtain ⟨e, he, hc⟩ := mem_callsOfOption.1 hc
    exact h c (.own (Option.mem_toList.2 he) hc)
  | .raise _ exception cause, h, _ => by
    refine (emitCalls_emits fun c hc => ?_).bind fun _ => emits_guard.bind fun _ =>
      terminate_emits hI _ _ _ _
    rcases List.mem_append.1 hc with hc | hc
    · obtain ⟨e, he, hc⟩ := mem_callsOfOption.1 hc
      exact h c (.own (List.mem_append_left _ (Option.mem_toList.2 he)) hc)
    · obtain ⟨e, he, hc⟩ := mem_callsOfOption.1 hc
      exact h c (.own (List.mem_append_right _ (Option.mem_toList.2 he)) hc)
  | .exit _, _, loop => by
    cases loop with
    | none => exact emits_pure _
    | some l => exact terminate_emits hI _ _ _ _
  | .again _, _, loop => by
    cases loop with
    | none => exact emits_pure _
    | some l => exact terminate_emits hI _ _ _ _
  | .branch _ test body orelse, h, loop => by
    have hbody := lowerBody_emits hI body fun s hs c hc =>
      h c (.part rfl (List.mem_append_left _ hs) hc)
    have horelse := lowerBody_emits hI orelse fun s hs c hc =>
      h c (.part rfl (List.mem_append_right _ hs) hc)
    exact (emitCalls_emits fun c hc => h c (.own List.mem_cons_self hc)).bind fun _ =>
      (newBlock_emits (by decide)).bind fun _ => (newBlockIf_emits (by decide) _).bind fun _ =>
      (newBlock_emits (by decide)).bind fun _ => emits_guard.bind fun _ =>
      (terminate_emits hI _ _ _ _).bind fun _ => (goTo_emits _).bind fun _ =>
      (hbody loop).bind fun _ => (jump_emits hI _ _).bind fun _ =>
      optional_emits hI (horelse loop) _ _ _
  | .whileLoop _ test body orelse, h, loop => by
    have hbody := lowerBody_emits hI body fun s hs c hc =>
      h c (.part rfl (List.mem_append_left _ hs) hc)
    have horelse := lowerBody_emits hI orelse fun s hs c hc =>
      h c (.part rfl (List.mem_append_right _ hs) hc)
    exact (newBlock_emits (by decide)).bind fun _ => (newBlock_emits (by decide)).bind fun _ =>
      (newBlockIf_emits (by decide) _).bind fun _ => (newBlock_emits (by decide)).bind fun _ =>
      (jump_emits hI _ _).bind fun _ => (goTo_emits _).bind fun _ =>
      (emitCalls_emits fun c hc => h c (.own List.mem_cons_self hc)).bind fun _ =>
      emits_guard.bind fun _ => (terminate_emits hI _ _ _ _).bind fun _ =>
      (goTo_emits _).bind fun _ => (hbody _).bind fun _ => (jump_emits hI _ _).bind fun _ =>
      optional_emits hI (horelse loop) _ _ _
  | .forLoop _ _ iter body orelse, h, loop => by
    have hbody := lowerBody_emits hI body fun s hs c hc =>
      h c (.part rfl (List.mem_append_left _ hs) hc)
    have horelse := lowerBody_emits hI orelse fun s hs c hc =>
      h c (.part rfl (List.mem_append_right _ hs) hc)
    exact (emitCalls_emits fun c hc => h c (.own List.mem_cons_self hc)).bind fun _ =>
      (newBlock_emits (by decide)).bind fun _ => (newBlock_emits (by decide)).bind fun _ =>
      (newBlockIf_emits (by decide) _).bind fun _ => (newBlock_emits (by decide)).bind fun _ =>
      (jump_emits hI _ _).bind fun _ => (goTo_emits _).bind fun _ => emits_guard.bind fun _ =>
      (terminate_emits hI _ _ _ _).bind fun _ => (goTo_emits _).bind fun _ =>
      (hbody _).bind fun _ => (jump_emits hI _ _).bind fun _ =>
      optional_emits hI (horelse loop) _ _ _
  | .within _ items body, h, loop => by
    have hbody := lowerBody_emits hI body fun s hs c hc => h c (.part rfl hs hc)
    refine (emitCalls_emits fun c hc => ?_).bind fun _ => emits_guard.bind fun _ =>
      (emitOther_emits hI _ _ _).bind fun _ => hbody loop
    obtain ⟨e, he, hc⟩ := mem_callsOfAll.1 hc
    exact h c (.own he hc)
  | .attempt _ body handlers orelse final, h, loop => by
    have hpart : ∀ {part}, part ∈ body ++ handlers.flatMap Parser.handlerBody ++ orelse ++ final →
        ∀ c, part.Makes c → I (scope.callInstruction c) :=
      fun hs c hc => h c (.part rfl hs hc)
    have hbody := lowerBody_emits hI body fun s hs => hpart (by simp [hs])
    have horelse := lowerBody_emits hI orelse fun s hs => hpart (by simp [hs])
    have hfinal := lowerBody_emits hI final fun s hs => hpart (by simp [hs])
    have hhandlers := lowerHandlers_emits hI handlers
      (fun k hk e he c hc => h c (.own (List.mem_flatMap.2 ⟨k, hk, he⟩) hc))
      fun k hk s hs => hpart (by
        simp only [List.mem_append, List.mem_flatMap]
        exact Or.inl (Or.inl (Or.inr ⟨k, hk, hs⟩)))
    exact (newBlock_emits (by decide)).bind fun _ => (newBlocks_emits (by decide) _).bind fun _ =>
      (newBlockIf_emits (by decide) _).bind fun _ => (newBlock_emits (by decide)).bind fun _ =>
      (terminate_emits hI _ _ _ _).bind fun _ => (goTo_emits _).bind fun _ =>
      (hbody loop).bind fun _ => (horelse loop).bind fun _ => (jump_emits hI _ _).bind fun _ =>
      (hhandlers loop _ _).bind fun _ => optional_emits hI (hfinal loop) _ _ _
  | .select _ subject cases, h, loop => by
    have hcases := lowerCases_emits hI cases
      (fun k hk e he c hc =>
        h c (.own (List.mem_cons_of_mem _ (List.mem_flatMap.2 ⟨k, hk, he⟩)) hc))
      fun k hk s hs c hc => h c (.part rfl (List.mem_flatMap.2 ⟨k, hk, hs⟩) hc)
    exact (emitCalls_emits fun c hc => h c (.own List.mem_cons_self hc)).bind fun _ =>
      (newBlocks_emits (by decide) _).bind fun _ => (newBlock_emits (by decide)).bind fun _ =>
      emits_guard.bind fun _ => (terminate_emits hI _ _ _ _).bind fun _ =>
      (hcases loop _ _ _).bind fun _ => goTo_emits _

theorem lowerBody_emits (hI : Others I) : (body : List Stmt) →
    (∀ s ∈ body, ∀ c, s.Makes c → I (scope.callInstruction c)) →
    ∀ loop, Emits I (lowerBody scope loop body)
  | [], _, _ => emits_pure _
  | s :: rest, h, loop => by
    rw [List.forall_mem_cons] at h
    exact (lowerStmt_emits hI s h.1 loop).bind fun _ => lowerBody_emits hI rest h.2 loop

theorem lowerHandlers_emits (hI : Others I) : (handlers : List Handler) →
    (∀ k ∈ handlers, ∀ e ∈ k.exprs, ∀ c ∈ e.calls, I (scope.callInstruction c)) →
    (∀ k ∈ handlers, ∀ s ∈ Parser.handlerBody k, ∀ c, s.Makes c → I (scope.callInstruction c)) →
    ∀ loop after labels, Emits I (lowerHandlers scope loop after labels handlers)
  | [], _, _, _, _, _ => emits_pure _
  | .mk _ exception body :: rest, hexprs, hbodies, loop, after, labels => by
    rw [List.forall_mem_cons] at hexprs hbodies
    have hbody := lowerBody_emits hI body hbodies.1 loop
    have hrest := lowerHandlers_emits hI rest hexprs.2 hbodies.2 loop after
    cases labels with
    | nil => exact hrest _
    | cons label labels =>
      refine (goTo_emits _).bind fun _ => (emitCalls_emits fun c hc => ?_).bind fun _ =>
        hbody.bind fun _ => (jump_emits hI _ _).bind fun _ => hrest _
      obtain ⟨e, he, hc⟩ := mem_callsOfOption.1 hc
      exact hexprs.1 e (Option.mem_toList.2 he) c hc

theorem lowerCases_emits (hI : Others I) : (cases : List Case) →
    (∀ k ∈ cases, ∀ e ∈ k.exprs, ∀ c ∈ e.calls, I (scope.callInstruction c)) →
    (∀ k ∈ cases, ∀ s ∈ Parser.caseBody k, ∀ c, s.Makes c → I (scope.callInstruction c)) →
    ∀ loop join line labels, Emits I (lowerCases scope loop join line labels cases)
  | [], _, _, _, _, _, _ => emits_pure _
  | .mk _ guard' body :: rest, hexprs, hbodies, loop, join, line, labels => by
    rw [List.forall_mem_cons] at hexprs hbodies
    have hbody := lowerBody_emits hI body hbodies.1 loop
    have hrest := lowerCases_emits hI rest hexprs.2 hbodies.2 loop join line
    cases labels with
    | nil => exact hrest _
    | cons label labels =>
      refine (goTo_emits _).bind fun _ => (emitCalls_emits fun c hc => ?_).bind fun _ =>
        hbody.bind fun _ => (jump_emits hI _ _).bind fun _ => hrest _
      obtain ⟨e, he, hc⟩ := mem_callsOfOption.1 hc
      exact hexprs.1 e (Option.mem_toList.2 he) c hc

end

end Statements

/-! ### Functions -/

/-- **The blocks of a function have plain names, and its call instructions are those of the calls
that its statements make.** -/
theorem lowerFunction_emits {scope : Scope} {file : Option String} {name : String}
    {body : List Stmt} {lastLine : ℕ} {f : Function}
    (h : lowerFunction scope file name body lastLine = some f) : ∀ block ∈ f.blocks,
      Plain block.name ∧ ∀ i ∈ block.instructions, i.kind = .call →
        ∃ s ∈ body, ∃ c, s.Makes c ∧ i = scope.callInstruction c := by
  obtain ⟨b, hrun, rfl⟩ := lowerFunction_eq_some.1 h
  have hI : Others fun i => i.kind = .call →
      ∃ s ∈ body, ∃ c, s.Makes c ∧ i = scope.callInstruction c := fun i hi h => absurd h hi
  have hbody := lowerBody_emits hI body (fun s hs c hc _ => ⟨s, hs, c, hc, rfl⟩) none
  have hbuild : Emits _ (lowerWithReturn scope body lastLine) :=
    hbody.bind fun _ => emits_get.bind fun b => by
      split_ifs
      · exact emitReturn_emits hI _ _
      · exact emits_pure _
  refine hbuild {} () b (fun block hblock => ?_) hrun
  rw [List.mem_singleton.1 hblock]
  exact ⟨by decide, by simp⟩

end CallReach.Source
