import CallReach.Proofs.Structured
import CallReach.Proofs.WellFormed

/-!
# Paths through the blocks of a function

Inside a function, control goes through a block in order and from its last instruction to the first
one of each successor of the block.  A call is an instruction like others here.

* `Function.Path` : the places that are passed on the way from a place.
* `Function.trace` : the instructions on a path that are no jumps, without the blocks that they lead
  to.
* `Function.Reads` : the traces that can be read from a place on, one instruction after the other;
  `Function.reads_iff_path` : they are those of the paths.
* `Carries` : what is read from a place, up to a length, is what comes out of tasks.  The length is
  what an induction on the rounds of a loop needs: a round begins with an instruction.
-/

namespace CallReach

/-- A place in a function: an index in a block. -/
structure Place where
  block : String
  index : ℕ
  deriving DecidableEq, Repr

namespace Place

/-- The place after a place, in the same block. -/
def next (p : Place) : Place := ⟨p.block, p.index + 1⟩

/-- The first place of a block. -/
def first (block : String) : Place := ⟨block, 0⟩

end Place

/-- Whether an instruction does nothing but lead to one block. -/
def Instruction.isJump (i : Instruction) : Bool := i.opcode == "jump" && i.kind == .terminator

namespace Function

/-- The instruction at a place. -/
def instruction? (f : Function) (p : Place) : Option Instruction :=
  (f.block? p.block).bind (·.instructions[p.index]?)

/-- Where control goes next. -/
inductive Leads (f : Function) : Place → Place → Prop
  /-- An instruction is followed by the next one of its block. -/
  | next {p : Place} {b : Block} : f.block? p.block = some b →
      p.index + 1 < b.instructions.length → Leads f p p.next
  /-- The last instruction of a block is followed by the first one of each successor. -/
  | branch {p : Place} {b : Block} {t : String} : f.block? p.block = some b →
      p.index + 1 = b.instructions.length → t ∈ b.successors → Leads f p (.first t)

/-- A finite path: the places whose instructions have been passed, in order. -/
structure Path (f : Function) (start : Place) (ps : List Place) : Prop where
  starts : ∀ p ∈ ps.head?, p = start
  leads : ps.IsChain f.Leads

/-- The instructions on a path, without jumps. -/
def trace (f : Function) (ps : List Place) : List Instruction :=
  ((ps.filterMap f.instruction?).filter (!·.isJump)).map Source.shown

/-- The traces that can be read from a place on. -/
inductive Reads (f : Function) : Place → List Instruction → Prop
  | nil {p : Place} : Reads f p []
  | last {p : Place} {i : Instruction} : f.instruction? p = some i → i.isJump = false →
      Reads f p [Source.shown i]
  | step {p q : Place} {i : Instruction} {t : List Instruction} : f.instruction? p = some i →
      i.isJump = false → f.Leads p q → Reads f q t → Reads f p (Source.shown i :: t)
  | skip {p q : Place} {i : Instruction} {t : List Instruction} : f.instruction? p = some i →
      i.isJump = true → f.Leads p q → Reads f q t → Reads f p t

variable {f : Function} {p q : Place} {i : Instruction} {t : List Instruction}

/-! ### Traces of paths -/

theorem instruction?_eq_some : f.instruction? p = some i ↔
    ∃ b, f.block? p.block = some b ∧ b.instructions[p.index]? = some i := by
  simp [instruction?, Option.bind_eq_some_iff]

theorem Leads.instruction? (h : f.Leads p q) : ∃ i, f.instruction? p = some i := by
  cases h with
  | next hb hlt =>
    exact ⟨_, instruction?_eq_some.2 ⟨_, hb, List.getElem?_eq_getElem (by omega)⟩⟩
  | branch hb hlast _ =>
    exact ⟨_, instruction?_eq_some.2 ⟨_, hb, List.getElem?_eq_getElem (by omega)⟩⟩

theorem trace_cons_of_shown (ps : List Place) (hi : f.instruction? p = some i)
    (hvisible : i.isJump = false) : f.trace (p :: ps) = Source.shown i :: f.trace ps := by
  simp [trace, hi, hvisible]

theorem trace_cons_of_jump (ps : List Place) (hi : f.instruction? p = some i)
    (hjump : i.isJump = true) : f.trace (p :: ps) = f.trace ps := by
  simp [trace, hi, hjump]

theorem Path.cons (h : f.Leads p q) {ps : List Place} (hps : f.Path q ps) :
    f.Path p (p :: ps) := by
  refine ⟨by simp, ?_⟩
  cases ps with
  | nil => exact List.IsChain.singleton p
  | cons r rest =>
    obtain rfl := hps.starts r (by simp)
    exact List.isChain_cons_cons.2 ⟨h, hps.leads⟩

/-- **What can be read from a place on are the traces of the paths from it.** -/
theorem reads_iff_path : f.Reads p t ↔ ∃ ps, f.Path p ps ∧ f.trace ps = t := by
  constructor
  · intro h
    induction h with
    | nil => exact ⟨[], ⟨by simp, List.IsChain.nil⟩, rfl⟩
    | @last p i hi hvisible =>
      exact ⟨[p], ⟨by simp, List.IsChain.singleton p⟩, trace_cons_of_shown [] hi hvisible⟩
    | step hi hvisible hlead _ ih =>
      obtain ⟨ps, hps, rfl⟩ := ih
      exact ⟨_, hps.cons hlead, trace_cons_of_shown ps hi hvisible⟩
    | skip hi hjump hlead _ ih =>
      obtain ⟨ps, hps, rfl⟩ := ih
      exact ⟨_, hps.cons hlead, trace_cons_of_jump ps hi hjump⟩
  · rintro ⟨ps, ⟨hstarts, hleads⟩, rfl⟩
    -- the last place of a path is read without going on from it
    induction ps generalizing p with
    | nil => exact .nil
    | cons a rest ih =>
      obtain rfl := hstarts a (by simp)
      cases rest with
      | nil =>
        cases hi : f.instruction? a with
        | none => simpa [trace, hi] using Reads.nil
        | some i =>
          cases hjump : i.isJump with
          | false =>
            rw [trace_cons_of_shown [] hi hjump]
            exact .last hi hjump
          | true =>
            rw [trace_cons_of_jump [] hi hjump]
            exact .nil
      | cons q rest =>
        obtain ⟨hlead, hrest⟩ := List.isChain_cons_cons.1 hleads
        have hread := ih (p := q) (by simp) hrest
        obtain ⟨i, hi⟩ := hlead.instruction?
        cases hjump : i.isJump with
        | false =>
          rw [trace_cons_of_shown _ hi hjump]
          exact .step hi hjump hlead hread
        | true =>
          rw [trace_cons_of_jump _ hi hjump]
          exact .skip hi hjump hlead hread

/-! ### Reading an instruction -/

theorem leads_plain (hf : f.WellFormed) (hi : f.instruction? p = some i)
    (hplain : i.kind.endsBlock = false) : f.Leads p q ↔ q = p.next := by
  obtain ⟨b, hb, hat⟩ := instruction?_eq_some.1 hi
  have hlt := (hf b (mem_of_block? hb).1).lt_of_plain hat hplain
  constructor
  · intro h
    cases h with
    | next => rfl
    | branch hb' hlast =>
      cases hb.symm.trans hb'
      omega
  · rintro rfl
    exact .next hb hlt

theorem leads_ending (hf : f.WellFormed) (hi : f.instruction? p = some i)
    (hends : i.kind.endsBlock = true) : f.Leads p q ↔ ∃ t ∈ i.targets, q = .first t := by
  obtain ⟨b, hb, hat⟩ := instruction?_eq_some.1 hi
  obtain ⟨hlast, hsucc⟩ := (hf b (mem_of_block? hb).1).last_of_ends hat hends
  constructor
  · intro h
    cases h with
    | next hb' hlt =>
      cases hb.symm.trans hb'
      omega
    | branch hb' _ ht =>
      cases hb.symm.trans hb'
      exact ⟨_, hsucc ▸ ht, rfl⟩
  · rintro ⟨t, ht, rfl⟩
    exact .branch hb hlast (hsucc ▸ ht)

theorem reads_shown (hi : f.instruction? p = some i) (hvisible : i.isJump = false) :
    f.Reads p t ↔ t = [] ∨
      ∃ v, t = Source.shown i :: v ∧ (v = [] ∨ ∃ q, f.Leads p q ∧ f.Reads q v) := by
  constructor
  · intro h
    cases h with
    | nil => exact Or.inl rfl
    | last hi' =>
      cases hi.symm.trans hi'
      exact Or.inr ⟨[], rfl, Or.inl rfl⟩
    | step hi' _ hlead hread =>
      cases hi.symm.trans hi'
      exact Or.inr ⟨_, rfl, Or.inr ⟨_, hlead, hread⟩⟩
    | skip hi' hjump =>
      cases hi.symm.trans hi'
      rw [hvisible] at hjump
      cases hjump
  · rintro (rfl | ⟨v, rfl, rfl | ⟨q, hlead, hread⟩⟩)
    · exact .nil
    · exact .last hi hvisible
    · exact .step hi hvisible hlead hread

theorem reads_jump (hi : f.instruction? p = some i) (hjump : i.isJump = true) :
    f.Reads p t ↔ t = [] ∨ ∃ q, f.Leads p q ∧ f.Reads q t := by
  constructor
  · intro h
    cases h with
    | nil => exact Or.inl rfl
    | last hi' hvisible =>
      cases hi.symm.trans hi'
      rw [hvisible] at hjump
      cases hjump
    | step hi' hvisible =>
      cases hi.symm.trans hi'
      rw [hvisible] at hjump
      cases hjump
    | skip _ _ hlead hread => exact Or.inr ⟨_, hlead, hread⟩
  · rintro (rfl | ⟨q, hlead, hread⟩)
    · exact .nil
    · exact .skip hi hjump hlead hread

end Function

/-! ### Places that carry tasks -/

namespace Source

/-- Up to a length, what is read from a place on is what comes out of tasks. -/
def Carries (scope : Scope) (f : Function) (n : ℕ) (p : Place) (k : List Task) : Prop :=
  ∀ t : List Instruction, t.length ≤ n → (f.Reads p t ↔ Task.Begins scope k t)

namespace Carries

variable {scope : Scope} {f : Function} {n m : ℕ} {p q : Place} {k : List Task} {i : Instruction}

theorem mono (h : Carries scope f n p k) (hm : m ≤ n) : Carries scope f m p k :=
  fun t ht => h t (ht.trans hm)

theorem zero : Carries scope f 0 p k := by
  intro t ht
  obtain rfl := List.length_eq_zero_iff.1 (Nat.le_zero.1 ht)
  exact ⟨fun _ => Task.begins_nil, fun _ => .nil⟩

/-- Tasks from which the same comes out can take the place of each other. -/
theorem congr {l : List Task} (h : Carries scope f n p l)
    (hkl : ∀ t, Task.Begins scope k t ↔ Task.Begins scope l t) : Carries scope f n p k :=
  fun t ht => (h t ht).trans (hkl t).symm

/-- An instruction that does not end its block is carried out before what the next place carries. -/
theorem emit (hf : f.WellFormed) (hi : f.instruction? p = some i)
    (hplain : i.kind.endsBlock = false) (h : Carries scope f n p.next k) :
    Carries scope f (n + 1) p (.emit (shown i) :: k) := by
  have hvisible : i.isJump = false := by
    cases hkind : i.kind <;> simp_all [Instruction.isJump, Kind.endsBlock]
  intro t ht
  rw [Function.reads_shown hi hvisible, Task.begins_emit]
  refine or_congr Iff.rfl (exists_congr fun v => and_congr_right fun hv => ?_)
  have hlength : v.length ≤ n := by
    rw [hv, List.length_cons] at ht
    omega
  rw [← h v hlength]
  simp only [Function.leads_plain hf hi hplain, exists_eq_left]
  constructor
  · rintro (rfl | hread)
    · exact .nil
    · exact hread
  · exact Or.inr

/-- A branch is carried out before the choice between what the blocks carry that it leads to. -/
theorem branch (hf : f.WellFormed) (hi : f.instruction? p = some i)
    (hends : i.kind.endsBlock = true) (hvisible : i.isJump = false) {ways : List (List Task)}
    (h : List.Forall₂ (fun t way => Carries scope f n (.first t) (way ++ k)) i.targets ways) :
    Carries scope f (n + 1) p (.emit (shown i) :: .choose ways :: k) := by
  intro t ht
  rw [Function.reads_shown hi hvisible, Task.begins_emit]
  refine or_congr Iff.rfl (exists_congr fun v => and_congr_right fun hv => ?_)
  have hlength : v.length ≤ n := by
    rw [hv, List.length_cons] at ht
    omega
  rw [Task.begins_choose]
  refine or_congr Iff.rfl ?_
  simp only [Function.leads_ending hf hi hends]
  constructor
  · rintro ⟨q, ⟨target, htarget, rfl⟩, hread⟩
    obtain ⟨way, hway, hcarries⟩ := forall₂_mem_right h.flip htarget
    exact ⟨way, hway, (hcarries v hlength).1 hread⟩
  · rintro ⟨way, hway, hbegins⟩
    obtain ⟨target, htarget, hcarries⟩ := forall₂_mem_right h hway
    exact ⟨_, ⟨target, htarget, rfl⟩, (hcarries v hlength).2 hbegins⟩

/-- An instruction that leads nowhere is carried out last. -/
theorem halt (hf : f.WellFormed) (hi : f.instruction? p = some i)
    (hends : i.kind.endsBlock = true) (hvisible : i.isJump = false) (htargets : i.targets = []) :
    Carries scope f n p [.emit (shown i)] := by
  intro t _
  rw [Function.reads_shown hi hvisible, Task.begins_emit]
  simp [Function.leads_ending hf hi hends, htargets, Task.begins_done]

/-- A jump carries what the block carries that it leads to. -/
theorem jump (hf : f.WellFormed) (hi : f.instruction? p = some i) (hjump : i.isJump = true)
    {target : String} (htarget : i.targets = [target])
    (h : Carries scope f n (.first target) k) : Carries scope f n p k := by
  have hends : i.kind.endsBlock = true := by
    simp only [Instruction.isJump, Bool.and_eq_true, beq_iff_eq] at hjump
    simp [hjump.2, Kind.endsBlock]
  intro t ht
  rw [Function.reads_jump hi hjump, ← h t ht]
  simp only [Function.leads_ending hf hi hends, htarget, List.mem_singleton, exists_eq_left]
  constructor
  · rintro (rfl | hread)
    · exact .nil
    · exact hread
  · exact Or.inr

end Carries

end Source

end CallReach
