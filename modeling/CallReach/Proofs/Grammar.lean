import CallReach.Command.Failure
import CallReach.Proofs.WellFormed

/-!
# The grammar of descriptions

What a description must look like is said line by line, block by block and function by function, and
so is the program that it describes.  A description is accepted exactly when it looks like that, and
the program is then the one that is described.

* `Line.Sound`, `Line.Ends`, `Line.targets`, `Line.instruction` : what is read off a line.
* `Lines.Grammatical`, `FunctionSpec.Grammatical`, `Document.Grammatical` : what is accepted.
* `Document.described` : the program of a description.
* `Document.build_eq_ok` : a description is accepted when it is grammatical, and gives the program
  it describes.
* `Document.build_wellFormed` : a description that is accepted describes a well-formed program.
* `accepted_iff_grammatical` : all of this, with the places at which the lines are found.
-/

namespace CallReach

/-! ### Results -/

theorem pure_eq_ok {ε α : Type} {a b : α} : (pure a : Except ε α) = .ok b ↔ b = a := by
  simp [pure, Except.pure, eq_comm]

theorem mapError_eq_ok {ε ε' α : Type} {f : ε → ε'} {x : Except ε α} {a : α} :
    x.mapError f = .ok a ↔ x = .ok a := by
  cases x <;> simp [Except.mapError]

/-- A list is mapped when each of its items is. -/
theorem mapM_eq_ok_map {ε α β : Type} {f : α → Except ε β} {accepted : α → Prop} {g : α → β}
    (h : ∀ x y, f x = .ok y ↔ accepted x ∧ y = g x) {xs : List α} {ys : List β} :
    xs.mapM f = .ok ys ↔ (∀ x ∈ xs, accepted x) ∧ ys = xs.map g := by
  simp only [mapM_eq_ok, h, List.forall₂_and_left]
  refine and_congr_right fun _ => ?_
  rw [← List.forall₂_eq_eq_eq, List.forall₂_map_right_iff]
  exact ⟨List.Forall₂.flip, List.Forall₂.flip⟩

/-! ### Lines -/

namespace Line

open Instruction (returnOpcodes branchOpcodes haltOpcodes)

/-- The first word of a line, in lower case. -/
def opcode (text : String) : String := Text.lower ((Text.words text).headD "")

/-- The words of a line after the first one. -/
def operands (text : String) : List String := (Text.words text).tail

/-- A line has a word, and another one when it calls or branches. -/
def Sound (text : String) : Prop :=
  Text.words text ≠ [] ∧
    (opcode text = "call" ∨ opcode text ∈ branchOpcodes → operands text ≠ [])

instance (text : String) : Decidable (Sound text) := inferInstanceAs (Decidable (_ ∧ _))

/-- A line returns, branches or halts. -/
def Ends (text : String) : Prop :=
  opcode text ∈ returnOpcodes ∨ opcode text ∈ branchOpcodes ∨ opcode text ∈ haltOpcodes

instance (text : String) : Decidable (Ends text) := inferInstanceAs (Decidable (_ ∨ _))

/-- The blocks that a line branches to. -/
def targets (text : String) : List String :=
  if opcode text ∈ branchOpcodes then operands text else []

/-- The kind of a line. -/
def kind (text : String) : Kind :=
  if opcode text = "call" then .call
  else if opcode text ∈ returnOpcodes then .ret
  else if opcode text ∈ branchOpcodes ∨ opcode text ∈ haltOpcodes then .terminator
  else .other

/-- The instruction of a line. -/
def instruction (text : String) : Instruction where
  opcode := opcode text
  kind := kind text
  text := text
  callee := if opcode text = "call" then (operands text).head? else none
  targets := targets text

variable {text : String}

theorem targets_instruction : (instruction text).targets = targets text := by
  rw [instruction]

/-- A line that ends no block branches nowhere. -/
theorem targets_of_not_ends (h : ¬ Ends text) : targets text = [] :=
  if_neg fun hbranch => h (Or.inr (Or.inl hbranch))

theorem endsBlock_instruction : (instruction text).kind.endsBlock = true ↔ Ends text := by
  simp only [instruction, kind, Ends]
  by_cases hcall : opcode text = "call"
  · rw [if_pos hcall, hcall]
    decide
  · rw [if_neg hcall]
    by_cases hret : opcode text ∈ returnOpcodes
    · simp [hret, Kind.endsBlock]
    · by_cases hend : opcode text ∈ branchOpcodes ∨ opcode text ∈ haltOpcodes
      · simp [hret, hend, Kind.endsBlock]
      · simp [hret, hend, Kind.endsBlock]

/-- No opcode that branches does anything else. -/
theorem branches_only {op : String} (h : op ∈ branchOpcodes) :
    op ≠ "call" ∧ op ∉ returnOpcodes := by
  have hall : ∀ op ∈ branchOpcodes, op ≠ "call" ∧ op ∉ returnOpcodes := by decide
  exact hall op h

/-- **A line is read when it is sound**, and gives its instruction. -/
theorem parse_eq_ok {i : Instruction} :
    Instruction.parse text = .ok i ↔ Sound text ∧ i = instruction text := by
  unfold Instruction.parse
  cases hwords : Text.words text with
  | nil => simp [Sound, hwords]
  | cons word rest =>
    have hopcode : opcode text = Text.lower word := by simp [opcode, hwords]
    have hoperands : operands text = rest := by simp [operands, hwords]
    simp only [Sound, instruction, kind, targets, hwords, hopcode, hoperands]
    rw [@eq_comm _ i]
    generalize Text.lower word = op
    -- the classes of opcodes are apart, so it does not matter which one is asked for first
    by_cases hbranch : op ∈ branchOpcodes
    · obtain ⟨hcall, hret⟩ := branches_only hbranch
      cases rest <;> simp [hbranch, hcall, hret]
    · by_cases hcall : op = "call"
      · subst hcall
        cases rest <;> simp [hbranch]
      · by_cases hret : op ∈ returnOpcodes
        · simp [hbranch, hcall, hret]
        · by_cases hhalt : op ∈ haltOpcodes <;> simp [hbranch, hcall, hret, hhalt]

end Line

/-! ### Blocks -/

namespace Lines

variable {known lines : List String} {text : String}

/-- The last line, and no other, ends the block. -/
def EndOnce (lines : List String) : Prop :=
  ∀ n : Fin lines.length, Line.Ends (lines.get n) ↔ n.val + 1 = lines.length

instance (lines : List String) : Decidable (EndOnce lines) :=
  inferInstanceAs (Decidable (∀ n : Fin lines.length, _ ↔ n.val + 1 = lines.length))

/-- What the lines of a block look like, in a function whose blocks are `known`. -/
@[mk_iff]
structure Grammatical (known lines : List String) : Prop where
  nonempty : lines ≠ []
  sound : ∀ text ∈ lines, Line.Sound text
  ends : EndOnce lines
  targets : ∀ text ∈ lines, ∀ t ∈ Line.targets text, t ∈ known

instance (known lines : List String) : Decidable (Grammatical known lines) :=
  decidable_of_iff' _ (grammatical_iff known lines)

/-- The block of its lines. -/
def block (name : String) (lines : List String) : Block :=
  { name, instructions := lines.map Line.instruction }

theorem endOnce_cons :
    EndOnce (text :: lines) ↔ (Line.Ends text ↔ lines = []) ∧ EndOnce lines := by
  simp only [EndOnce, List.length_cons, Fin.forall_fin_succ]
  refine and_congr ?_ ?_
  · simp
  · simp

theorem endOnce_concat :
    EndOnce (lines ++ [text]) ↔ (∀ line ∈ lines, ¬ Line.Ends line) ∧ Line.Ends text := by
  induction lines with
  | nil => simp [EndOnce]
  | cons line rest ih => simp [endOnce_cons, ih, and_assoc]

/-- The successors of a block are the blocks that its lines branch to, in the order and as often as
they are named. -/
theorem successors_block (name : String) (h : EndOnce lines) :
    (block name lines).successors = lines.flatMap Line.targets := by
  induction lines with
  | nil => rfl
  | cons text rest ih =>
    obtain ⟨hends, hrest⟩ := endOnce_cons.1 h
    cases rest with
    | nil => simp [block, Block.successors, Block.last?, Line.instruction]
    | cons next rest =>
      have hplain : Line.targets text = [] := Line.targets_of_not_ends fun h => by simp [hends] at h
      rw [List.flatMap_cons, hplain, List.nil_append, ← ih hrest]
      simp [block, Block.successors, Block.last?]

/-- The first line of a block is read when it is sound, and ends the block when no line follows. -/
theorem buildLines_cons {b : BlockName} {is : List Instruction} :
    FunctionSpec.buildLines b (text :: lines) = .ok is ↔
      Line.Sound text ∧ (Line.Ends text ↔ lines = []) ∧
        ∃ js, FunctionSpec.buildLines b lines = .ok js ∧ is = Line.instruction text :: js := by
  rw [FunctionSpec.buildLines, bind_eq_ok, ← Line.endsBlock_instruction]
  simp only [mapError_eq_ok, Line.parse_eq_ok, and_assoc, exists_and_left, exists_eq_left]
  refine and_congr_right fun _ => ?_
  have hrest : (do return Line.instruction text :: (← FunctionSpec.buildLines b lines)) = .ok is ↔
      ∃ js, FunctionSpec.buildLines b lines = .ok js ∧ is = Line.instruction text :: js := by
    rw [bind_eq_ok]
    exact exists_congr fun js => and_congr_right fun _ => pure_eq_ok
  -- a line that ends the block must be the last one, and the last one must end it
  cases hends : (Line.instruction text).kind.endsBlock with
  | false =>
    cases lines with
    | nil => simp [throw, throwThe, MonadExceptOf.throw, bind, Except.bind]
    | cons next rest => simpa using hrest
  | true =>
    cases lines with
    | nil => simpa using hrest
    | cons next rest => simp [throw, throwThe, MonadExceptOf.throw, bind, Except.bind]

/-- The lines of a block are read when each of them is sound and the last one alone ends it. -/
theorem buildLines_eq_ok {b : BlockName} {is : List Instruction} :
    FunctionSpec.buildLines b lines = .ok is ↔
      (∀ text ∈ lines, Line.Sound text) ∧ EndOnce lines ∧ is = lines.map Line.instruction := by
  induction lines generalizing is with
  | nil => simp [FunctionSpec.buildLines, EndOnce, eq_comm]
  | cons text rest ih =>
    simp only [buildLines_cons, endOnce_cons, ih, List.forall_mem_cons, List.map_cons]
    constructor
    · rintro ⟨hsound, hends, js, ⟨hrest, honce, rfl⟩, rfl⟩
      exact ⟨⟨hsound, hrest⟩, ⟨hends, honce⟩, rfl⟩
    · rintro ⟨⟨hsound, hrest⟩, ⟨hends, honce⟩, rfl⟩
      exact ⟨hsound, hends, _, ⟨hrest, honce, rfl⟩, rfl⟩

/-- **A block is accepted when its lines are grammatical**, and has their instructions. -/
theorem buildBlock_eq_ok {function name : String} {b : Block} :
    FunctionSpec.buildBlock function known name lines = .ok b ↔
      Grammatical known lines ∧ b = block name lines := by
  unfold FunctionSpec.buildBlock
  by_cases hne : lines = []
  · have hnot : ¬ Grammatical known lines := fun h => h.nonempty hne
    simp [hne, throw, throwThe, MonadExceptOf.throw, bind, Except.bind, hne ▸ hnot]
  · have hempty : lines.isEmpty = false := by simpa using hne
    simp only [hempty, Bool.false_eq_true, if_false]
    rw [bind_eq_ok]
    constructor
    · rintro ⟨is, his, h⟩
      obtain ⟨hsound, honce, rfl⟩ := buildLines_eq_ok.1 his
      -- only the last line branches, so the names that are looked for are those of all lines
      rw [show Block.mk name (lines.map Line.instruction) = block name lines from rfl,
        successors_block name honce] at h
      split at h
      · cases h
      · rename_i hfind
        refine ⟨⟨hne, hsound, honce, fun text htext t ht => ?_⟩, (Except.ok.inj h).symm⟩
        simpa using List.find?_eq_none.1 hfind t (List.mem_flatMap.2 ⟨text, htext, ht⟩)
    · rintro ⟨h, rfl⟩
      refine ⟨_, buildLines_eq_ok.2 ⟨h.sound, h.ends, rfl⟩, ?_⟩
      have hfind : (block name lines).successors.find? (fun t => !known.contains t) = none := by
        rw [successors_block name h.ends, List.find?_eq_none]
        intro t ht
        obtain ⟨text, htext, ht⟩ := List.mem_flatMap.1 ht
        simpa using h.targets text htext t ht
      rw [show Block.mk name (lines.map Line.instruction) = block name lines from rfl, hfind]
      rfl

/-- The block of grammatical lines is finished. -/
theorem Grammatical.closed (h : Grammatical known lines) (name : String) :
    (block name lines).Closed (· ∈ known) := by
  obtain hnil | ⟨before, last, rfl⟩ := List.eq_nil_or_concat lines
  · exact absurd hnil h.nonempty
  · rw [List.concat_eq_append] at h ⊢
    obtain ⟨hbefore, hlast⟩ := endOnce_concat.1 h.ends
    have hmem : last ∈ before ++ [last] := List.mem_append_right _ (List.mem_singleton_self last)
    have hmap : (block name (before ++ [last])).instructions =
        before.map Line.instruction ++ [Line.instruction last] := List.map_append
    refine ⟨_, _, hmap, fun i hi => ?_, ?_, ?_⟩
    · obtain ⟨text, htext, rfl⟩ := List.mem_map.1 hi
      rw [Bool.eq_false_iff, ne_eq, Line.endsBlock_instruction]
      exact hbefore text htext
    · exact Line.endsBlock_instruction.2 hlast
    · rw [Line.targets_instruction]
      exact h.targets last hmem

end Lines

/-! ### Functions -/

namespace FunctionSpec

/-- What the description of a function looks like. -/
def Grammatical (spec : FunctionSpec) : Prop :=
  (∀ b ∈ spec.blocks, Lines.Grammatical (spec.blocks.map (·.1)) b.2) ∧
    ∀ entry ∈ spec.entry, entry ∈ spec.blocks.map (·.1)

instance (spec : FunctionSpec) : Decidable spec.Grammatical := inferInstanceAs (Decidable (_ ∧ _))

/-- The function of a description; it starts with its first block unless an entry is given. -/
def described (name : String) (spec : FunctionSpec) : Function where
  name := name
  intrinsic := spec.intrinsic
  blocks := spec.blocks.map fun b => Lines.block b.1 b.2
  entry := spec.entry.or (spec.blocks.map (·.1)).head?

/-- **The description of a function is accepted when it is grammatical**, and gives the function it
describes. -/
theorem build_eq_ok {name : String} {spec : FunctionSpec} {f : Function} :
    spec.build name = .ok f ↔ spec.Grammatical ∧ f = spec.described name := by
  unfold build
  simp only [bind_eq_ok, mapM_eq_ok_map fun _ _ => Lines.buildBlock_eq_ok, and_assoc,
    exists_and_left, exists_eq_left, Grammatical]
  refine and_congr_right fun _ => ?_
  cases hentry : spec.entry with
  | none => simp [described, hentry, pure_eq_ok]
  | some entry =>
    simp only [List.contains_iff_mem, Option.mem_some_iff, forall_eq']
    split_ifs with hknown
    · simp only [pure_eq_ok, hknown, true_and, described, hentry, Option.some_or]
    · simp only [hknown, false_and]

/-- A function that is described is well-formed. -/
theorem Grammatical.wellFormed {spec : FunctionSpec} (h : spec.Grammatical) (name : String) :
    (spec.described name).WellFormed := by
  intro b hb
  obtain ⟨x, hx, rfl⟩ := List.mem_map.1 hb
  refine ((h.1 x hx).closed x.1).mono fun t ht => ?_
  obtain ⟨y, hy, rfl⟩ := List.mem_map.1 ht
  exact ⟨_, List.mem_map_of_mem hy, rfl⟩

end FunctionSpec

/-! ### Descriptions -/

namespace Document

/-- What a description looks like. -/
def Grammatical (d : Document) : Prop := ∀ f ∈ d.functions, f.2.Grammatical

instance (d : Document) : Decidable d.Grammatical :=
  inferInstanceAs (Decidable (∀ f ∈ d.functions, f.2.Grammatical))

/-- The program of a description; a name given from outside wins over its own. -/
def described (d : Document) (name : Option String) : Program where
  name := programName name d.name
  functions := d.functions.map fun f => f.2.described f.1

/-- **A description is accepted when it is grammatical**, and gives the program it describes. -/
theorem build_eq_ok {d : Document} {name : Option String} {M : Program} :
    d.build name = .ok M ↔ d.Grammatical ∧ M = d.described name := by
  unfold build
  simp only [bind_eq_ok, mapM_eq_ok_map fun _ _ => FunctionSpec.build_eq_ok, and_assoc,
    exists_and_left, exists_eq_left, pure_eq_ok]
  rfl

/-- **A description that is accepted describes a well-formed program.** -/
theorem build_wellFormed {d : Document} {name : Option String} {M : Program}
    (h : d.build name = .ok M) : M.WellFormed := by
  obtain ⟨hd, rfl⟩ := build_eq_ok.1 h
  intro f hf
  obtain ⟨spec, hspec, rfl⟩ := List.mem_map.1 hf
  exact (hd spec hspec).wellFormed spec.1

/-! ### Where the lines are found -/

/-- Functions have distinct names, and so have the blocks of each function. -/
def Keyed (d : Document) : Prop :=
  (d.functions.map (·.1)).Nodup ∧ ∀ f ∈ d.functions, (f.2.blocks.map (·.1)).Nodup

instance (d : Document) : Decidable d.Keyed := inferInstanceAs (Decidable (_ ∧ _))

namespace Keyed

variable {d : Document} {f b : String} {spec : FunctionSpec} {lines : List String}

theorem function? (hd : d.Keyed) (hf : (f, spec) ∈ d.functions) (name : Option String) :
    (d.described name).function? f = some (spec.described f) := by
  refine Program.function?_of_mem (f := spec.described f) ?_ (List.mem_map_of_mem hf)
  rw [described, List.map_map]
  exact hd.1

theorem block? (hd : d.Keyed) (hf : (f, spec) ∈ d.functions) (hb : (b, lines) ∈ spec.blocks) :
    (spec.described f).block? b = some (Lines.block b lines) := by
  refine Function.block?_of_mem (b := Lines.block b lines) ?_ (List.mem_map_of_mem hb)
  rw [FunctionSpec.described, List.map_map]
  exact hd.2 _ hf

theorem blockName? (hd : d.Keyed) (hf : (f, spec) ∈ d.functions) (hb : (b, lines) ∈ spec.blocks)
    (name : Option String) :
    (d.described name).block? ⟨f, b⟩ = some (Lines.block b lines) :=
  Program.block?_eq_some.2 ⟨_, hd.function? hf name, hd.block? hf hb⟩

end Keyed

end Document

/-- **A description is accepted exactly when it is grammatical, and the program mirrors it.**  What
is refused is refused as a program that cannot be loaded.  What is accepted gives the program that
is described: the same functions, blocks and lines in the same order.  Each line is found at its
index in its block, and the successors of a block are the blocks that its lines branch to, all of
which are there. -/
theorem accepted_iff_grammatical {d : Document} (hd : d.Keyed) (name : Option String) :
    ((∃ M, d.build name = .ok M) ↔ d.Grammatical) ∧
    (∀ e, d.build name = .error e → (LoadError.build e).notice.word = "ProgramLoadError") ∧
    ∀ M, d.build name = .ok M → M = d.described name ∧
      ∀ f spec, (f, spec) ∈ d.functions → ∀ b lines, (b, lines) ∈ spec.blocks →
        (∀ n, M.instruction? ⟨f, b, n⟩ = lines[n]?.map Line.instruction) ∧
        M.graph.successorsOf ⟨f, b⟩ = (lines.flatMap Line.targets).map (⟨f, ·⟩) ∧
        ∃ function block successors, M.function? f = some function ∧
          function.block? b = some block ∧ function.successors? block = some successors ∧
          successors.map (·.name) = lines.flatMap Line.targets := by
  refine ⟨⟨fun ⟨M, hM⟩ => ?_, fun h => ?_⟩, fun e _ => rfl, fun M hM => ?_⟩
  · exact (Document.build_eq_ok.1 hM).1
  · exact ⟨_, Document.build_eq_ok.2 ⟨h, rfl⟩⟩
  obtain ⟨hgrammar, rfl⟩ := Document.build_eq_ok.1 hM
  refine ⟨rfl, fun f spec hf b lines hb => ?_⟩
  have hspec := hgrammar _ hf
  have hblock := hd.blockName? hf hb name
  have hsuccessors := Lines.successors_block b (hspec.1 _ hb).ends
  refine ⟨fun n => ?_, ?_, ?_⟩
  · simp [Program.instruction?, Position.blockName, hblock, Lines.block]
  · simp [Program.graph, hblock, hsuccessors]
  · obtain ⟨bs, hbs, hnames⟩ :=
      (hspec.wellFormed f _ (List.mem_map_of_mem hb)).successors?
    exact ⟨_, _, bs, hd.function? hf name, hd.block? hf hb, hbs, hnames.trans hsuccessors⟩

/-- A loop in mixed case, with a call of a function that is only declared. -/
def Document.mixed : Document where
  functions := [
    ("main", {
      blocks := [("out", ["RET"]), ("top", [" Call  log now", "nop", "Switch top top out"])],
      entry := some "top" }),
    ("log", { intrinsic := true })]

/-- The call is found at its place, and the loop leads back twice. -/
theorem accepted_iff_grammatical_mixed : Document.mixed.Keyed ∧
    ∃ M, Document.mixed.build none = .ok M ∧
      M.instruction? ⟨"main", "top", 0⟩ = some
        { opcode := "call", kind := .call, text := " Call  log now", callee := some "log" } ∧
      M.graph.successorsOf ⟨"main", "top"⟩ =
        [⟨"main", "top"⟩, ⟨"main", "top"⟩, ⟨"main", "out"⟩] := by
  have hkeyed : Document.mixed.Keyed := by decide
  obtain ⟨haccepted, -, hmirrors⟩ := accepted_iff_grammatical hkeyed none
  obtain ⟨M, hM⟩ := haccepted.2 (by decide +kernel)
  obtain ⟨hlines, hsuccessors, -⟩ := (hmirrors M hM).2 "main" _ List.mem_cons_self "top" _
    (List.mem_cons_of_mem _ List.mem_cons_self)
  refine ⟨hkeyed, M, hM, ?_, ?_⟩
  · rw [hlines]
    decide +kernel
  · rw [hsuccessors]
    decide +kernel

end CallReach
