import CallReach.Proofs.Grammar
import CallReach.Proofs.References
import CallReach.Report.Basic

/-!
# The order of a description

Functions are found by their names, and so are the blocks of a function.  Their order in a
description matters in two places only: a function without an entry starts with its first block, and
a reference to a line leads to the first instruction on it.  Apart from these, two descriptions that
differ in this order give programs that cannot be told apart.

* `Document.Reordered` : functions in another order, and blocks where an entry is given.
* `Program.Alike` : the same names lead to the same things; `Document.Reordered.alike` : reordered
  descriptions give such programs.
* `Program.Alike.graph_eq` : their graphs are equal; `Program.Alike.locate_eq` : references lead to
  the same positions, unless they are to lines.
* `order_irrelevant` : queries by function, block and index have the same answers.
-/

namespace CallReach

open scoped List

/-! ### Looking up names -/

section Lookup

variable {α : Type} {name : α → String} {xs ys : List α}

/-- What a name leads to does not depend on the order, when names are distinct. -/
theorem find?_perm (h : xs ~ ys) (hnames : (xs.map name).Nodup) (key : String) :
    ys.find? (name · == key) = xs.find? (name · == key) := by
  cases hx : xs.find? (name · == key) with
  | none =>
    rw [List.find?_eq_none] at hx ⊢
    exact fun y hy => hx y (h.mem_iff.2 hy)
  | some x =>
    have hmem := List.mem_of_find?_eq_some hx
    obtain rfl : name x = key := by simpa using List.find?_some hx
    exact find?_of_nodup ((h.map name).nodup_iff.1 hnames) (h.mem_iff.1 hmem)

theorem find?_forall₂ {R : α → α → Prop} (h : List.Forall₂ R xs ys)
    (hname : ∀ x y, R x y → name y = name x) (key : String) :
    Option.Rel R (xs.find? (name · == key)) (ys.find? (name · == key)) := by
  induction h with
  | nil => exact .none
  | @cons x y xs ys hxy _ ih =>
    rw [List.find?_cons, List.find?_cons, hname x y hxy]
    split
    · exact .some hxy
    · exact ih

end Lookup

/-! ### Programs that differ in their order -/

/-- Two functions whose blocks are the same under every name. -/
structure Function.Alike (f g : Function) : Prop where
  name : g.name = f.name
  intrinsic : g.intrinsic = f.intrinsic
  entry : g.entry = f.entry
  block? : ∀ b, g.block? b = f.block? b
  isDeclaration : g.isDeclaration = f.isDeclaration

/-- Two programs whose functions are alike under every name. -/
structure Program.Alike (M N : Program) : Prop where
  name : N.name = M.name
  function? : ∀ f, Option.Rel Function.Alike (M.function? f) (N.function? f)

theorem Function.Alike.entryBlock? {f g : Function} (h : f.Alike g) :
    g.entryBlock? = f.entryBlock? := by
  rw [Function.entryBlock?, Function.entryBlock?, h.entry, funext h.block?]

namespace Program.Alike

variable {M N : Program}

theorem function?_cases (h : M.Alike N) (f : String) :
    (M.function? f = none ∧ N.function? f = none) ∨
      ∃ a b, M.function? f = some a ∧ N.function? f = some b ∧ a.Alike b := by
  have hf := h.function? f
  generalize M.function? f = x at hf ⊢
  generalize N.function? f = y at hf ⊢
  cases hf with
  | none => exact Or.inl ⟨rfl, rfl⟩
  | some hab => exact Or.inr ⟨_, _, rfl, rfl, hab⟩

/-- What functions alike have in common is found in both programs. -/
theorem map_function? {β : Type} (h : M.Alike N) {g : Function → β}
    (hg : ∀ a b : Function, a.Alike b → g b = g a) (f : String) :
    (N.function? f).map g = (M.function? f).map g := by
  rcases h.function?_cases f with ⟨hM, hN⟩ | ⟨a, b, hM, hN, hab⟩
  · rw [hM, hN]
  · rw [hM, hN, Option.map_some, Option.map_some, hg a b hab]

theorem block? (h : M.Alike N) : N.block? = M.block? := by
  funext b
  have hblocks := h.map_function? (g := Function.block?) (fun a b hab => funext hab.block?)
    b.function
  have hbind : ∀ x : Option Function, x.bind (·.block? b.block) =
      (x.map Function.block?).bind (· b.block) := by
    rintro (_ | f) <;> rfl
  rw [Program.block?, Program.block?, hbind, hblocks, ← hbind]

theorem instruction? (h : M.Alike N) : N.instruction? = M.instruction? := by
  funext p
  rw [Program.instruction?, Program.instruction?, h.block?]

theorem calleeAt (h : M.Alike N) : N.calleeAt = M.calleeAt := by
  funext p
  unfold Program.calleeAt
  rw [h.instruction?]
  cases (M.instruction? p).bind (·.callee) with
  | none => rfl
  | some f =>
    simp only [Option.bind_some]
    rcases h.function?_cases f with ⟨hM, hN⟩ | ⟨a, b, hM, hN, hab⟩
    · rw [hM, hN]
    · simp only [hM, hN, hab.name, hab.entryBlock?]

/-- **The graphs are equal**: positions are coordinates, and every question is answered by looking
up names. -/
theorem graph_eq (h : M.Alike N) : N.graph = M.graph := by
  have hposition : N.describePosition = M.describePosition := by
    funext p
    rw [Program.describePosition, Program.describePosition, h.instruction?]
  have hsize : N.blockSize = M.blockSize := by
    funext b
    rw [Program.blockSize, Program.blockSize, h.block?]
  have hblock : N.describeBlock = M.describeBlock := by
    funext b
    rw [Program.describeBlock, Program.describeBlock, hsize]
  have hintrinsic := h.map_function? (g := Function.intrinsic) fun a b hab => hab.intrinsic
  simp only [Program.graph, h.block?, h.instruction?, h.calleeAt, hposition, hsize, hblock,
    hintrinsic]

/-! ### References -/

/-- What is done with a function that has a body is the same, if it is for functions alike. -/
theorem bind_definedFunction {β : Type} (h : M.Alike N) (f : String)
    {k : Function → Except ReferenceError β} (hk : ∀ a b : Function, a.Alike b → k b = k a) :
    N.definedFunction f >>= k = M.definedFunction f >>= k := by
  unfold Program.definedFunction
  rcases h.function?_cases f with ⟨hM, hN⟩ | ⟨a, b, hM, hN, hab⟩
  · rw [hM, hN]
  · simp only [hM, hN, hab.isDeclaration]
    by_cases hdeclared : a.isDeclaration = true
    · rw [if_pos hdeclared, if_pos hdeclared]
    · rw [if_neg hdeclared, if_neg hdeclared]
      exact hk a b hab

/-- **References lead to the same positions, or fail in the same way**, unless they are to lines. -/
theorem locate_eq (h : M.Alike N) (text : String) {reference : Reference}
    (hline : ∀ f n, reference ≠ .line f n) :
    N.locate text reference = M.locate text reference := by
  have hnamed : ∀ {a b : Function}, a.Alike b → b.blockNamed = a.blockNamed := by
    intro a b hab
    funext name
    rw [Function.blockNamed, Function.blockNamed, hab.block?, hab.name]
  have hat : ∀ {a b : Function}, a.Alike b → b.positionAt = a.positionAt := by
    intro a b hab
    funext block index
    rw [Function.positionAt, Function.positionAt, hab.name]
  cases reference with
  | line f n => exact absurd rfl (hline f n)
  | entry f =>
    refine h.bind_definedFunction f fun a b hab => ?_
    rw [hab.entryBlock?, hab.name]
  | block f name =>
    refine h.bind_definedFunction f fun a b hab => ?_
    rw [hnamed hab, hat hab]
  | index f name index =>
    refine h.bind_definedFunction f fun a b hab => ?_
    rw [hnamed hab, hat hab]

end Program.Alike

namespace Reference

/-- A text of the form `function:block:index`.  The names may hold any signs; an at sign in the
index would make it a reference to a line. -/
def Indexed (text : String) : Prop :=
  ∃ function block index : String, text = function ++ ":" ++ block ++ ":" ++ index ∧
    '@' ∉ index.toList

/-- Blanks are taken away on both sides of a colon. -/
theorem trimChars_colon (xs ys : List Char) : Text.trimChars (xs ++ ':' :: ys) =
    xs.dropWhile Text.isBlank ++ ':' :: (ys.reverse.dropWhile Text.isBlank).reverse := by
  have hfront : ∀ as bs : List Char, (as ++ ':' :: bs).dropWhile Text.isBlank =
      as.dropWhile Text.isBlank ++ ':' :: bs := by
    intro as bs
    rw [List.dropWhile_append]
    split_ifs with hempty
    · rw [List.isEmpty_iff.1 hempty, List.dropWhile_cons_of_neg (by decide), List.nil_append]
    · rfl
  rw [Text.trimChars, Text.trimBy, hfront, List.reverse_append, List.reverse_cons, List.append_assoc,
    List.singleton_append, hfront]
  simp

/-- A reference to a line has an at sign. -/
theorem at_of_ofTrimmed {cs : List Char} {f : String} {n : Int}
    (h : ofTrimmed cs = .ok (.line f n)) : '@' ∈ cs := by
  unfold ofTrimmed at h
  split_ifs at h with hempty hat
  · exact List.contains_iff_mem.1 hat
  · split at h <;> cases h

theorem Indexed.not_line {text f : String} {n : Int} (h : Indexed text) :
    parse text ≠ .ok (.line f n) := by
  obtain ⟨function, block, index, rfl, hindex⟩ := h
  have htext : (function ++ ":" ++ block ++ ":" ++ index).toList =
      (function.toList ++ ':' :: block.toList) ++ ':' :: index.toList := by simp
  rw [parse, htext, trimChars_colon]
  generalize (function.toList ++ ':' :: block.toList).dropWhile Text.isBlank = names
  by_cases hat : '@' ∈ names
  · obtain ⟨e, he⟩ := ofTrimmed_at hat (index.toList.reverse.dropWhile Text.isBlank).reverse
    rw [he]
    intro hline
    cases hline
  · -- there is no at sign in the names, and none in what is left of the index
    have hindex' : '@' ∉ (index.toList.reverse.dropWhile Text.isBlank).reverse := by
      rw [List.mem_reverse]
      exact fun hmem => hindex (List.mem_reverse.1 ((List.dropWhile_sublist _).subset hmem))
    intro hline
    rcases List.mem_append.1 (at_of_ofTrimmed hline) with hmem | hmem
    · exact hat hmem
    · exact hindex' (List.mem_of_ne_of_mem (by decide) hmem)

end Reference

/-! ### Queries -/

namespace Program.Alike

variable {M N : Program}

theorem resolve_eq (h : M.Alike N) {text : String} (htext : Reference.Indexed text) :
    N.resolve text = M.resolve text := by
  unfold Program.resolve
  cases hparse : Reference.parse text with
  | error e => rfl
  | ok reference =>
    refine h.locate_eq _ ?_
    rintro f n rfl
    exact htext.not_line hparse

/-- **Queries have the same answers.** -/
theorem query_eq (h : M.Alike N) (settings : Settings) (path : Option String)
    {start target : String} {calls : List String} (hstart : Reference.Indexed start)
    (htarget : Reference.Indexed target) (hcalls : ∀ c ∈ calls, Reference.Indexed c) :
    (Analysis.mk N settings path).query start target calls =
      (Analysis.mk M settings path).query start target calls := by
  have hresolve : calls.mapM N.resolve = calls.mapM M.resolve := by
    induction calls with
    | nil => rfl
    | cons c rest ih =>
      rw [List.forall_mem_cons] at hcalls
      rw [List.mapM_cons, List.mapM_cons, h.resolve_eq hcalls.1, ih hcalls.2]
  have hlocate : (Analysis.mk N settings path).locate start target calls =
      (Analysis.mk M settings path).locate start target calls := by
    simp only [Analysis.locate, h.resolve_eq hstart, h.resolve_eq htarget, hresolve]
  have hconfig : (Analysis.mk N settings path).config = (Analysis.mk M settings path).config := by
    simp only [Analysis.config, h.graph_eq]
  have hanswer : ∀ config q, (Analysis.mk N settings path).answer config q =
      (Analysis.mk M settings path).answer config q := by
    intro config q
    unfold Analysis.answer Analysis.search Analysis.report Analysis.title
    simp only [h.graph_eq, h.name]
  rw [Analysis.query, Analysis.query, hconfig, hlocate]
  simp only [hanswer]

end Program.Alike

/-! ### Descriptions in another order -/

/-- The description of a function with its blocks in another order.  Without an entry the first
block is the one to start with, so the order stays. -/
structure FunctionSpec.Reordered (a b : FunctionSpec) : Prop where
  entry : b.entry = a.entry
  intrinsic : b.intrinsic = a.intrinsic
  blocks : a.blocks ~ b.blocks
  order : a.entry = none → b.blocks = a.blocks

/-- A description with its functions in another order, and their blocks where an entry is given. -/
structure Document.Reordered (d e : Document) : Prop where
  name : e.name = d.name
  functions : ∃ fs, d.functions ~ fs ∧
    List.Forall₂ (fun f g => g.1 = f.1 ∧ f.2.Reordered g.2) fs e.functions

namespace FunctionSpec.Reordered

variable {a b : FunctionSpec}

theorem grammatical (h : a.Reordered b) (ha : a.Grammatical) : b.Grammatical := by
  have hknown : ∀ t, t ∈ b.blocks.map (·.1) ↔ t ∈ a.blocks.map (·.1) :=
    fun t => ((h.blocks.map (·.1)).mem_iff).symm
  refine ⟨fun x hx => ?_, fun entry hentry => ?_⟩
  · have hlines := ha.1 x (h.blocks.mem_iff.2 hx)
    exact ⟨hlines.nonempty, hlines.sound, hlines.ends,
      fun text htext t ht => (hknown t).2 (hlines.targets text htext t ht)⟩
  · rw [h.entry] at hentry
    exact (hknown entry).2 (ha.2 entry hentry)

theorem described (h : a.Reordered b) (hnames : (a.blocks.map (·.1)).Nodup) (name : String) :
    (a.described name).Alike (b.described name) := by
  have hblocks : (a.described name).blocks ~ (b.described name).blocks := h.blocks.map _
  have hnames' : ((a.described name).blocks.map Block.name).Nodup := by
    rw [FunctionSpec.described, List.map_map]
    exact hnames
  refine ⟨rfl, h.intrinsic, ?_, find?_perm hblocks hnames', ?_⟩
  · show b.entry.or _ = a.entry.or _
    rw [h.entry]
    cases hentry : a.entry with
    | none => rw [h.order hentry]
    | some entry => rfl
  · rw [Function.isDeclaration, Function.isDeclaration, Bool.eq_iff_iff, List.isEmpty_iff,
      List.isEmpty_iff]
    exact ⟨fun hnil => (hnil ▸ hblocks).eq_nil, fun hnil => (hnil ▸ hblocks).nil_eq.symm⟩

end FunctionSpec.Reordered

namespace Document.Reordered

variable {d e : Document}

theorem grammatical (h : d.Reordered e) (hd : d.Grammatical) : e.Grammatical := by
  obtain ⟨fs, hperm, hpairs⟩ := h.functions
  have hfs : ∀ f ∈ fs, f.2.Grammatical := fun f hf => hd f (hperm.mem_iff.2 hf)
  have hall : List.Forall₂ (fun g (_ : String × FunctionSpec) => g.2.Grammatical ∧ True)
      e.functions fs := by
    refine (((List.forall₂_and_left fs _).2 ⟨hfs, hpairs⟩).imp ?_).flip
    rintro f g ⟨hf, -, hfg⟩
    exact ⟨hfg.grammatical hf, trivial⟩
  exact ((List.forall₂_and_left _ fs).1 hall).1

/-- **Reordered descriptions give programs that are alike.** -/
theorem alike (h : d.Reordered e) (hd : d.Keyed) (name : Option String) :
    (d.described name).Alike (e.described name) := by
  obtain ⟨fs, hperm, hpairs⟩ := h.functions
  have hnames : ((d.functions.map fun f => f.2.described f.1).map Function.name).Nodup := by
    rw [List.map_map]
    exact hd.1
  refine ⟨congrArg (programName name) h.name, fun f => ?_⟩
  -- first the functions change places, then each of them its blocks
  have hplaces : (d.described name).function? f =
      (fs.map fun f => f.2.described f.1).find? (·.name == f) :=
    (find?_perm (hperm.map _) hnames f).symm
  rw [hplaces, Program.function?, described]
  refine find?_forall₂ (R := Function.Alike) ?_ (fun x y hxy => hxy.name) f
  rw [List.forall₂_map_left_iff, List.forall₂_map_right_iff]
  have hkeyed : ∀ f ∈ fs, (f.2.blocks.map (·.1)).Nodup := fun f hf => hd.2 f (hperm.mem_iff.2 hf)
  refine ((List.forall₂_and_left fs _).2 ⟨hkeyed, hpairs⟩).imp ?_
  rintro ⟨f, a⟩ ⟨g, b⟩ ⟨hblocks, hfg, hab⟩
  cases hfg
  exact hab.described hblocks f

end Document.Reordered

/-- **The order of a description does not matter.**  When a description is accepted, so is every
description with the functions in another order, and the blocks of functions with a given entry.  A
query whose references have the form `function:block:index` has the same answer for both: the same
report, with all counters, or the same error. -/
theorem order_irrelevant {d e : Document} {name : Option String} {M : Program} (hd : d.Keyed)
    (horder : d.Reordered e) (hM : d.build name = .ok M) :
    ∃ N, e.build name = .ok N ∧ ∀ settings path start target calls,
      Reference.Indexed start → Reference.Indexed target → (∀ c ∈ calls, Reference.Indexed c) →
      (Analysis.mk N settings path).query start target calls =
        (Analysis.mk M settings path).query start target calls := by
  obtain ⟨hgrammar, rfl⟩ := Document.build_eq_ok.1 hM
  refine ⟨_, Document.build_eq_ok.2 ⟨horder.grammatical hgrammar, rfl⟩, ?_⟩
  intro settings path start target calls hstart htarget hcalls
  exact (horder.alike hd name).query_eq settings path hstart htarget hcalls

/-- `Document.mixed` with its functions and the blocks of `main` the other way round. -/
def Document.shuffled : Document where
  functions := [
    ("log", { intrinsic := true }),
    ("main", {
      blocks := [("top", [" Call  log now", "nop", "Switch top top out"]), ("out", ["RET"])],
      entry := some "top" })]

theorem order_irrelevant_mixed :
    Document.mixed.Keyed ∧ Document.mixed.Reordered Document.shuffled ∧
    ∃ M N report, Document.mixed.build none = .ok M ∧ Document.shuffled.build none = .ok N ∧
      (Analysis.mk M {} none).query "main:top:0" "main:out:0" ["main:top:0"] = .ok report ∧
      (Analysis.mk N {} none).query "main:top:0" "main:out:0" ["main:top:0"] = .ok report ∧
      report.result = ⟨some 3, .found, ⟨3, 0, 2, 0, 1⟩⟩ := by
  have hkeyed : Document.mixed.Keyed := by decide
  have horder : Document.mixed.Reordered Document.shuffled := by
    refine ⟨rfl, Document.mixed.functions.reverse, by decide, .cons ⟨rfl, ?_⟩ (.cons ⟨rfl, ?_⟩ .nil)⟩
    · exact ⟨rfl, rfl, .refl _, fun _ => rfl⟩
    · exact ⟨rfl, rfl, by decide, fun hnone => absurd hnone (by decide)⟩
  have hM : Document.mixed.build none = .ok (Document.mixed.described none) :=
    Document.build_eq_ok.2 ⟨by decide +kernel, rfl⟩
  have hquery : ((Analysis.mk (Document.mixed.described none) {} none).query "main:top:0"
      "main:out:0" ["main:top:0"]).toOption.map Report.result =
        some ⟨some 3, .found, ⟨3, 0, 2, 0, 1⟩⟩ := by decide +kernel
  have hindexed : ∀ b, Reference.Indexed ("main:" ++ b ++ ":0") :=
    fun b => ⟨"main", b, "0", by simp [← String.toList_inj], by decide⟩
  obtain ⟨N, hN, hsame⟩ := order_irrelevant hkeyed horder hM
  have hanswer := hsame {} none "main:top:0" "main:out:0" ["main:top:0"] (hindexed "top")
    (hindexed "out") (by simpa using hindexed "top")
  cases hreport : (Analysis.mk (Document.mixed.described none) {} none).query "main:top:0"
      "main:out:0" ["main:top:0"] with
  | error e => simp [hreport, Except.toOption] at hquery
  | ok report =>
    rw [hreport] at hquery hanswer
    exact ⟨hkeyed, horder, _, N, report, hM, hN, hreport, hanswer, Option.some.inj hquery⟩

end CallReach
