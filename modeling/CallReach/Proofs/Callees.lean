import CallReach.Proofs.Loaded
import CallReach.Proofs.Texts
import Mathlib

/-!
# Which functions the calls of a source text call

A call names its callee by a text, and what it calls is found by that text among the names of the
functions.  The text of a call of a method through `self` or `cls` is the name of the method; all
other calls have the text of their callee.

* `defines_iff` : the names of the functions of a source text.
* `Scope.Names`, `Scope.Qualifies` : the functions that a callee names, and the others that it is
  written like.
* `callee_iff` : what a callee calls.
* `call_resolution` : the calls of these functions are resolved, and all others are stepped over.
-/

namespace CallReach.Source

/-! ### Names of functions -/

section Names

variable {top : List Stmt} {className w : String}

theorem mem_functionNames : w ∈ functionNames top ↔
    ∃ span isAsync decorators params returns body,
      Stmt.functionDef span isAsync decorators w params returns body ∈ top := by
  unfold functionNames
  rw [List.mem_filterMap]
  constructor
  · rintro ⟨s, hs, hw⟩
    split at hw
    · cases hw
      exact ⟨_, _, _, _, _, _, hs⟩
    · cases hw
  · rintro ⟨span, isAsync, decorators, params, returns, body, hs⟩
    exact ⟨_, hs, rfl⟩

/-- Some class of a given name has a given method. -/
def HasMethod (top : List Stmt) (className w : String) : Prop :=
  ∃ span decorators bases keywords body,
    Stmt.classDef span decorators className bases keywords body ∈ top ∧ w ∈ functionNames body

/-- The methods of a class are methods of some class of its name. -/
theorem hasMethod_of_mem_methodsOf (h : w ∈ methodsOf top className) :
    HasMethod top className w := by
  unfold methodsOf at h
  generalize hfound : top.reverse.findSome? _ = found at h
  cases found with
  | none => simp at h
  | some names =>
    obtain ⟨s, hs, hnames⟩ := List.exists_of_findSome?_eq_some hfound
    split at hnames
    · split_ifs at hnames with hname
      obtain rfl := beq_iff_eq.1 hname
      cases hnames
      exact ⟨_, _, _, _, _, List.mem_reverse.1 hs, h⟩
    · cases hnames

/-- **The names of the functions of a source text.** -/
theorem defines_iff {g : String} : (∃ scope body, Defines top g scope body) ↔
    g = moduleFunction ∨ g ∈ functionNames top ∨
      ∃ className w, HasMethod top className w ∧ g = className ++ "." ++ w := by
  constructor
  · rintro ⟨scope, body, hdefines⟩
    cases hdefines with
    | module => exact Or.inl rfl
    | function hs => exact Or.inr (Or.inl (mem_functionNames.2 ⟨_, _, _, _, _, _, hs⟩))
    | method hs hinner =>
      have hw := mem_functionNames.2 ⟨_, _, _, _, _, _, hinner⟩
      exact Or.inr (Or.inr ⟨_, _, ⟨_, _, _, _, _, hs, hw⟩, rfl⟩)
  · rintro (rfl | hg | ⟨className, w, ⟨span, decorators, bases, keywords, body, hs, hw⟩, rfl⟩)
    · exact ⟨_, _, .module⟩
    · obtain ⟨span, isAsync, decorators, params, returns, body, hs⟩ := mem_functionNames.1 hg
      exact ⟨_, _, .function hs⟩
    · obtain ⟨span', isAsync, decorators', params, returns, inner, hinner⟩ :=
        mem_functionNames.1 hw
      exact ⟨_, _, .method hs hinner⟩

theorem isWord_of_mem_functionNames (htop : ∀ s ∈ top, s.Proper) (h : w ∈ functionNames top) :
    IsWord w := by
  obtain ⟨span, isAsync, decorators, params, returns, body, hs⟩ := mem_functionNames.1 h
  exact (htop _ hs).named

theorem HasMethod.isWord (htop : ∀ s ∈ top, s.Proper) (h : HasMethod top className w) :
    IsWord className ∧ IsWord w := by
  obtain ⟨span, decorators, bases, keywords, body, hs, hw⟩ := h
  exact ⟨(htop _ hs).named, isWord_of_mem_functionNames (htop _ hs).parts hw⟩

end Names

/-- The statements of the functions of a proper text are proper. -/
theorem Defines.proper {top stmts : List Stmt} {f : String} {scope : Scope}
    (h : Defines top f scope stmts) (htop : ∀ s ∈ top, s.Proper) : ∀ s ∈ stmts, s.Proper := by
  cases h with
  | module => exact fun s hs => htop s (List.mem_of_mem_filter hs)
  | function hs => exact (htop _ hs).parts
  | method hs hinner => exact ((htop _ hs).parts _ hinner).parts

/-! ### Resolution -/

/-- The callee `self.w` or `cls.w` inside a class that has a method `w`. -/
def Scope.Own (scope : Scope) (e : Expr) (className w : String) : Prop :=
  scope.className = some className ∧ w ∈ scope.methods ∧
    (e = .attribute (.name "self") w ∨ e = .attribute (.name "cls") w)

/-- The functions that callees name: a function by its name, and a method of the class around the
call through `self` or `cls`. -/
inductive Scope.Names (top : List Stmt) (scope : Scope) : Expr → String → Prop
  | function {w : String} : w ∈ functionNames top → Names top scope (.name w) w
  | own {e : Expr} {className w : String} : scope.Own e className w →
      Names top scope e (className ++ "." ++ w)

/-- The other callees that have the name of a function: a method behind the name of its class, and the
constants that are written like names. -/
inductive Scope.Qualifies (top : List Stmt) (scope : Scope) : Expr → String → Prop
  /-- The callee `className.w`, where a class of that name has a method `w`. -/
  | method {className w : String} :
      (¬ ∃ owner, scope.Own (.attribute (.name className) w) owner w) → HasMethod top className w →
      Qualifies top scope (.attribute (.name className) w) (className ++ "." ++ w)
  /-- The constant `None`, `True` or `False`, where a function has its name. -/
  | constant {c : Constant} : c.IsWordLike → c.render ∈ functionNames top →
      Qualifies top scope (.constant c) c.render
  /-- The callee `None.w`, where a class of that name has a method `w`. -/
  | methodOfNone {w : String} : HasMethod top "None" w →
      Qualifies top scope (.attribute (.constant .none) w) ("None" ++ "." ++ w)

section Resolution

variable {top : List Stmt} {scope : Scope} {e : Expr} {className w f g : String} {stmts : List Stmt}

theorem callee_of_own (h : scope.Own e className w) : scope.callee e = className ++ "." ++ w := by
  obtain ⟨hclass, hw, rfl | rfl⟩ := h
  · simp [Scope.callee, hclass, hw]
  · simp [Scope.callee, hclass, hw]

theorem callee_of_not_own (h : ¬ ∃ className w, scope.Own e className w) :
    scope.callee e = e.text := by
  unfold Scope.callee
  split
  · split
    · rename_i className hclass
      split_ifs with hown
      · simp only [Bool.and_eq_true, Bool.or_eq_true, beq_iff_eq, List.contains_iff_mem] at hown
        obtain ⟨rfl | rfl, hw⟩ := hown
        · exact absurd ⟨className, _, hclass, hw, Or.inl rfl⟩ h
        · exact absurd ⟨className, _, hclass, hw, Or.inr rfl⟩ h
      · rfl
    · rfl
  · rfl

theorem Scope.Own.hasMethod (hscope : Defines top f scope stmts) (h : scope.Own e className w) :
    HasMethod top className w := by
  obtain ⟨hclass, hw, -⟩ := h
  cases hscope with
  | module => cases hclass
  | function _ => cases hclass
  | method _ _ =>
    cases hclass
    exact hasMethod_of_mem_methodsOf hw

/-- **What a callee calls.**  Where it is the name of a function, the callee names the function or
is one of a few others that are written like its name. -/
theorem callee_iff (htop : ∀ s ∈ top, s.Proper) (hscope : Defines top f scope stmts)
    (he : e.Proper) : (scope.callee e = g ∧ ∃ scope' body, Defines top g scope' body) ↔
      scope.Names top e g ∨ scope.Qualifies top e g := by
  rw [defines_iff]
  constructor
  · rintro ⟨rfl, hg⟩
    by_cases hown : ∃ className w, scope.Own e className w
    · obtain ⟨className, w, hown⟩ := hown
      rw [callee_of_own hown]
      exact Or.inl (.own hown)
    · -- the text of the callee is the name of a function, which leaves few kinds of callees
      rw [callee_of_not_own hown] at hg ⊢
      rcases hg with hg | hg | ⟨className, w, hmethod, hg⟩
      · exact absurd hg (text_ne_module he)
      · have hword := spells_of_text he (isWord_of_mem_functionNames htop hg) rfl
        generalize e.text = s at hg hword
        cases hword with
        | name => exact Or.inl (.function hg)
        | constant hc => exact Or.inr (.constant hc hg)
      · have hnames := hmethod.isWord htop
        rw [hg]
        rcases attribute_of_text he hnames.1 hnames.2 hg with rfl | ⟨rfl, rfl⟩
        · exact Or.inr (.method (fun ⟨owner, h⟩ => hown ⟨owner, w, h⟩) hmethod)
        · exact Or.inr (.methodOfNone hmethod)
  · rintro (h | h)
    · cases h with
      | @function w hw =>
        have hword := isWord_of_mem_functionNames htop hw
        exact ⟨text_name hword, Or.inr (Or.inl hw)⟩
      | own hown =>
        exact ⟨callee_of_own hown, Or.inr (Or.inr ⟨_, _, hown.hasMethod hscope, rfl⟩)⟩
    · cases h with
      | @method className w hown hmethod =>
        have hwords := hmethod.isWord htop
        refine ⟨?_, Or.inr (Or.inr ⟨_, _, hmethod, rfl⟩)⟩
        rw [callee_of_not_own]
        · exact text_method hwords.1 hwords.2
        · rintro ⟨owner, v, hclass, hv, h | h⟩
          · cases h
            exact hown ⟨owner, hclass, hv, Or.inl rfl⟩
          · cases h
            exact hown ⟨owner, hclass, hv, Or.inr rfl⟩
      | constant hc hg =>
        refine ⟨?_, Or.inr (Or.inl hg)⟩
        rw [callee_of_not_own]
        · exact text_constant hc
        · rintro ⟨owner, v, -, -, h | h⟩ <;> cases h
      | methodOfNone hmethod =>
        refine ⟨?_, Or.inr (Or.inr ⟨_, _, hmethod, rfl⟩)⟩
        rw [callee_of_not_own]
        · exact text_method_none (hmethod.isWord htop).2
        · rintro ⟨owner, v, -, -, h | h⟩ <;> cases h

end Resolution

/-! ### The calls of a program -/

section Calls

variable {M : Program} {p : Position} {i : Instruction}

/-- What a call instruction calls: the function of the name it gives, if there is one. -/
theorem calleeAt_function (hi : M.instruction? p = some i) {w g : String}
    (hw : i.callee = some w) :
    (M.calleeAt p).function = some g ↔ w = g ∧ g ∈ M.functions.map (·.name) := by
  have hcallee : (M.instruction? p).bind (·.callee) = some w := by rw [hi, Option.bind_some, hw]
  unfold Program.calleeAt
  rw [hcallee, Option.bind_some]
  cases hf : M.function? w with
  | none =>
    have habsent : w ∉ M.functions.map (·.name) := by
      simpa [Program.function?] using hf
    simp only [reduceCtorEq, false_iff]
    rintro ⟨rfl, hg⟩
    exact habsent hg
  | some f =>
    obtain ⟨hmem, rfl⟩ := Program.mem_of_function? hf
    simp only [Option.some.injEq]
    exact ⟨fun h => ⟨h, h ▸ List.mem_map_of_mem hmem⟩, fun h => h.1⟩

/-- A call of a well-formed program that calls no function of it is stepped over. -/
theorem stepped_over (hM : M.WellFormed) (hi : M.instruction? p = some i) (hcall : i.kind = .call)
    (hnone : (M.graph.calleeOf p).function = none) : ∃ q, M.graph.nextOf p = .ok (some q) ∧
      ∀ s k, M.graph.GuardedStep ⟨p, s⟩ k ↔ k = ⟨q, s⟩ := by
  obtain ⟨q, hq, -⟩ := hM.nextOf hi (by rw [hcall]; rfl)
  refine ⟨q, hq, fun s k => ?_⟩
  have hkind : M.graph.kindOf p = .ok .call := by simp [Program.graph, hi, hcall]
  have hskip : ¬ ∃ f b, M.graph.Calls p f b := by
    rintro ⟨f, b, -, hcallee, -⟩
    rw [hcallee] at hnone
    cases hnone
  rw [Graph.GuardedStep, flow_skip_iff hkind hskip, hq]
  simp

variable {top : List Stmt} {name : String} {file : Option String}

/-- An instruction of a source text lies in a function that the text defines. -/
theorem lowered_instruction (hM : lowerProgram top name file = some M)
    (hi : M.instruction? p = some i) :
    ∃ scope stmts lastLine f block, Defines top p.function scope stmts ∧
      lowerFunction scope file p.function stmts lastLine = some f ∧
      M.function? p.function = some f ∧ f.block? p.block = some block ∧
      block.instructions[p.index]? = some i := by
  obtain ⟨block, hblock, hindex⟩ := Program.instruction?_eq_some.1 hi
  obtain ⟨f, hf, hfblock⟩ := Program.block?_eq_some.1 hblock
  obtain ⟨hmem, hname⟩ := Program.mem_of_function? hf
  obtain ⟨scope, stmts, lastLine, hdefines, hlowered⟩ := lowered_function hM hmem
  have hname : f.name = p.function := hname
  rw [hname] at hdefines hlowered
  exact ⟨scope, stmts, lastLine, f, block, hdefines, hlowered, hf, hfblock, hindex⟩

end Calls

/-- **Which functions the calls of a source text call.**  Every call instruction comes from a call
in the statements of its function.  It calls a function just when the callee is the name of a
function or a method of the class around it behind `self` or `cls`, or else is written like the name
of a function: a method behind the name of its class, or a constant; all other calls are stepped
over. -/
theorem call_resolution {host : Host} {text name : String} {file : Option String} {top : List Stmt}
    {M : Program} (htop : parse host text = some top) (hM : lowerProgram top name file = some M)
    {p : Position} {i : Instruction} (hi : M.instruction? p = some i) (hcall : i.kind = .call) :
    (∃ scope stmts lastLine f, Defines top p.function scope stmts ∧
      lowerFunction scope file p.function stmts lastLine = some f ∧
      M.function? p.function = some f ∧
      ∃ s ∈ stmts, ∃ c, s.Makes c ∧ i = scope.callInstruction c) ∧
    ∀ scope stmts, Defines top p.function scope stmts → ∀ s ∈ stmts, ∀ c, s.Makes c →
      i = scope.callInstruction c →
      (∀ g, (M.graph.calleeOf p).function = some g ↔
        scope.Names top c.callee g ∨ scope.Qualifies top c.callee g) ∧
      ((¬ ∃ g, scope.Names top c.callee g ∨ scope.Qualifies top c.callee g) →
        ∃ q, M.graph.nextOf p = .ok (some q) ∧
          ∀ stack k, M.graph.GuardedStep ⟨p, stack⟩ k ↔ k = ⟨q, stack⟩) := by
  have hproper := parse_proper htop
  refine ⟨?_, ?_⟩
  · obtain ⟨scope, stmts, lastLine, f, block, hdefines, hlowered, hf, hblock, hindex⟩ :=
      lowered_instruction hM hi
    have hemits := lowerFunction_emits hlowered block (Function.mem_of_block? hblock).1
    exact ⟨scope, stmts, lastLine, f, hdefines, hlowered, hf,
      hemits.2 i (List.mem_of_getElem? hindex) hcall⟩
  · intro scope stmts hdefines s hs c hmakes heq
    have hcallee : c.callee.Proper := (hdefines.proper hproper s hs).callee hmakes
    have hresolved : ∀ g, (M.graph.calleeOf p).function = some g ↔
        scope.Names top c.callee g ∨ scope.Qualifies top c.callee g := by
      intro g
      have hnamed : i.callee = some (scope.callee c.callee) := by rw [heq]; rfl
      rw [← callee_iff hproper hdefines hcallee, ← (lowered_names hM).2]
      exact calleeAt_function hi hnamed
    refine ⟨hresolved, fun hnone => ?_⟩
    refine stepped_over (lowerProgram_wellFormed hM) hi hcall ?_
    by_contra hsome
    obtain ⟨g, hg⟩ := Option.ne_none_iff_exists'.1 hsome
    exact hnone ⟨g, (hresolved g).1 hg⟩

/-! ### A call through the name of a class -/

/-- A class with a method, and a call of the method through the name of the class. -/
def boxText : String := "class Box:\n def new(): pass\nBox.new()\n"

/-- The call of `boxText`. -/
def boxCall : CallSite := ⟨3, .attribute (.name "Box") "new"⟩

/-- The statements of `boxText`. -/
def boxBody : List Stmt :=
  [.classDef ⟨1, 2⟩ [] "Box" [] []
    [.functionDef ⟨2, 2⟩ false [] "new" (.mk [] [] none [] none) none [.simple ⟨2, 2⟩ .pass]],
   .simple ⟨3, 3⟩ (.expression (.call 3 boxCall.callee [] []))]

/-- The program of `boxText`. -/
def boxProgram : Program where
  name := "box"
  functions := [
    { name := "<module>", entry := some "entry", blocks := [
      { name := "entry", instructions := [
        { opcode := "call", kind := .call, text := "call Box.new", line := 3,
          callee := some "Box.new" },
        { opcode := "expr", kind := .other, text := "Box.new()", line := 3 },
        { opcode := "return", kind := .ret, text := "return (implicit)", line := 3 }] }] },
    { name := "Box.new", entry := some "entry", blocks := [
      { name := "entry", instructions := [
        { opcode := "pass", kind := .other, text := "pass", line := 2 },
        { opcode := "return", kind := .ret, text := "return (implicit)", line := 2 }] }] }]

theorem parse_box : parse {} boxText = some boxBody := by cbv

theorem lower_box : lowerProgram boxBody "box" none = some boxProgram := by decide +kernel

/-- The first position of the statements outside of definitions. -/
def boxPosition : Position := ⟨"<module>", "entry", 0⟩

theorem box_instruction :
    boxProgram.instruction? boxPosition = some (Scope.callInstruction {} boxCall) := by
  decide +kernel

theorem box_makes : ∃ s ∈ boxBody.filter fun s => !s.isDefinition, s.Makes boxCall :=
  ⟨_, List.mem_cons_self, .own List.mem_cons_self
    (List.mem_append_right _ (List.mem_singleton_self _))⟩

/-- The law at the call of `boxText`, which calls the method. -/
theorem call_resolution_box :
    parse {} boxText = some boxBody ∧ lowerProgram boxBody "box" none = some boxProgram ∧
      boxProgram.instruction? boxPosition = some (Scope.callInstruction {} boxCall) ∧
      ∀ g, (boxProgram.graph.calleeOf boxPosition).function = some g ↔
        Scope.Names boxBody {} boxCall.callee g ∨ Scope.Qualifies boxBody {} boxCall.callee g := by
  obtain ⟨s, hs, hmakes⟩ := box_makes
  have hresolved := (call_resolution parse_box lower_box box_instruction rfl).2 {} _ .module s hs
    boxCall hmakes rfl
  exact ⟨parse_box, lower_box, box_instruction, hresolved.1⟩

/-- **A call may enter a function that its callee does not name**: neither the name of a function
nor a method behind `self` or `cls`, the callee `Box.new` is entered all the same. -/
theorem qualified_call_entered :
    parse {} boxText = some boxBody ∧ lowerProgram boxBody "box" none = some boxProgram ∧
      boxProgram.instruction? boxPosition = some (Scope.callInstruction {} boxCall) ∧
      Defines boxBody boxPosition.function {} (boxBody.filter fun s => !s.isDefinition) ∧
      (∃ s ∈ boxBody.filter fun s => !s.isDefinition, s.Makes boxCall) ∧
      (¬ ∃ g, Scope.Names boxBody {} boxCall.callee g) ∧
      (boxProgram.graph.calleeOf boxPosition).function = some "Box.new" ∧
      boxProgram.graph.GuardedStep ⟨boxPosition, .empty⟩
        ⟨⟨"Box.new", "entry", 0⟩, CallStack.empty.push boxPosition⟩ := by
  refine ⟨parse_box, lower_box, box_instruction, .module, box_makes, ?_, by decide +kernel, ?_⟩
  · rintro ⟨g, hnames⟩
    cases hnames with
    | own hown => cases hown.1
  · have hcalls : boxProgram.graph.Calls boxPosition "Box.new" ⟨"Box.new", "entry"⟩ :=
      ⟨by decide +kernel, by decide +kernel, by decide +kernel⟩
    exact .enter hcalls (by simp [Graph.Inactive, CallStack.mem_calls, CallStack.empty])
      (by decide +kernel)

end CallReach.Source
