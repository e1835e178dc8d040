import CallReach.Proofs.Written

/-!
# The functions of a source text

A program has a function for each definition outside of functions and for each method of a class, and
one for the statements outside of definitions.

* `Defines` : the functions of a source text, with their scopes and statements.
* `lowered_function` : which statements a function of a program is made of.
* `lowered_names` : which functions there are.
* `exists_lowerProgram_iff` : there is a program exactly if all that is shown of the statements can
  be written.
-/

namespace CallReach.Source

/-- The functions of a source text by their names, with their scopes and statements.  A name that
several definitions have stands for the last of them. -/
inductive Defines (top : List Stmt) : String → Scope → List Stmt → Prop
  /-- The statements outside of definitions. -/
  | module : Defines top moduleFunction {} (top.filter fun s => !s.isDefinition)
  /-- A function. -/
  | function {span isAsync decorators name params returns body} :
      Stmt.functionDef span isAsync decorators name params returns body ∈ top →
      Defines top name {} body
  /-- A method of a class. -/
  | method {span decorators className bases keywords classBody span' isAsync decorators' name params
      returns body} :
      Stmt.classDef span decorators className bases keywords classBody ∈ top →
      Stmt.functionDef span' isAsync decorators' name params returns body ∈ classBody →
      Defines top (className ++ "." ++ name)
        { className, methods := methodsOf top className } body

section Functions

variable {scope : Scope} {body : List Stmt} {lastLine : ℕ} {file : Option String} {name : String}
  {f : Function}

theorem lowerFunction_name (h : lowerFunction scope file name body lastLine = some f) :
    f.name = name := by
  obtain ⟨b, -, rfl⟩ := lowerFunction_eq_some.1 h
  rfl

/-- A function that is made of the statements of a definition has its name. -/
theorem Defines.lowered {top : List Stmt} (h : Defines top name scope body)
    (hf : lowerFunction scope file name body lastLine = some f) :
    ∃ scope body lastLine, Defines top f.name scope body ∧
      lowerFunction scope file f.name body lastLine = some f := by
  obtain rfl := lowerFunction_name hf
  exact ⟨scope, body, lastLine, h, hf⟩

/-! ### The functions of a definition -/

section Definition

variable {top : List Stmt} {s : Stmt} {fs : List Function}

theorem lowerDefinition_defines (hs : s ∈ top) (h : lowerDefinition top file s = some fs)
    (hf : f ∈ fs) : ∃ scope body lastLine, Defines top f.name scope body ∧
      lowerFunction scope file f.name body lastLine = some f := by
  unfold lowerDefinition at h
  split at h
  · obtain ⟨g, hg, hfs⟩ := Option.bind_eq_some_iff.1 h
    cases hfs
    obtain rfl := List.mem_singleton.1 hf
    exact (Defines.function hs).lowered hg
  · obtain ⟨inner, hinner, hg⟩ := forall₂_mem_right (mapM_eq_some.1 h) hf
    have hmem := (List.mem_filter.1 hinner).1
    split at hg
    · exact (Defines.method hs hmem).lowered hg
    · cases hg
  · cases h
    simp at hf

/-- The functions of a definition are made if those of all definitions can be. -/
theorem exists_lowerDefinition (hs : s ∈ top)
    (h : ∀ w scope body, Defines top w scope body → ∀ r ∈ body, r.Shown) :
    ∃ fs, lowerDefinition top file s = some fs := by
  cases s with
  | functionDef span isAsync decorators name params returns body =>
    obtain ⟨f, hf⟩ := exists_lowerFunction_iff.2 (h _ _ _ (.function hs))
    exact ⟨[f], Option.bind_eq_some_iff.2 ⟨f, hf, rfl⟩⟩
  | classDef span decorators className bases keywords classBody =>
    -- of what stands in a class only the functions are lowered
    refine exists_mapM_eq_some.2 fun inner hinner => ?_
    obtain ⟨hmem, hfunction⟩ := List.mem_filter.1 hinner
    cases inner with
    | functionDef => exact exists_lowerFunction_iff.2 (h _ _ _ (.method hs hmem))
    | _ => cases hfunction
  | _ => exact ⟨[], rfl⟩

/-- Every function of a definition is among those that are made for it. -/
theorem Defines.exists_mem {main : Function} {fss : List (List Function)} {w : String}
    (h : Defines top w scope body)
    (hmain : lowerFunction {} file moduleFunction (top.filter fun s => !s.isDefinition) lastLine =
      some main)
    (hothers : List.Forall₂ (fun s fs => lowerDefinition top file s = some fs) top fss) :
    ∃ f ∈ main :: fss.flatten, f.name = w ∧
      ∃ lastLine, lowerFunction scope file w body lastLine = some f := by
  cases h with
  | module => exact ⟨main, List.mem_cons_self, lowerFunction_name hmain, _, hmain⟩
  | function hs =>
    obtain ⟨fs, hfs, h⟩ := forall₂_mem_left hothers hs
    obtain ⟨f, hf, h⟩ := Option.bind_eq_some_iff.1 h
    cases h
    exact ⟨f, List.mem_cons_of_mem _ (List.mem_flatten.2 ⟨_, hfs, List.mem_singleton_self f⟩),
      lowerFunction_name hf, _, hf⟩
  | method hs hinner =>
    obtain ⟨fs, hfs, h⟩ := forall₂_mem_left hothers hs
    obtain ⟨f, hmem, hf⟩ := forall₂_mem_left (mapM_eq_some.1 h) (List.mem_filter.2 ⟨hinner, rfl⟩)
    exact ⟨f, List.mem_cons_of_mem _ (List.mem_flatten.2 ⟨_, hfs, hmem⟩), lowerFunction_name hf, _,
      hf⟩

end Definition

end Functions

/-! ### Programs -/

theorem mem_addFunction {M : Program} {f g : Function}
    (h : g ∈ (M.addFunction f).functions) : g = f ∨ g ∈ M.functions := by
  unfold Program.addFunction at h
  simp only at h
  -- a function takes the place of one of its name, or comes last
  split_ifs at h
  · obtain ⟨old, hold, rfl⟩ := List.mem_map.1 h
    split_ifs
    · exact Or.inl rfl
    · exact Or.inr hold
  · rcases List.mem_append.1 h with h | h
    · exact Or.inr h
    · exact Or.inl (List.mem_singleton.1 h)

theorem mem_addFunctions {M : Program} {functions : List Function} {g : Function}
    (h : g ∈ (functions.foldl Program.addFunction M).functions) :
    g ∈ functions ∨ g ∈ M.functions := by
  induction functions generalizing M with
  | nil => exact Or.inr h
  | cons f rest ih =>
    rcases ih h with hrest | hM
    · exact Or.inl (List.mem_cons_of_mem _ hrest)
    · rcases mem_addFunction hM with rfl | hM
      · exact Or.inl List.mem_cons_self
      · exact Or.inr hM

/-- The functions of a program are added one after the other. -/
theorem lowerProgram_eq_some {top : List Stmt} {name : String} {file : Option String}
    {M : Program} : lowerProgram top name file = some M ↔ ∃ main fss,
      lowerFunction {} file moduleFunction (top.filter fun s => !s.isDefinition)
        ((top.map (·.span.last)).foldl max 0) = some main ∧
      List.Forall₂ (fun s fs => lowerDefinition top file s = some fs) top fss ∧
      M = (main :: fss.flatten).foldl Program.addFunction { name } := by
  simp only [lowerProgram, Option.bind_eq_bind, Option.bind_eq_some_iff, mapM_eq_some,
    Option.pure_def, Option.some.injEq]
  constructor
  · rintro ⟨main, hmain, fss, hothers, rfl⟩
    exact ⟨main, fss, hmain, hothers, rfl⟩
  · rintro ⟨main, fss, hmain, hothers, rfl⟩
    exact ⟨main, hmain, fss, hothers, rfl⟩

section Programs

variable {top : List Stmt} {name : String} {file : Option String} {M : Program} {f : Function}

/-- **Every function of a program is made of the statements of its definition.** -/
theorem lowered_function (h : lowerProgram top name file = some M) (hf : f ∈ M.functions) :
    ∃ scope body lastLine, Defines top f.name scope body ∧
      lowerFunction scope file f.name body lastLine = some f := by
  obtain ⟨main, fss, hmain, hothers, rfl⟩ := lowerProgram_eq_some.1 h
  rcases mem_addFunctions hf with hf | hf
  · rcases List.mem_cons.1 hf with rfl | hf
    · exact Defines.module.lowered hmain
    · obtain ⟨fs, hfs, hf⟩ := List.mem_flatten.1 hf
      obtain ⟨s, hs, hlowered⟩ := forall₂_mem_right hothers hfs
      exact lowerDefinition_defines hs hlowered hf
  · simp at hf

/-- **There is a program exactly if all that is shown of its functions can be written.** -/
theorem exists_lowerProgram_iff : (∃ M, lowerProgram top name file = some M) ↔
    ∀ w scope body, Defines top w scope body → ∀ s ∈ body, s.Shown := by
  constructor
  · rintro ⟨M, h⟩ w scope body hdefines
    obtain ⟨main, fss, hmain, hothers, -⟩ := lowerProgram_eq_some.1 h
    obtain ⟨f, -, -, lastLine, hf⟩ := hdefines.exists_mem hmain hothers
    exact exists_lowerFunction_iff.1 ⟨f, hf⟩
  · intro h
    obtain ⟨main, hmain⟩ := exists_lowerFunction_iff.2 (h _ _ _ .module)
    obtain ⟨fss, hothers⟩ := exists_mapM_eq_some.2 fun s hs => exists_lowerDefinition hs h
    exact ⟨_, lowerProgram_eq_some.2 ⟨main, fss, hmain, mapM_eq_some.1 hothers, rfl⟩⟩

/-- A function that is added comes behind the others, unless there is one of its name. -/
theorem addFunction_names (M : Program) (f : Function) :
    (M.addFunction f).functions.map (·.name) =
      if f.name ∈ M.functions.map (·.name) then M.functions.map (·.name)
      else M.functions.map (·.name) ++ [f.name] := by
  have hany : (M.functions.any (·.name == f.name)) = true ↔ f.name ∈ M.functions.map (·.name) := by
    simp
  unfold Program.addFunction
  by_cases h : f.name ∈ M.functions.map (·.name)
  · rw [if_pos h, if_pos (hany.2 h), List.map_map]
    refine List.map_congr_left fun g _ => ?_
    rw [Function.comp_apply]
    split_ifs with hname
    · exact (beq_iff_eq.1 hname).symm
    · rfl
  · rw [if_neg h, if_neg (mt hany.1 h), List.map_append, List.map_singleton]

/-- No two functions of a program share a name, and all names that were added are there. -/
theorem addFunctions_names (fs : List Function) {M : Program}
    (h : (M.functions.map (·.name)).Nodup) :
    ((fs.foldl Program.addFunction M).functions.map (·.name)).Nodup ∧
      ∀ w, w ∈ (fs.foldl Program.addFunction M).functions.map (·.name) ↔
        w ∈ M.functions.map (·.name) ∨ w ∈ fs.map (·.name) := by
  induction fs generalizing M with
  | nil => exact ⟨h, by simp⟩
  | cons f rest ih =>
    have hnext : ((M.addFunction f).functions.map (·.name)).Nodup := by
      rw [addFunction_names]
      split_ifs with hf
      · exact h
      · exact h.append (List.nodup_singleton _) (by simpa using hf)
    obtain ⟨hnodup, hmem⟩ := ih hnext
    refine ⟨hnodup, fun w => ?_⟩
    rw [List.foldl_cons, hmem, addFunction_names, List.map_cons, List.mem_cons]
    split_ifs with hf
    · -- the name of `f` is not new
      constructor
      · tauto
      · rintro (hw | rfl | hw)
        · exact Or.inl hw
        · exact Or.inl hf
        · exact Or.inr hw
    · rw [List.mem_append, List.mem_singleton]
      tauto

/-- **No two functions of a source text share a name**, and there is one for each definition. -/
theorem lowered_names (h : lowerProgram top name file = some M) :
    (M.functions.map (·.name)).Nodup ∧
      ∀ w, w ∈ M.functions.map (·.name) ↔ ∃ scope body, Defines top w scope body := by
  obtain ⟨main, fss, hmain, hothers, hM⟩ := lowerProgram_eq_some.1 h
  obtain ⟨hnodup, hmem⟩ := addFunctions_names (main :: fss.flatten) (M := { name }) List.nodup_nil
  rw [← hM] at hnodup hmem
  refine ⟨hnodup, fun w => ⟨fun hw => ?_, ?_⟩⟩
  · obtain ⟨f, hf, rfl⟩ := List.mem_map.1 hw
    obtain ⟨scope, body, lastLine, hdefines, -⟩ := lowered_function h hf
    exact ⟨scope, body, hdefines⟩
  · rintro ⟨scope, body, hdefines⟩
    obtain ⟨f, hf, rfl, -⟩ := hdefines.exists_mem hmain hothers
    exact (hmem _).2 (Or.inr (List.mem_map_of_mem hf))

end Programs

end CallReach.Source
