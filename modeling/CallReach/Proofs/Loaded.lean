import CallReach.Program.Load
import CallReach.Proofs.Duplicates
import CallReach.Proofs.Grammar
import CallReach.Proofs.Lowering
import CallReach.Proofs.Safety

/-!
# Loaded programs are searched without faults

A program comes from a description or from source text.  Either way it is well-formed, so a search
of it has an answer to every question.

* `Source.lowered_functions_closed` : which source texts give a program, and what its functions are
  like.
* `Program.Loaded` : the programs that come from one or the other.
* `Program.Loaded.wellFormed` : they are well-formed.
* `loaded_search_returns` : a search of a loaded program returns a result, and no state that it
  admits on the way could lead to a fault.
-/

namespace CallReach

/-- A source text gives the program of its statements, if it can be read and they can be written. -/
theorem Program.ofSource_eq_ok {text name : String} {file : Option String} {host : Source.Host}
    {M : Program} : Program.ofSource text name file host = .ok M ↔
      '\x00' ∉ text.toList ∧ host.overflow? text = none ∧
        ∃ top, Source.parse host text = some top ∧ Source.lowerProgram top name file = some M := by
  unfold Program.ofSource
  by_cases hnull : '\x00' ∈ text.toList
  · simp [hnull]
  cases hdeep : host.overflow? text with
  | some cause => simp [hnull]
  | none =>
    cases htop : Source.parse host text with
    | none => simp [hnull]
    | some top => cases hM : Source.lowerProgram top name file <;> simp [hnull, hM]

/-! ### Programs of source texts -/

namespace Source

/-- The program of a source text is well-formed. -/
theorem lowerProgram_wellFormed {top : List Stmt} {name : String} {file : Option String}
    {M : Program} (h : lowerProgram top name file = some M) : M.WellFormed :=
  fun _ hf b hb => ((lowerProgram_closed h hf).2.1 b hb).1

/-- **Which source texts give a program, and that its functions are well-formed.**  The text has no
null character, the stack of the host is deep enough for it, it can be read, and all that is shown of
the functions it defines can be written.  Then no two blocks of a function share a name; in every
block the last instruction and no other ends it, and names only blocks of the function, so that the
block can be linked; the function starts with its first block, which is called `entry`. -/
theorem lowered_functions_closed (host : Host) (text name : String) (file : Option String) :
    ((∃ M, Program.ofSource text name file host = .ok M) ↔
      '\x00' ∉ text.toList ∧ host.overflow? text = none ∧ ∃ top, parse host text = some top ∧
        ∀ w scope body, Defines top w scope body → ∀ s ∈ body, s.Shown) ∧
    ∀ M, Program.ofSource text name file host = .ok M → ∀ f ∈ M.functions,
      (f.blocks.map (·.name)).Nodup ∧
      (∀ b ∈ f.blocks, b.Closed f.Has ∧
        ∃ successors, f.successors? b = some successors ∧
          successors.map (·.name) = b.successors) ∧
      ∃ b ∈ f.blocks.head?, f.entryBlock? = some b ∧ b.name = "entry" := by
  constructor
  · constructor
    · rintro ⟨M, hM⟩
      obtain ⟨hnull, hdeep, top, htop, hlowered⟩ := Program.ofSource_eq_ok.1 hM
      exact ⟨hnull, hdeep, top, htop, exists_lowerProgram_iff.1 ⟨M, hlowered⟩⟩
    · rintro ⟨hnull, hdeep, top, htop, hshown⟩
      obtain ⟨M, hlowered⟩ := exists_lowerProgram_iff.2 hshown
      exact ⟨M, Program.ofSource_eq_ok.2 ⟨hnull, hdeep, top, htop, hlowered⟩⟩
  · intro M hM f hf
    obtain ⟨-, -, top, -, hlowered⟩ := Program.ofSource_eq_ok.1 hM
    exact lowerProgram_closed hlowered hf

/-- A jump outside of loops, and a loop that nothing leads to. -/
def strayText : String := "continue\nraise\nwhile x:\n break\n"

theorem lowered_functions_closed_stray :
    ∃ M f, Program.ofSource strayText = .ok M ∧ M.functions = [f] ∧
      f.blocks.map (·.name) = ["entry", "while.cond.1", "while.body.2", "while.end.3"] ∧
      (f.blocks.map (·.name)).Nodup ∧ (∀ b ∈ f.blocks, b.Closed f.Has) ∧
      ∃ b ∈ f.blocks.head?, f.entryBlock? = some b ∧ b.name = "entry" := by
  have hnames : (Program.ofSource strayText).map
      (fun M => M.functions.map fun f => f.blocks.map (·.name)) =
      .ok [["entry", "while.cond.1", "while.body.2", "while.end.3"]] := by
    decide +kernel
  cases hM : Program.ofSource strayText with
  | error cause => simp [hM, Except.map] at hnames
  | ok M =>
    simp only [hM, Except.map, Except.ok.injEq] at hnames
    obtain ⟨f, hf, hnames⟩ := List.map_eq_singleton_iff.1 hnames
    obtain ⟨hdistinct, hclosed, hentry⟩ := (lowered_functions_closed {} strayText _ none).2 M hM f
      (hf ▸ List.mem_singleton_self f)
    exact ⟨M, f, rfl, hf, hnames, hdistinct, fun b hb => (hclosed b hb).1, hentry⟩

/-- A formatted string whose field holds a character that is written with a backslash. -/
def noBreakText : String := "f\"\x7b'\u00a0'\x7d\"\n"

/-- **Some source texts that can be read give no program.** -/
theorem noBreakText_unwritable :
    (∃ top, parse {} noBreakText = some top) ∧
      Program.ofSource noBreakText = .error .unwritable := by
  have hfails : (parse {} noBreakText).map
      (fun top => (lowerProgram top Program.defaultSourceName none).isNone) = some true := by
    decide +kernel
  obtain ⟨top, htop, hnone⟩ := Option.map_eq_some_iff.1 hfails
  have hlowered := Option.isNone_iff_eq_none.1 hnone
  refine ⟨⟨top, htop⟩, ?_⟩
  rw [Program.ofSource, if_neg (by decide)]
  simp only [htop, hlowered]

end Source

/-! ### Loaded programs -/

/-- The programs that descriptions give, and source texts on any host. -/
inductive Program.Loaded : Program → Prop
  | described {d : Document} {name : Option String} {M : Program} :
      d.build name = .ok M → Loaded M
  | lowered {text name : String} {file : Option String} {host : Source.Host} {M : Program} :
      Program.ofSource text name file host = .ok M → Loaded M

/-- **Loaded programs are well-formed.** -/
theorem Program.Loaded.wellFormed {M : Program} (h : M.Loaded) : M.WellFormed := by
  cases h with
  | described hbuild => exact Document.build_wellFormed hbuild
  | lowered hsource =>
    obtain ⟨-, -, top, -, hM⟩ := Program.ofSource_eq_ok.1 hsource
    exact Source.lowerProgram_wellFormed hM

/-! ### Searches of loaded programs -/

/-- A search from an instruction inside calls can be made, and it begins at a sound place. -/
theorem Program.create_sound {M : Program} {start : Position} {calls : List Position}
    (target : Position) (config : Config Position) (hstart : (M.instruction? start).isSome)
    (hcalls : ∀ c ∈ calls, M.IsCall c) :
    ∃ r, Searcher.create M.graph start target calls config = .ok r ∧ r.AllGood M.Sound := by
  have hchecked : ∀ c ∈ calls, M.graph.check c = .ok () ∧ M.graph.kindOf c = .ok .call := by
    intro c hc
    obtain ⟨i, hi, -⟩ := hcalls c hc
    exact ⟨Program.check_eq_ok (by simp [hi]), Program.isCall_iff.1 (hcalls c hc)⟩
  obtain ⟨r, hr⟩ : ∃ r, Searcher.create M.graph start target calls config = .ok r :=
    Searcher.create_ok (Program.check_eq_ok hstart) rfl hchecked
  refine ⟨r, hr, fun s hs => ?_⟩
  obtain ⟨-, -, hkey, -⟩ := Searcher.create_frame hr
  rw [(Searcher.create_admitted hr s).1 hs, hkey]
  exact ⟨hstart, by simpa [CallStack.ofCalls] using hcalls⟩

/-- A search of a well-formed program returns a result, and all places that it comes to are
sound. -/
theorem Program.WellFormed.search {M : Program} (h : M.WellFormed) {start : Position}
    {calls : List Position} (target : Position) {config : Config Position}
    (hstart : (M.instruction? start).isSome) (hcalls : ∀ c ∈ calls, M.IsCall c)
    (hcost : ∀ p, (M.instruction? p).isSome → ∃ n, config.cost p = .ok n) :
    ∃ r res, Searcher.create M.graph start target calls config = .ok r ∧ r.run.2 = .ok res ∧
      ∀ u, r.Turns u → u.AllGood M.Sound := by
  obtain ⟨r, hr, hgood⟩ := Program.create_sound target config hstart hcalls
  obtain ⟨hgraph, hconfig, -⟩ := Searcher.create_frame hr
  have hsure : r.graph.Sure r.config.cost M.Sound := by
    rw [hgraph, hconfig]
    exact h.sure hcost
  obtain ⟨res, hres⟩ := Searcher.runFor_eq_ok (r.config.maxIterations - r.iterations) hsure hgood
  refine ⟨r, res, hr, ?_, fun u hu => hu.allGood hsure.steps hgood⟩
  obtain ⟨frontier, seen, rfl, -⟩ := Searcher.create_eq_ok hr
  exact hres

/-- Every pending call has a position to return to. -/
theorem Program.WellFormed.returns {M : Program} (h : M.WellFormed) {stack : CallStack Position}
    (hcalls : ∀ c ∈ stack.innermostFirst, M.IsCall c) :
    ∃ qs, stack.returns M.graph = .ok qs := by
  have hall : ∀ cs : List Position, (∀ c ∈ cs, M.IsCall c) →
      ∃ qs, cs.mapM M.graph.nextOf = .ok qs := by
    intro cs hcs
    induction cs with
    | nil => exact ⟨[], rfl⟩
    | cons c rest ih =>
      obtain ⟨i, hi, hkind⟩ := hcs c List.mem_cons_self
      obtain ⟨q, hq, -⟩ := h.nextOf hi (by rw [hkind]; rfl)
      obtain ⟨qs, hqs⟩ := ih fun d hd => hcs d (List.mem_cons_of_mem _ hd)
      exact ⟨some q :: qs, mapM_eq_ok.2 (.cons hq (mapM_eq_ok.1 hqs))⟩
  exact hall stack.calls fun c hc => hcalls c (CallStack.mem_calls.1 hc)

/-- **A search of a loaded program meets no fault.**  From any instruction, inside any calls of the
program, to any position, with any bounds and any step cost that is a natural number at
instructions, the search can be made and its run returns a result.  At every moment `u` of it, every
admitted state is at an instruction that its block lists, inside calls that have a position to
return to, and it is expanded without a fault. -/
theorem loaded_search_returns {M : Program} (hM : M.Loaded) (start target : Position)
    (calls : List Position) (config : Config Position) (hstart : (M.instruction? start).isSome)
    (hcalls : ∀ c ∈ calls, M.IsCall c)
    (hcost : ∀ p, (M.instruction? p).isSome → ∃ n, config.cost p = .ok n) :
    ∃ r res, Searcher.create M.graph start target calls config = .ok r ∧ r.run.2 = .ok res ∧
      ∀ u s, r.Turns u → u.Admitted s →
        (M.instruction? s.position).isSome ∧ M.graph.check s.position = .ok () ∧
        (∃ qs, s.stack.returns M.graph = .ok qs) ∧
        (expand M.graph s = .ok .pruned ∨
          ∃ list, expand M.graph s = .ok (.moves list) ∧ ∀ m ∈ list, ∃ mv, m = .ok mv) := by
  have hwell := hM.wellFormed
  obtain ⟨r, res, hr, hres, hgood⟩ := hwell.search target hstart hcalls hcost
  refine ⟨r, res, hr, hres, fun u s hu hs => ?_⟩
  have hsound := hgood u hu s hs
  exact ⟨hsound.position, Program.check_eq_ok hsound.position, hwell.returns hsound.calls,
    (hwell.sure hcost).expands s hsound⟩

/-- The search of `Program.detour` from inside its function, which its caller calls again and
again. -/
theorem loaded_search_returns_detour : Document.detour.build none = .ok Program.detour ∧
    ∃ r res, Searcher.create Program.detour.graph ⟨"f", "mid", 0⟩ ⟨"f", "top", 0⟩
      [⟨"main", "a", 0⟩] Program.detourConfig = .ok r ∧ r.run.2 = .ok res := by
  have hbuild : Document.detour.build none = .ok Program.detour := by decide +kernel
  have hcall : Program.detour.IsCall ⟨"main", "a", 0⟩ := ⟨_, rfl, rfl⟩
  obtain ⟨r, res, hr, hres, -⟩ := loaded_search_returns (.described hbuild) ⟨"f", "mid", 0⟩
    ⟨"f", "top", 0⟩ [⟨"main", "a", 0⟩] Program.detourConfig rfl (by simpa using hcall)
    fun p _ => ⟨_, rfl⟩
  exact ⟨hbuild, r, res, hr, hres⟩

end CallReach
