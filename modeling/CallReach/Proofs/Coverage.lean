import CallReach.Proofs.Filed
import Mathlib

/-!
# Every call of a statement becomes one instruction

The calls that occur in the expressions of statements correspond to the call instructions of their
function, one to one.  What is inside of a call comes before it, in the same block.

* `CallTable` : call instructions in blocks, with the calls that they are made of.
* `Filed.exists_table` : the table of blocks that have the calls of expressions.
* `Places` : where the instructions of the calls in expressions stand.
* `calls_emitted_once` : the calls of a function have such places, and those in what loops and
  contexts bind have none.
-/

namespace CallReach.Source

open scoped List

/-! ### Tables of calls -/

/-- A call instruction: its place, and the call with the path at which it occurs. -/
structure Row where
  place : Place
  path : List ℕ
  site : CallSite

/-- How a row of a table relates to a later one.  The call of the later one does not occur inside
that of the earlier one; if it is the other way round, both are in one block, in the same order. -/
structure Row.Before (r s : Row) : Prop where
  place_ne : r.place ≠ s.place
  outer : ¬ r.path <+: s.path
  inner : s.path <+: r.path → r.place.block = s.place.block ∧ r.place.index < s.place.index

/-- An instruction stands at a place in blocks. -/
def StandsAt (blocks : List Block) (p : Place) (i : Instruction) : Prop :=
  ∃ block ∈ blocks, block.name = p.block ∧ block.instructions[p.index]? = some i

/-- A table of all call instructions in blocks, and of all calls in numbered expressions. -/
structure CallTable (scope : Scope) (blocks : List Block) (es : List (Expr × ℕ))
    (rows : List Row) : Prop where
  stands : ∀ p i, StandsAt blocks p i ∧ i.kind = .call ↔
    ∃ r ∈ rows, r.place = p ∧ scope.callInstruction r.site = i
  occurs : ∀ path c, (∃ r ∈ rows, r.path = path ∧ r.site = c) ↔ OccursAt es path c
  order : rows.Pairwise Row.Before

section Tables

variable {scope : Scope} {block : Block} {blocks : List Block} {es : List (Expr × ℕ)}

/-- Two lists with the same images are gone through together. -/
theorem exists_pairs {α β γ : Type} {f : α → γ} {g : β → γ} {xs : List α} {ys : List β}
    (h : xs.map f = ys.map g) :
    ∃ qs : List (α × β), qs.map (·.1) = xs ∧ qs.map (·.2) = ys ∧ ∀ q ∈ qs, f q.1 = g q.2 := by
  have hlength : xs.length = ys.length := by simpa using congrArg List.length h
  refine ⟨xs.zip ys, List.map_fst_zip hlength.le, List.map_snd_zip hlength.ge, ?_⟩
  rw [← List.forall₂_eq_eq_eq, List.forall₂_map_left_iff, List.forall₂_map_right_iff] at h
  exact fun q hq => (List.forall₂_iff_zip.1 h).2 hq

/-- The call instructions of a block with their indices. -/
def numberedCalls (block : Block) : List (Instruction × ℕ) :=
  block.instructions.zipIdx.filter (·.1.kind == .call)

theorem map_fst_numberedCalls (block : Block) :
    (numberedCalls block).map (·.1) = callsIn block := by
  have hmap : (block.instructions.zipIdx.map Prod.fst).filter (·.kind == .call) =
      (numberedCalls block).map Prod.fst := List.filter_map
  rw [List.zipIdx_map_fst] at hmap
  exact hmap.symm

theorem mem_numberedCalls {i : Instruction} {n : ℕ} :
    (i, n) ∈ numberedCalls block ↔ block.instructions[n]? = some i ∧ i.kind = .call := by
  simp [numberedCalls, List.mem_zipIdx_iff_getElem?]

theorem pairwise_numberedCalls (block : Block) :
    (numberedCalls block).Pairwise fun a b => a.2 < b.2 := by
  have hzip : block.instructions.zipIdx.Pairwise fun a b => a.2 < b.2 := by
    rw [← List.pairwise_map (f := Prod.snd) (R := (· < ·)), List.zipIdx_map_snd]
    exact List.pairwise_lt_range'
  exact hzip.filter _

/-- The table of one block. -/
theorem exists_block_table (hdistinct : (es.map (·.2)).Nodup)
    (hcalls : callsIn block = (es.flatMap (·.1.calls)).map scope.callInstruction) :
    ∃ rows, CallTable scope [block] es rows := by
  obtain ⟨os, hos⟩ := exists_listed hdistinct
  rw [← hos.sites, List.map_map, ← map_fst_numberedCalls] at hcalls
  -- the instructions and the listed calls are gone through together
  obtain ⟨qs, hplaces, hpaths, hsame⟩ := exists_pairs hcalls
  refine ⟨qs.map fun q => ⟨⟨block.name, q.1.2⟩, q.2.1, q.2.2⟩, fun p i => ?_, fun path c => ?_, ?_⟩
  · have hmem : (i, p.index) ∈ numberedCalls block ↔ ∃ q ∈ qs, q.1 = (i, p.index) := by
      rw [← hplaces, List.mem_map]
    simp only [StandsAt, List.mem_singleton, exists_eq_left, and_assoc, ← mem_numberedCalls, hmem,
      List.mem_map, exists_exists_and_eq_and]
    constructor
    · rintro ⟨hname, q, hq, heq⟩
      have hi := hsame q hq
      rw [heq] at hi
      exact ⟨q, hq, by rw [hname, heq], hi.symm⟩
    · rintro ⟨q, hq, rfl, rfl⟩
      exact ⟨rfl, q, hq, Prod.ext (hsame q hq) rfl⟩
  · rw [← hos.mem_iff, ← hpaths]
    simp [Prod.ext_iff]
  · rw [List.pairwise_map]
    have hindex := pairwise_numberedCalls block
    have hinner := hos.inner
    rw [← hplaces, List.pairwise_map] at hindex
    rw [← hpaths, List.pairwise_map] at hinner
    refine (hindex.and hinner).imp fun h => ⟨fun heq => ?_, h.2, fun _ => ⟨rfl, h.1⟩⟩
    exact h.1.ne (congrArg Place.index heq)

/-- The table of one block more, which has a new name and the calls of other expressions. -/
theorem CallTable.cons {rows rows' : List Row} {es' : List (Expr × ℕ)}
    (h : CallTable scope [block] es rows) (h' : CallTable scope blocks es' rows')
    (hname : block.name ∉ blocks.map (·.name)) (hdistinct : ((es ++ es').map (·.2)).Nodup) :
    CallTable scope (block :: blocks) (es ++ es') (rows ++ rows') where
  stands p i := by
    have hsplit : StandsAt (block :: blocks) p i ↔ StandsAt [block] p i ∨ StandsAt blocks p i := by
      simp [StandsAt, or_and_right, exists_or]
    rw [hsplit, or_and_right, h.stands, h'.stands]
    simp only [List.mem_append, or_and_right, exists_or]
  occurs path c := by
    rw [occursAt_append, ← h.occurs, ← h'.occurs]
    simp only [List.mem_append, or_and_right, exists_or]
  order := by
    refine List.pairwise_append.2 ⟨h.order, h'.order, fun r hr s hs => ?_⟩
    obtain ⟨⟨b, hb, hrname, -⟩, -⟩ := (h.stands _ _).2 ⟨r, hr, rfl, rfl⟩
    obtain ⟨⟨b', hb', hsname, -⟩, -⟩ := (h'.stands _ _).2 ⟨s, hs, rfl, rfl⟩
    obtain ⟨e, n, rest, he, hrpath, -⟩ := (h.occurs _ _).1 ⟨r, hr, rfl, rfl⟩
    obtain ⟨e', n', rest', he', hspath, -⟩ := (h'.occurs _ _).1 ⟨s, hs, rfl, rfl⟩
    -- the paths begin with different numbers, so no call occurs inside of the other
    have hne : n ≠ n' := by
      rw [List.map_append, List.nodup_append] at hdistinct
      exact hdistinct.2.2 n (List.mem_map.2 ⟨_, he, rfl⟩) n' (List.mem_map.2 ⟨_, he', rfl⟩)
    refine ⟨fun hplace => hname ?_, fun hprefix => hne ?_, fun hprefix => absurd ?_ hne⟩
    · rw [← List.mem_singleton.1 hb, hrname, hplace, ← hsname]
      exact List.mem_map_of_mem hb'
    · rw [hrpath, hspath] at hprefix
      exact (List.cons_prefix_cons.1 hprefix).1
    · rw [hrpath, hspath] at hprefix
      exact (List.cons_prefix_cons.1 hprefix).1.symm

/-- The table of blocks with distinct names, to each of which numbered expressions belong. -/
theorem exists_callTable {ess : List (List (Expr × ℕ))}
    (h : List.Forall₂ (fun block es =>
      callsIn block = (es.flatMap (·.1.calls)).map scope.callInstruction) blocks ess)
    (hnames : (blocks.map (·.name)).Nodup) (hdistinct : (ess.flatten.map (·.2)).Nodup) :
    ∃ rows, CallTable scope blocks ess.flatten rows := by
  induction h with
  | nil => exact ⟨[], by simp [StandsAt], by simp [OccursAt], .nil⟩
  | @cons block es blocks ess hblock hrest ih =>
    obtain ⟨hname, hnames⟩ := List.nodup_cons.1 hnames
    have hparts := hdistinct
    rw [List.flatten_cons, List.map_append] at hparts
    obtain ⟨rows, hrows⟩ := exists_block_table hparts.of_append_left hblock
    obtain ⟨rows', hrows'⟩ := ih hnames hparts.of_append_right
    exact ⟨rows ++ rows', hrows.cons hrows' hname hdistinct⟩

/-- Elements that go into lists take along what belongs to them. -/
theorem exists_split {α β : Type} {f : α → β} {xs : List α} {yss : List (List β)}
    (h : xs.map f = yss.flatten) :
    ∃ xss : List (List α), xss.flatten = xs ∧ xss.map (·.map f) = yss := by
  induction yss generalizing xs with
  | nil => exact ⟨[], by simpa using h.symm, rfl⟩
  | cons ys rest ih =>
    obtain ⟨as, bs, rfl, rfl, hrest⟩ := List.map_eq_append_iff.1 h
    obtain ⟨xss, rfl, rfl⟩ := ih hrest
    exact ⟨as :: xss, rfl, rfl⟩

/-- There is a table of blocks that have the calls of expressions. -/
theorem Filed.exists_table {es : List Expr} (h : Filed scope blocks es)
    (hnames : (blocks.map (·.name)).Nodup) :
    ∃ zs rows, zs ~ es.zipIdx ∧ CallTable scope blocks zs rows := by
  obtain ⟨files, hfiles, hperm⟩ := h
  -- each expression takes its number along to the file that it is in
  obtain ⟨zs, hzs, hnumbers⟩ := exists_numbering hperm
  obtain ⟨zss, rfl, rfl⟩ := exists_split hzs
  have hcalls : List.Forall₂ (fun block zs =>
      callsIn block = (zs.flatMap (·.1.calls)).map scope.callInstruction) blocks zss := by
    rw [List.forall₂_map_right_iff] at hfiles
    exact hfiles.imp fun block zs hblock => by rw [hblock, List.flatMap_map]
  obtain ⟨rows, hrows⟩ := exists_callTable hcalls hnames (nodup_numbers hnumbers)
  exact ⟨_, rows, hnumbers, hrows⟩

end Tables

/-! ### Calls and instructions -/

/-- Where the instructions of the calls in expressions stand in a function. -/
structure Places (scope : Scope) (es : List Expr) (f : Function) (place : List ℕ → Place) :
    Prop where
  /-- There is one instruction for each call that occurs, and one call for each instruction. -/
  bijOn : Set.BijOn place {path | ∃ c, callAt? es path = some c}
    {p | ∃ i, f.instruction? p = some i ∧ i.kind = .call}
  /-- The instruction is that of the call. -/
  instruction : ∀ path c, callAt? es path = some c →
    f.instruction? (place path) = some (scope.callInstruction c)
  /-- Calls inside a call come before it, in the same block. -/
  nested : ∀ path path' c c', callAt? es path = some c → callAt? es path' = some c' →
    path <+: path' → path ≠ path' →
    (place path').block = (place path).block ∧ (place path').index < (place path).index

section Places

variable {scope : Scope} {es : List Expr} {f : Function} {rows : List Row}
  {zs : List (Expr × ℕ)}

/-- Two rows of a table are the same, or one comes before the other. -/
theorem CallTable.trichotomy {blocks : List Block} (h : CallTable scope blocks zs rows)
    {r s : Row} (hr : r ∈ rows) (hs : s ∈ rows) : r = s ∨ r.Before s ∨ s.Before r := by
  have hsymm : Std.Symm fun r s : Row => r = s ∨ r.Before s ∨ s.Before r :=
    ⟨fun _ _ => Or.imp Eq.symm Or.symm⟩
  have hpairwise : rows.Pairwise fun r s => r = s ∨ r.Before s ∨ s.Before r :=
    h.order.imp fun hbefore => Or.inr (Or.inl hbefore)
  have hsame : ∀ r ∈ rows, r = r ∨ r.Before r ∨ r.Before r := fun _ _ => Or.inl rfl
  exact List.Pairwise.forall_of_forall hsame hpairwise hr hs

theorem CallTable.eq_of_path {blocks : List Block} (h : CallTable scope blocks zs rows) {r s : Row}
    (hr : r ∈ rows) (hs : s ∈ rows) (heq : r.path = s.path) : r = s := by
  rcases h.trichotomy hr hs with hsame | hbefore | hbefore
  · exact hsame
  · exact absurd (heq ▸ List.prefix_rfl) hbefore.outer
  · exact absurd (heq ▸ List.prefix_rfl) hbefore.outer

theorem CallTable.eq_of_place {blocks : List Block} (h : CallTable scope blocks zs rows)
    {r s : Row} (hr : r ∈ rows) (hs : s ∈ rows) (heq : r.place = s.place) : r = s := by
  rcases h.trichotomy hr hs with hsame | hbefore | hbefore
  · exact hsame
  · exact absurd heq hbefore.place_ne
  · exact absurd heq.symm hbefore.place_ne

theorem instruction?_eq_some_iff {p : Place} {i : Instruction}
    (hnames : (f.blocks.map (·.name)).Nodup) :
    f.instruction? p = some i ↔ StandsAt f.blocks p i := by
  rw [Function.instruction?_eq_some]
  constructor
  · rintro ⟨block, hblock, hi⟩
    obtain ⟨hmem, hname⟩ := Function.mem_of_block? hblock
    exact ⟨block, hmem, hname, hi⟩
  · rintro ⟨block, hblock, hname, hi⟩
    exact ⟨block, hname ▸ Function.block?_of_mem hnames hblock, hi⟩

/-- **A table tells where the instructions of calls stand.** -/
theorem CallTable.exists_places (h : CallTable scope f.blocks zs rows) (hzs : zs ~ es.zipIdx)
    (hnames : (f.blocks.map (·.name)).Nodup) : ∃ place, Places scope es f place := by
  have hcall : ∀ path c, callAt? es path = some c ↔ ∃ r ∈ rows, r.path = path ∧ r.site = c := by
    intro path c
    rw [h.occurs, callAt?_eq_some, occursAt_perm hzs]
  have hstands : ∀ p i, f.instruction? p = some i ∧ i.kind = .call ↔
      ∃ r ∈ rows, r.place = p ∧ scope.callInstruction r.site = i := by
    intro p i
    rw [instruction?_eq_some_iff hnames, h.stands]
  -- rows with the same path are the same, so a path determines a place
  have hunique : ∀ path, ∃ p, ∀ r ∈ rows, r.path = path → r.place = p := by
    intro path
    by_cases hpath : ∃ r ∈ rows, r.path = path
    · obtain ⟨r, hr, rfl⟩ := hpath
      exact ⟨r.place, fun s hs heq => congrArg Row.place (h.eq_of_path hs hr heq)⟩
    · exact ⟨.first "", fun r hr heq => absurd ⟨r, hr, heq⟩ hpath⟩
  choose place hplace using hunique
  refine ⟨place, ⟨?_, ?_, ?_⟩, ?_, ?_⟩
  · rintro path ⟨c, hc⟩
    obtain ⟨r, hr, rfl, rfl⟩ := (hcall path c).1 hc
    exact ⟨_, (hstands _ _).2 ⟨r, hr, hplace _ r hr rfl, rfl⟩⟩
  · rintro path ⟨c, hc⟩ path' ⟨c', hc'⟩ heq
    obtain ⟨r, hr, rfl, rfl⟩ := (hcall path c).1 hc
    obtain ⟨s, hs, rfl, rfl⟩ := (hcall path' c').1 hc'
    rw [← hplace _ r hr rfl, ← hplace _ s hs rfl] at heq
    rw [h.eq_of_place hr hs heq]
  · rintro p ⟨i, hi⟩
    obtain ⟨r, hr, rfl, -⟩ := (hstands p i).1 hi
    exact ⟨r.path, ⟨r.site, (hcall _ _).2 ⟨r, hr, rfl, rfl⟩⟩, (hplace _ r hr rfl).symm⟩
  · intro path c hc
    obtain ⟨r, hr, rfl, rfl⟩ := (hcall path c).1 hc
    exact ((hstands _ _).2 ⟨r, hr, hplace _ r hr rfl, rfl⟩).1
  · intro path path' c c' hc hc' hprefix hne
    obtain ⟨r, hr, rfl, rfl⟩ := (hcall path c).1 hc
    obtain ⟨s, hs, rfl, rfl⟩ := (hcall path' c').1 hc'
    rw [← hplace _ r hr rfl, ← hplace _ s hs rfl]
    rcases h.trichotomy hr hs with rfl | hbefore | hbefore
    · exact absurd rfl hne
    · -- the row of the outer call cannot come first
      exact absurd hprefix hbefore.outer
    · exact hbefore.inner hprefix

theorem Filed.exists_places (h : Filed scope f.blocks es)
    (hnames : (f.blocks.map (·.name)).Nodup) : ∃ place, Places scope es f place := by
  obtain ⟨zs, rows, hzs, hrows⟩ := h.exists_table hnames
  exact hrows.exists_places hzs hnames

/-! ### When no call is missing -/

theorem callAt?_append {fs : List Expr} {path : List ℕ} {c : CallSite}
    (h : callAt? es path = some c) : callAt? (es ++ fs) path = some c := by
  rw [callAt?_eq_some, List.zipIdx_append, occursAt_append]
  exact Or.inl (callAt?_eq_some.1 h)

theorem finite_calls (es : List Expr) : {path | ∃ c, callAt? es path = some c}.Finite := by
  obtain ⟨os, hos⟩ := exists_listed (nodup_numbers (List.Perm.refl es.zipIdx))
  refine (os.map (·.1)).finite_toSet.subset ?_
  rintro path ⟨c, hc⟩
  exact List.mem_map.2 ⟨(path, c), (hos.mem_iff path c).2 (callAt?_eq_some.1 hc), rfl⟩

/-- If the instructions are those of the calls in expressions, there is no call in any others. -/
theorem Places.calls_eq_nil {fs : List Expr} {place place' : List ℕ → Place}
    (h : Places scope es f place) (h' : Places scope (es ++ fs) f place') :
    ∀ e ∈ fs, e.calls = [] := by
  -- both sets of paths have as many elements as there are call instructions
  have hcard := h'.bijOn.ncard_eq.trans h.bijOn.ncard_eq.symm
  have hsubset : {path | ∃ c, callAt? es path = some c} ⊆
      {path | ∃ c, callAt? (es ++ fs) path = some c} :=
    fun path ⟨c, hc⟩ => ⟨c, callAt?_append hc⟩
  have hsame := Set.eq_of_subset_of_ncard_le hsubset hcard.le (finite_calls _)
  intro e he
  by_contra hcalls
  obtain ⟨os, hos⟩ := e.exists_listed
  obtain ⟨o, ho⟩ : ∃ o, o ∈ os := List.exists_mem_of_ne_nil os fun hnil => hcalls (by
    rw [← hos.sites, hnil, List.map_nil])
  -- the path to the call begins with a number behind those of the other expressions
  obtain ⟨k, hk⟩ := List.mem_iff_getElem?.1 he
  have hnew : callAt? (es ++ fs) ((es.length + k) :: o.1) = some o.2 := by
    rw [callAt?, List.getElem?_append_right (Nat.le_add_right _ _), Nat.add_sub_cancel_left, hk]
    exact (hos.mem_iff _ _).1 ho
  obtain ⟨c, hc⟩ := hsame.ge ⟨o.2, hnew⟩
  simp [callAt?] at hc

/-- **Every call of a statement is emitted once, after the calls inside of it.**  The call
instructions of a function are those of the calls in the expressions of its statements.  What loops
and contexts bind is left out, so all calls are emitted exactly if there is none in these. -/
theorem calls_emitted_once {file : Option String} {name : String} {body : List Stmt} {lastLine : ℕ}
    (h : lowerFunction scope file name body lastLine = some f) :
    (∃ place, Places scope (exprsOf body) f place) ∧
      ((∃ place, Places scope (exprsOf body ++ boundOf body) f place) ↔
        ∀ e ∈ boundOf body, e.calls = []) := by
  have hcompletes := lowerFunction_completes h
  have hfiled := lowerFunction_filed h
  obtain ⟨place, hplace⟩ := hfiled.exists_places hcompletes.distinct
  refine ⟨⟨place, hplace⟩, fun ⟨place', hplace'⟩ => hplace.calls_eq_nil hplace', fun hnone => ?_⟩
  -- without calls, what is bound may be filed under the entry block
  obtain ⟨entry, hentry, -⟩ := hcompletes.grows 0 { name := "entry" } rfl
  have hlength := (List.getElem?_eq_some_iff.1 hentry).1
  exact (hfiled.silent hlength (List.flatMap_eq_nil_iff.2 hnone)).exists_places hcompletes.distinct

end Places

/-- A formatted string with a call in its field, whose argument is a call. -/
def fieldBody : List Stmt :=
  [.simple ⟨1, 1⟩ (.assign [.name "x"] (.joined [.field
    (.call 1 (.name "g") [.call 1 (.name "h") [] []] []) none none]))]

theorem calls_emitted_once_field :
    ∃ f place, lowerFunction {} none "show" fieldBody 1 = some f ∧
      callAt? (exprsOf fieldBody) [1, 0] = some ⟨1, .name "g"⟩ ∧
      callAt? (exprsOf fieldBody) [1, 0, 1] = some ⟨1, .name "h"⟩ ∧
      Places {} (exprsOf fieldBody) f place ∧
      (place [1, 0, 1]).block = (place [1, 0]).block ∧
      (place [1, 0, 1]).index < (place [1, 0]).index := by
  obtain ⟨f, hf⟩ := Option.isSome_iff_exists.1
    (show (lowerFunction {} none "show" fieldBody 1).isSome = true by decide +kernel)
  obtain ⟨place, hplaces⟩ := (calls_emitted_once hf).1
  have houter : callAt? (exprsOf fieldBody) [1, 0] = some ⟨1, .name "g"⟩ := rfl
  have hinner : callAt? (exprsOf fieldBody) [1, 0, 1] = some ⟨1, .name "h"⟩ := rfl
  exact ⟨f, place, hf, houter, hinner, hplaces,
    hplaces.nested _ _ _ _ houter hinner (by decide) (by decide)⟩

/-! ### A call that is not emitted -/

/-- A text in which a context binds a part of what a call returns. -/
def boundText : String := "def f(): pass\nwith a as f().x: pass\n"

/-- The statements of `boundText` outside of definitions. -/
def boundBody : List Stmt :=
  [.within ⟨2, 2⟩ [⟨.name "a", some (.attribute (.call 2 (.name "f") [] []) "x")⟩]
    [.simple ⟨2, 2⟩ .pass]]

theorem parse_bound : parse {} boundText = some
    (.functionDef ⟨1, 1⟩ false [] "f" (.mk [] [] none [] none) none [.simple ⟨1, 1⟩ .pass] ::
      boundBody) := by
  cbv

/-- **Calls in what a context binds are not emitted**: one occurs in the expressions of `boundText`,
and no instruction corresponds to it. -/
theorem bound_call_lost :
    (∃ top, parse {} boundText = some top ∧ top.filter (fun s => !s.isDefinition) = boundBody) ∧
      callAt? (exprsOf boundBody ++ boundOf boundBody) [1, 0] = some ⟨2, .name "f"⟩ ∧
      ∃ f, lowerFunction {} none moduleFunction boundBody 2 = some f ∧
        ¬ ∃ place, Places {} (exprsOf boundBody ++ boundOf boundBody) f place := by
  have hcall : callAt? (exprsOf boundBody ++ boundOf boundBody) [1, 0] =
      some ⟨2, .name "f"⟩ := rfl
  have hlowered : (lowerFunction {} none moduleFunction boundBody 2).map (fun f =>
      f.blocks.all fun block => block.instructions.all fun i => i.kind != .call) = some true := by
    decide +kernel
  obtain ⟨f, hf, hnone⟩ := Option.map_eq_some_iff.1 hlowered
  refine ⟨⟨_, parse_bound, rfl⟩, hcall, f, hf, ?_⟩
  rintro ⟨place, hplace⟩
  obtain ⟨i, hi, hkind⟩ := hplace.bijOn.mapsTo ⟨_, hcall⟩
  obtain ⟨block, hblock, hat⟩ := Function.instruction?_eq_some.1 hi
  have hother := List.all_eq_true.1 (List.all_eq_true.1 hnone block
    (Function.mem_of_block? hblock).1) i (List.mem_of_getElem? hat)
  simp [hkind] at hother

end CallReach.Source
