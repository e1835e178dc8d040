import CallReach.Proofs.Reading
import Mathlib.Data.List.Perm.Basic

/-!
# Where the calls of an expression occur

A part of an expression is found by a path: the number of a part, the number of a part of that part,
and so on.  The calls of an expression are listed with the paths at which they occur, each of them
once, and a call comes after all that occur inside of it.

* `Expr.at?` : the part at a path; `callAt?` : the call at a path, among several expressions.
* `Expr.calls_eq` : the calls of an expression are those of its parts, and then itself.
* `OccursAt` : the same among expressions that have numbers of any kind.
* `Listed` : calls in the order in which they are made, with the paths at which they occur.
* `exists_listed` : the calls of all expressions can be listed so.
-/

namespace CallReach.Source

open scoped List

/-- The call that an expression is, if it is one. -/
def Expr.site? : Expr → Option CallSite
  | .call line callee _ _ => some ⟨line, callee⟩
  | _ => none

/-- The part of an expression at a path.  The body of a function without a name is no part. -/
def Expr.at? : Expr → List ℕ → Option Expr
  | e, [] => some e
  | e, n :: path => e.parts[n]?.bind fun part => part.at? path

/-- The call at a path, which begins with the number of one of the expressions. -/
def callAt? (es : List Expr) : List ℕ → Option CallSite
  | [] => none
  | n :: path => (es[n]?.bind fun e => e.at? path).bind Expr.site?

/-! ### The calls of the parts -/

section Parts

theorem callsOfAll_eq (es : List Expr) : callsOfAll es = es.flatMap Expr.calls := by
  induction es with
  | nil => rfl
  | cons e rest ih => rw [callsOfAll, List.flatMap_cons, ih]

theorem callsOfOption_eq (o : Option Expr) : callsOfOption o = o.toList.flatMap Expr.calls := by
  cases o <;> simp [callsOfOption]

theorem callsOfKeywords_eq (ks : List Keyword) :
    callsOfKeywords ks = (ks.map Keyword.value).flatMap Expr.calls := by
  induction ks with
  | nil => rfl
  | cons k rest ih =>
    cases k
    simp [callsOfKeywords, Keyword.value, ih]

theorem callsOfComparisons_eq (rest : List Comparison) :
    callsOfComparisons rest = (rest.map Comparison.operand).flatMap Expr.calls := by
  induction rest with
  | nil => rfl
  | cons r rest ih =>
    cases r
    simp [callsOfComparisons, Comparison.operand, ih]

theorem callsOfClauses_eq (clauses : List Clause) :
    callsOfClauses clauses = (clauses.flatMap Clause.parts).flatMap Expr.calls := by
  induction clauses with
  | nil => rfl
  | cons k rest ih =>
    cases k
    simp [callsOfClauses, Clause.parts, callsOfAll_eq, ih]

/-- All keys of a dictionary come before its values. -/
theorem callsOfItems_eq (items : List DictItem) :
    ∃ keys values, keys ++ values ~ items.flatMap DictItem.parts ∧
      callsOfKeys items = keys.flatMap Expr.calls ∧
      callsOfValues items = values.flatMap Expr.calls := by
  induction items with
  | nil => exact ⟨[], [], .refl _, rfl, rfl⟩
  | cons item rest ih =>
    obtain ⟨keys, values, hperm, hkeys, hvalues⟩ := ih
    cases item with
    | pair key value =>
      refine ⟨key :: keys, value :: values, ?_, ?_, ?_⟩
      · exact (List.perm_middle.trans (hperm.cons value)).cons key
      · simp [callsOfKeys, hkeys]
      · simp [callsOfValues, hvalues]
    | unpack value =>
      refine ⟨keys, value :: values, ?_, ?_, ?_⟩
      · exact List.perm_middle.trans (hperm.cons value)
      · simp [callsOfKeys, hkeys]
      · simp [callsOfValues, hvalues]

/-- **The calls of an expression are those of its parts**, in some order of these, and then the
expression itself when it is a call. -/
theorem Expr.calls_eq (e : Expr) : ∃ ps, ps ~ e.parts ∧
    e.calls = ps.flatMap Expr.calls ++ e.site?.toList := by
  cases e with
  | dict items =>
    obtain ⟨keys, values, hperm, hkeys, hvalues⟩ := callsOfItems_eq items
    exact ⟨keys ++ values, hperm, by simp [Expr.calls, Expr.site?, hkeys, hvalues]⟩
  | _ =>
    refine ⟨_, .refl _, ?_⟩
    simp [Expr.calls, Expr.parts, Expr.site?, callsOfAll_eq, callsOfOption_eq, callsOfKeywords_eq,
      callsOfComparisons_eq, callsOfClauses_eq, callsOfPieces_eq]

end Parts

/-! ### Parts are smaller -/

section Size

variable {part : Expr}

theorem sizeOf_value_lt (k : Keyword) : sizeOf k.value < sizeOf k := by
  cases k
  grind [Keyword.value]

theorem sizeOf_operand_lt (r : Comparison) : sizeOf r.operand < sizeOf r := by
  cases r
  grind [Comparison.operand]

theorem sizeOf_lt_item {item : DictItem} (h : part ∈ item.parts) : sizeOf part < sizeOf item := by
  cases item <;> grind [DictItem.parts]

theorem sizeOf_lt_clause {k : Clause} (h : part ∈ k.parts) : sizeOf part < sizeOf k := by
  cases k
  grind [Clause.parts, → List.sizeOf_lt_of_mem]

theorem sizeOf_lt_option {o : Option Expr} (h : part ∈ o) : sizeOf part < sizeOf o := by
  cases h
  simp

mutual

theorem sizeOf_lt_piece : {piece : Piece} → part ∈ piece.exprs → sizeOf part < sizeOf piece
  | .text _, h => by simp [Piece.exprs] at h
  | .field value _ format, h => by
    rcases List.mem_cons.1 h with rfl | h
    · simp
      omega
    · have := sizeOf_lt_format h
      simp
      omega

theorem sizeOf_lt_pieces : {pieces : List Piece} → part ∈ exprsOfPieces pieces →
    sizeOf part < sizeOf pieces
  | [], h => by simp [exprsOfPieces] at h
  | piece :: rest, h => by
    rcases List.mem_append.1 h with h | h
    · have := sizeOf_lt_piece h
      simp
      omega
    · have := sizeOf_lt_pieces h
      simp
      omega

theorem sizeOf_lt_format : {format : Option (List Piece)} → part ∈ exprsOfFormat format →
    sizeOf part < sizeOf format
  | none, h => by simp [exprsOfFormat] at h
  | some pieces, h => by
    have : sizeOf part < sizeOf pieces := sizeOf_lt_pieces h
    simp
    omega

end

theorem sizeOf_part_lt {e : Expr} (h : part ∈ e.parts) : sizeOf part < sizeOf e := by
  cases e <;>
    simp only [Expr.parts, List.mem_cons, List.mem_append, List.mem_map, List.mem_flatMap,
      Option.mem_toList, List.not_mem_nil, or_false] at h <;>
    grind [sizeOf_value_lt, sizeOf_operand_lt, → sizeOf_lt_item, → sizeOf_lt_clause,
      → sizeOf_lt_option, → sizeOf_lt_pieces, → List.sizeOf_lt_of_mem]

end Size

/-! ### Calls with their paths -/

/-- A call occurs at a path, which begins with the number that one of the expressions has. -/
def OccursAt (es : List (Expr × ℕ)) (path : List ℕ) (c : CallSite) : Prop :=
  ∃ e n rest, (e, n) ∈ es ∧ path = n :: rest ∧ (e.at? rest).bind Expr.site? = some c

theorem occursAt_perm {es fs : List (Expr × ℕ)} (h : es ~ fs) {path : List ℕ} {c : CallSite} :
    OccursAt es path c ↔ OccursAt fs path c := by
  simp only [OccursAt, h.mem_iff]

theorem occursAt_append {es fs : List (Expr × ℕ)} {path : List ℕ} {c : CallSite} :
    OccursAt (es ++ fs) path c ↔ OccursAt es path c ∨ OccursAt fs path c := by
  simp only [OccursAt, List.mem_append, or_and_right, exists_or]

theorem callAt?_eq_some {es : List Expr} {path : List ℕ} {c : CallSite} :
    callAt? es path = some c ↔ OccursAt es.zipIdx path c := by
  cases path with
  | nil => simp [callAt?, OccursAt]
  | cons n rest =>
    simp only [callAt?, OccursAt, List.mem_zipIdx_iff_getElem?, Option.bind_assoc,
      Option.bind_eq_some_iff]
    constructor
    · rintro ⟨e, he, hc⟩
      exact ⟨e, n, rest, he, rfl, hc⟩
    · rintro ⟨e, n, rest, he, ⟨⟩, hc⟩
      exact ⟨e, he, hc⟩

/-- Calls in order, with their paths: those in numbered expressions, each of them once, and none
after one that it occurs inside of. -/
structure Listed (es : List (Expr × ℕ)) (os : List (List ℕ × CallSite)) : Prop where
  sites : os.map (·.2) = es.flatMap (·.1.calls)
  mem_iff : ∀ path c, (path, c) ∈ os ↔ OccursAt es path c
  inner : os.Pairwise fun a b => ¬ a.1 <+: b.1

/-- The same for one expression. -/
structure Expr.Listed (e : Expr) (os : List (List ℕ × CallSite)) : Prop where
  sites : os.map (·.2) = e.calls
  mem_iff : ∀ path c, (path, c) ∈ os ↔ (e.at? path).bind Expr.site? = some c
  inner : os.Pairwise fun a b => ¬ a.1 <+: b.1

theorem Listed.nil : Listed [] [] := ⟨rfl, by simp [OccursAt], .nil⟩

/-- Expressions with different numbers are listed one after the other. -/
theorem Listed.cons {e : Expr} {n : ℕ} {es : List (Expr × ℕ)} {os ps : List (List ℕ × CallSite)}
    (he : e.Listed ps) (hes : Listed es os) (hn : n ∉ es.map (·.2)) :
    Listed ((e, n) :: es) (ps.map (fun o => (n :: o.1, o.2)) ++ os) where
  sites := by
    rw [List.map_append, List.map_map, List.flatMap_cons, hes.sites, ← he.sites]
    rfl
  mem_iff path c := by
    rw [List.mem_append, hes.mem_iff, List.mem_map]
    constructor
    · rintro (⟨o, ho, heq⟩ | ⟨e', m, rest, hmem, hpath⟩)
      · cases heq
        exact ⟨e, n, o.1, List.mem_cons_self, rfl, (he.mem_iff _ _).1 ho⟩
      · exact ⟨e', m, rest, List.mem_cons_of_mem _ hmem, hpath⟩
    · rintro ⟨e', m, rest, hmem, rfl, hc⟩
      rcases List.mem_cons.1 hmem with heq | hmem
      · cases heq
        exact Or.inl ⟨(rest, c), (he.mem_iff _ _).2 hc, rfl⟩
      · exact Or.inr ⟨e', m, rest, hmem, rfl, hc⟩
  inner := by
    refine List.pairwise_append.2 ⟨?_, hes.inner, fun a ha b hb hprefix => ?_⟩
    · rw [List.pairwise_map]
      exact he.inner.imp fun h hprefix => h ((List.cons_prefix_cons.1 hprefix).2)
    · -- the paths begin with different numbers
      obtain ⟨o, -, rfl⟩ := List.mem_map.1 ha
      obtain ⟨e', m, rest, hmem, hpath, -⟩ := (hes.mem_iff b.1 b.2).1 hb
      rw [hpath] at hprefix
      obtain rfl := (List.cons_prefix_cons.1 hprefix).1
      exact hn (List.mem_map.2 ⟨_, hmem, rfl⟩)

/-- Numbered expressions are listed when each of them is. -/
theorem exists_listed_of {es : List (Expr × ℕ)} (h : ∀ x ∈ es, ∃ os, x.1.Listed os)
    (hdistinct : (es.map (·.2)).Nodup) : ∃ os, Listed es os := by
  induction es with
  | nil => exact ⟨[], .nil⟩
  | cons x rest ih =>
    rw [List.forall_mem_cons] at h
    obtain ⟨hn, hdistinct⟩ := List.nodup_cons.1 hdistinct
    obtain ⟨ps, hps⟩ := h.1
    obtain ⟨os, hos⟩ := ih h.2 hdistinct
    exact ⟨_, hos.cons hps hn⟩

/-- The numbers of a list go along with its elements when their order changes. -/
theorem exists_numbering {α : Type} {xs ys : List α} (h : xs ~ ys) :
    ∃ zs : List (α × ℕ), zs.map (·.1) = xs ∧ zs ~ ys.zipIdx := by
  have hys : List.Forall₂ (fun y (z : α × ℕ) => z.1 = y) ys ys.zipIdx := by
    rw [List.forall₂_iff_get]
    simp
  obtain ⟨zs, hzs, hperm⟩ := List.perm_comp_forall₂ h hys
  refine ⟨zs, ?_, hperm⟩
  rw [← List.forall₂_eq_eq_eq, List.forall₂_map_left_iff]
  exact hzs.flip

theorem nodup_numbers {α : Type} {zs : List (α × ℕ)} {ys : List α} (h : zs ~ ys.zipIdx) :
    (zs.map (·.2)).Nodup := by
  rw [(h.map _).nodup_iff]
  simp [List.nodup_range']

/-- What is listed for the parts of an expression, and then the expression itself. -/
theorem Listed.expr {e : Expr} {zs : List (Expr × ℕ)} {os : List (List ℕ × CallSite)}
    (h : Listed zs os) (hzs : zs ~ e.parts.zipIdx)
    (hcalls : e.calls = (zs.map (·.1)).flatMap Expr.calls ++ e.site?.toList) :
    e.Listed (os ++ e.site?.toList.map fun c => ([], c)) where
  sites := by
    rw [List.map_append, h.sites, hcalls, List.flatMap_map, List.map_map]
    exact congrArg _ (List.map_id _)
  mem_iff path c := by
    rw [List.mem_append, h.mem_iff, occursAt_perm hzs, ← callAt?_eq_some]
    cases path with
    | nil => simp [Expr.at?, callAt?]
    | cons n rest => simp [Expr.at?, callAt?]
  inner := by
    refine List.pairwise_append.2 ⟨h.inner, ?_, fun a ha b hb hprefix => ?_⟩
    · cases e.site? with
      | none => exact .nil
      | some c => exact List.pairwise_singleton _ _
    · obtain ⟨c, -, rfl⟩ := List.mem_map.1 hb
      obtain ⟨part, n, rest, -, hpath, -⟩ := (h.mem_iff a.1 a.2).1 ha
      rw [hpath] at hprefix
      simp at hprefix

/-- **The calls of an expression can be listed with their paths.** -/
theorem Expr.exists_listed (e : Expr) : ∃ os, e.Listed os := by
  -- the parts are smaller
  induction h : sizeOf e using Nat.strong_induction_on generalizing e with
  | _ size ih =>
    obtain ⟨ps, hperm, hcalls⟩ := e.calls_eq
    obtain ⟨zs, rfl, hzs⟩ := exists_numbering hperm
    have hparts : ∀ x ∈ zs, ∃ os, x.1.Listed os := by
      intro x hx
      have hpart : x.1 ∈ e.parts := hperm.mem_iff.1 (List.mem_map_of_mem hx)
      exact ih _ (h ▸ sizeOf_part_lt hpart) x.1 rfl
    obtain ⟨os, hos⟩ := exists_listed_of hparts (nodup_numbers hzs)
    exact ⟨_, hos.expr hzs hcalls⟩

/-- **The calls of numbered expressions can be listed with their paths.** -/
theorem exists_listed {es : List (Expr × ℕ)} (h : (es.map (·.2)).Nodup) : ∃ os, Listed es os :=
  exists_listed_of (fun x _ => x.1.exists_listed) h

end CallReach.Source
