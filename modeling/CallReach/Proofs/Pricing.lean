import CallReach.Proofs.Entries
import CallReach.Proofs.Loaded
import CallReach.Search.Settings
import Mathlib.Data.Set.List

/-!
# What settings make a step cost

A settings file gives weights by name, in any case and any order, some of them twice.  They are
checked when they are read, and made a configuration later, which checks them again: by then the
names are in lower case, each stands there once, and the weight of all other kinds has been taken
out.

* `CostSetting.Prices` : what a step costs, read off the weights as they were given.
* `Settings.configure_eq` : the second check never fails.
* `settings_configure` : accepted settings make a configuration with their bounds and prices.
-/

namespace CallReach

open Data (Entries Value)

/-! ### What a step costs -/

namespace CostSetting

variable {weights : List (String × ℕ)} {name : String} {n : ℕ} {k : Kind}

/-- `n` is the weight of the last key that is `name` in lower case. -/
def Last (weights : List (String × ℕ)) (name : String) (n : ℕ) : Prop :=
  ∃ before key after, weights = before ++ (key, n) :: after ∧ Text.lower key = name ∧
    ∀ e ∈ after, Text.lower e.1 ≠ name

/-- No key is `name` in lower case. -/
def Absent (weights : List (String × ℕ)) (name : String) : Prop :=
  ∀ e ∈ weights, Text.lower e.1 ≠ name

/-- What a step from a position of a kind costs. -/
inductive Prices : CostSetting → Kind → ℕ → Prop
  /-- Every step costs the same. -/
  | uniform {n : ℕ} {k : Kind} : Prices (.uniform n) k n
  /-- The kind has a weight. -/
  | named {weights : List (String × ℕ)} {k : Kind} {n : ℕ} :
      Last weights k.name n → Prices (.byKind weights) k n
  /-- The kind has none, and there is a weight of all others. -/
  | others {weights : List (String × ℕ)} {k : Kind} {n : ℕ} :
      Absent weights k.name → Last weights defaultKey n → Prices (.byKind weights) k n
  /-- There is neither. -/
  | one {weights : List (String × ℕ)} {k : Kind} :
      Absent weights k.name → Absent weights defaultKey → Prices (.byKind weights) k 1

theorem weight?_eq_some : weight? weights name = some n ↔ Last weights name n := by
  simp only [weight?, Option.map_eq_some_iff, List.find?_eq_some_iff_append, beq_iff_eq,
    Bool.not_eq_true', beq_eq_false_iff_ne, Last]
  constructor
  · rintro ⟨⟨key, m⟩, ⟨hkey, after, before, heq, hafter⟩, rfl⟩
    refine ⟨before.reverse, key, after.reverse, ?_, hkey, fun e he => ?_⟩
    · simpa using congrArg List.reverse heq
    · exact hafter e (List.mem_reverse.1 he)
  · rintro ⟨before, key, after, rfl, hkey, hafter⟩
    refine ⟨(key, n), ⟨hkey, after.reverse, before.reverse, by simp, fun e he => ?_⟩, rfl⟩
    exact hafter e (List.mem_reverse.1 he)

theorem weight?_eq_none : weight? weights name = none ↔ Absent weights name := by
  simp [weight?, Absent]

/-- The price of a step, computed from the weights. -/
def price : CostSetting → Kind → ℕ
  | .uniform n, _ => n
  | .byKind weights, k => (weight? weights k.name).getD ((weight? weights defaultKey).getD 1)

theorem price_eq_iff {c : CostSetting} : c.price k = n ↔ c.Prices k n := by
  constructor
  · rintro rfl
    cases c with
    | uniform n => exact .uniform
    | byKind weights =>
      cases hk : weight? weights k.name with
      | some n => simpa [price, hk] using Prices.named (weight?_eq_some.1 hk)
      | none =>
        have habsent := weight?_eq_none.1 hk
        cases hd : weight? weights defaultKey with
        | some n => simpa [price, hk, hd] using Prices.others habsent (weight?_eq_some.1 hd)
        | none => simpa [price, hk, hd] using Prices.one habsent (weight?_eq_none.1 hd)
  · intro h
    cases h with
    | uniform => rfl
    | named hlast => simp [price, weight?_eq_some.2 hlast]
    | others habsent hlast =>
      simp [price, weight?_eq_none.2 habsent, weight?_eq_some.2 hlast]
    | one habsent hnone => simp [price, weight?_eq_none.2 habsent, weight?_eq_none.2 hnone]

end CostSetting

/-! ### Weights by kind -/

/-- Weights that agree with a partial map have its values, and elsewhere the default. -/
theorem Weights.of_eq {w : Weights} (h : (w.entries.map (·.1)).Nodup) {f : Kind → Option ℕ}
    (hf : ∀ k n, (k, n) ∈ w.entries ↔ f k = some n) (k : Kind) :
    w.of k = (f k).getD w.default := by
  -- with distinct kinds it does not matter from which end the list is read
  have hreverse : (w.entries.reverse.map (·.1)).Nodup := by
    rwa [List.map_reverse, List.nodup_reverse]
  have hget : Entries.get? w.entries.reverse k = f k := by
    ext n
    rw [Data.Entries.get?_eq_some_iff hreverse, List.mem_reverse, hf]
  exact congrArg (Option.getD · w.default) hget

namespace CostSetting

theorem toWeights_of (c : CostSetting) (k : Kind) : c.toWeights.of k = c.price k := by
  cases c with
  | uniform n => rfl
  | byKind weights =>
    refine Weights.of_eq (f := fun k => weight? weights k.name) ?_ (fun k n => ?_) k
    · have hkeys : ∀ ks : List Kind, ((ks.filterMap fun k =>
          (weight? weights k.name).map fun n => (k, n)).map (·.1)).Sublist ks := by
        intro ks
        induction ks with
        | nil => exact .slnil
        | cons k ks ih =>
          cases hk : weight? weights k.name with
          | none => simpa [hk] using ih.cons k
          | some n => simpa [hk] using ih.cons_cons k
      exact (hkeys Kind.all).nodup (by decide)
    · simp only [toWeights, List.mem_filterMap, Option.map_eq_some_iff, Prod.mk.injEq]
      constructor
      · rintro ⟨l, -, m, hm, rfl, rfl⟩
        exact hm
      · intro hn
        exact ⟨k, by cases k <;> decide, n, hn, rfl, rfl⟩

/-! ### Weights in lower case -/

/-- All names of weights are known. -/
def Allowed : CostSetting → Prop
  | .uniform _ => True
  | .byKind weights => ∀ e ∈ weights, Text.lower e.1 ∈ allowedKeys

theorem get?_lowered (weights : List (String × ℕ)) (name : String) :
    (Entries.ofList (weights.map fun e => (Text.lower e.1, e.2))).get? name =
      weight? weights name := by
  rw [Data.Entries.get?_ofList, ← List.map_reverse, List.find?_map, Option.map_map]
  rfl

theorem nodup_parts (c : CostSetting) : (c.parts.1.map (·.1)).Nodup := by
  cases c with
  | uniform n => exact List.nodup_nil
  | byKind weights =>
    exact (Data.Entries.nodup_ofList _).sublist (List.filter_sublist.map _)

/-- The named weights in lower case are those of other names than that of the default. -/
theorem mem_parts {weights : List (String × ℕ)} {name : String} {n : ℕ} :
    (name, n) ∈ (byKind weights).parts.1 ↔
      weight? weights name = some n ∧ name ≠ defaultKey := by
  rw [← get?_lowered, Data.Entries.get?_eq_some_iff (Data.Entries.nodup_ofList _)]
  simp [parts]

/-- What is taken out is the weight of all other kinds. -/
theorem parts_default (c : CostSetting) : c.parts.2 = c.toWeights.default := by
  cases c with
  | uniform n => rfl
  | byKind weights => exact congrArg (Option.getD · 1) (get?_lowered weights defaultKey)

/-- A name other than that of the default is the name of a kind. -/
theorem kind_of_allowed {name : String} (h : name ∈ allowedKeys) (hne : name ≠ defaultKey) :
    ∃ k : Kind, k.name = name := by
  simp only [allowedKeys, List.mem_cons, List.not_mem_nil, or_false] at h
  rcases h with rfl | rfl | rfl | rfl | rfl
  · exact ⟨.call, rfl⟩
  · exact absurd rfl hne
  · exact ⟨.other, rfl⟩
  · exact ⟨.ret, rfl⟩
  · exact ⟨.terminator, rfl⟩

theorem kind_of_mem_parts {c : CostSetting} (h : c.Allowed) {e : String × ℕ}
    (he : e ∈ c.parts.1) : ∃ k : Kind, k.name = e.1 := by
  cases c with
  | uniform n => cases he
  | byKind weights =>
    obtain ⟨hweight, hne⟩ := mem_parts.1 he
    obtain ⟨before, key, after, rfl, hkey, -⟩ := weight?_eq_some.1 hweight
    have hallowed : Text.lower key ∈ allowedKeys :=
      h (key, e.2) (List.mem_append_right _ List.mem_cons_self)
    exact kind_of_allowed (hkey ▸ hallowed) hne

end CostSetting

/-! ### The second check -/

/-- A weight under the name of its kind. -/
def Weights.named (e : Kind × ℕ) : String × ℕ := (e.1.name, e.2)

theorem Kind.name_injective : Function.Injective Kind.name := by
  intro k l
  cases k <;> cases l <;> decide

theorem Kind.ofKey_name (k : Kind) : Weights.kindOfKey k.name = .ok k := by
  cases k <;> decide +kernel

theorem requireNatural_nat (name : String) (n : ℕ) : requireNatural name (.nat n) = .ok n := by
  have hn : ¬ (n : Int) < 0 := Int.not_lt.2 (Int.natCast_nonneg n)
  simp [requireNatural, natural?, Value.nat, hn]

/-- Weights under the names of kinds pass. -/
theorem Weights.ofValues_named (es : List (Kind × ℕ)) (default : ℕ) :
    Weights.ofValues ((es.map Weights.named).map fun e => (.inr e.1, .nat e.2)) (.nat default) =
      .ok ⟨es, default⟩ := by
  rw [Weights.ofValues, bind_eq_ok]
  refine ⟨es, ?_, by simp [requireNatural_nat, bind, Except.bind, pure, Except.pure]⟩
  rw [mapM_eq_ok, List.map_map, List.forall₂_map_left_iff, List.forall₂_same]
  intro e _
  simp [Weights.named, Kind.ofKey_name, requireNatural_nat, bind, Except.bind, pure, Except.pure]

/-- The weights that a step cost is made into have its prices. -/
theorem CostSetting.exists_weights {c : CostSetting} (h : c.Allowed) :
    ∃ w : Weights, Weights.ofValues (c.parts.1.map fun e => (.inr e.1, .nat e.2))
      (.nat c.parts.2) = .ok w ∧ w.default = c.parts.2 ∧ ∀ k, w.of k = c.price k := by
  obtain ⟨es, hes⟩ : ∃ es : List (Kind × ℕ), es.map Weights.named = c.parts.1 := by
    have hrange : c.parts.1 ∈ Set.range (List.map Weights.named) := by
      rw [Set.range_list_map]
      intro e he
      obtain ⟨k, hk⟩ := kind_of_mem_parts h he
      exact ⟨(k, e.2), Prod.ext hk rfl⟩
    exact hrange
  refine ⟨⟨es, c.parts.2⟩, hes ▸ Weights.ofValues_named es _, rfl, fun k => ?_⟩
  cases c with
  | uniform n =>
    rw [List.map_eq_nil_iff.1 hes]
    rfl
  | byKind weights =>
    have hnodup : (es.map (·.1)).Nodup := by
      have hnames := nodup_parts (byKind weights)
      rw [← hes, List.map_map] at hnames
      exact List.Nodup.of_map Kind.name (by simpa [Function.comp_def, Weights.named] using hnames)
    have hmem : ∀ k n, (k, n) ∈ es ↔ weight? weights k.name = some n := by
      intro k n
      have hinj : Function.Injective Weights.named := fun a b hab =>
        Prod.ext (Kind.name_injective (congrArg Prod.fst hab)) (congrArg (·.2) hab)
      have hne : k.name ≠ defaultKey := by cases k <;> decide
      rw [← List.mem_map_of_injective hinj, hes]
      exact mem_parts.trans (and_iff_left hne)
    rw [Weights.of_eq hnodup hmem, price, parts_default, toWeights]

/-! ### Settings that are accepted -/

namespace Schema.Checked

variable {α β : Type}

theorem map_eq_ok {c : Checked α} {f : α → β} {b : β} :
    c.map f = .ok b ↔ ∃ a, c = .ok a ∧ f a = b := by
  cases c <;> simp [map]

theorem both_eq_ok {c : Checked α} {d : Checked β} {p : α × β} :
    c.both d = .ok p ↔ c = .ok p.1 ∧ d = .ok p.2 := by
  cases c <;> cases d <;> simp [both, Prod.ext_iff]

theorem under_eq_ok {c : Checked α} {place : Schema.Place} {a : α} :
    c.under place = .ok a ↔ c = .ok a := by
  cases c <;> simp [under]

/-- A field has its default or a value that its check lets pass. -/
theorem optional_eq_ok {get : String → Option Value} {name : String} {default a : α}
    {check : Value → Checked α} (h : Schema.optional get name default check = .ok a) :
    a = default ∨ ∃ v, check v = .ok a := by
  unfold Schema.optional at h
  split at h
  · cases h
    exact .inl rfl
  · exact .inr ⟨_, under_eq_ok.1 h⟩

end Schema.Checked

theorem CostSetting.allowed_of_check {v : Value} {c : CostSetting}
    (h : CostSetting.check v = .ok c) : c.Allowed := by
  unfold CostSetting.check at h
  split at h
  · split at h <;> cases h
    trivial
  · split at h
    · cases h
    · rename_i weights _ hnone
      cases h
      intro e he
      obtain ⟨⟨key, n⟩, hmem, rfl⟩ := List.mem_map.1 he
      have hpassed := List.findSome?_eq_none_iff.1 hnone _ hmem
      by_contra hkey
      simp [hkey] at hpassed
  · cases h

theorem Settings.allowed_of_check {v : Value} {s : Settings} (h : Settings.check v = .ok s) :
    s.stepCost.Allowed := by
  unfold Settings.check Schema.checkRecord at h
  split at h
  · obtain ⟨⟨t, _⟩, hboth, rfl⟩ := Schema.Checked.map_eq_ok.1 h
    obtain ⟨⟨_, _, _, cost⟩, hfields, rfl⟩ :=
      Schema.Checked.map_eq_ok.1 (Schema.Checked.both_eq_ok.1 hboth).1
    simp only [Schema.Checked.both_eq_ok] at hfields
    obtain ⟨-, -, -, hcost⟩ := hfields
    show cost.Allowed
    obtain rfl | ⟨v, hv⟩ := Schema.Checked.optional_eq_ok hcost
    · trivial
    · exact CostSetting.allowed_of_check hv
  · cases h

/-- Three bounds and a step cost make a configuration. -/
theorem Config.ofFields_bounds {P : Type} (distance iterations queue : ℕ) (cost : StepCost P) :
    Config.ofFields [("max_distance", .nat distance), ("max_iterations", .nat iterations),
      ("max_queue_length", .nat queue)] (some cost) = .ok ⟨distance, iterations, queue, cost⟩ := by
  have hnames : ∀ name ∈ ["max_distance", "max_iterations", "max_queue_length"],
      name ∈ Config.settingNames := by decide
  simp at hnames
  simp [Config.ofFields, hnames, requireNatural_nat, bind, Except.bind, pure, Except.pure]

/-- The second check never fails. -/
theorem Settings.configure_eq {s : Settings} (h : s.stepCost.Allowed) {P B F : Type}
    (G : Graph P B F) : s.configure G = .ok (s.toConfig G) := by
  obtain ⟨w, hw, hdefault, hof⟩ := CostSetting.exists_weights h
  have hcost : w.stepCost G = s.stepCost.toWeights.stepCost G := by
    funext p
    unfold Weights.stepCost
    cases G.kindOf p with
    | ok k => exact congrArg Except.ok ((hof k).trans (s.stepCost.toWeights_of k).symm)
    | error e => exact congrArg Except.ok (hdefault.trans s.stepCost.parts_default)
  rw [Settings.configure, bind_eq_ok]
  exact ⟨w, hw, hcost ▸ Config.ofFields_bounds _ _ _ _⟩

theorem Settings.costOf_eq (s : Settings) {M : Program} {p : Position} {i : Instruction}
    (hi : M.instruction? p = some i) :
    (s.toConfig M.graph).costOf M.graph p = .ok (s.stepCost.price i.kind) := by
  simp [Config.costOf, Settings.toConfig, Weights.stepCost, Program.kindOf_eq hi,
    CostSetting.toWeights_of]

/-- **Accepted settings make a configuration** of every program, without an error of the second check.
It keeps the three bounds.  Every instruction of the program has one price, which the configuration
finds without an error: the step cost if that is one number, else the weight of the last name that is
that of its kind in lower case, else that of the last name that is `default`, else one. -/
theorem settings_configure {v : Value} {s : Settings} (hs : Settings.check v = .ok s) (M : Program) :
    ∃ c, s.configure M.graph = .ok c ∧ c.maxDistance = s.maxDistance ∧
      c.maxIterations = s.maxIterations ∧ c.maxQueueLength = s.maxQueueLength ∧
      ∀ p i, M.instruction? p = some i →
        ∃ n, c.costOf M.graph p = .ok n ∧ ∀ m, s.stepCost.Prices i.kind m ↔ m = n := by
  refine ⟨_, Settings.configure_eq (Settings.allowed_of_check hs) M.graph, rfl, rfl, rfl, ?_⟩
  intro p i hi
  refine ⟨s.stepCost.price i.kind, s.costOf_eq hi, fun m => ?_⟩
  rw [← CostSetting.price_eq_iff, eq_comm]

/-- Settings with two weights for calls. -/
def Settings.overlapping : Settings where
  maxDistance := 40
  stepCost := .byKind [("call", 2), ("Default", 3), ("CALL", 7)]

/-- Of `call` and `CALL` the later one counts, and `Default` is for returns. -/
theorem settings_configure_overlapping :
    Settings.check (.record Settings.overlapping.toFields) = .ok Settings.overlapping ∧
    ∃ c, Settings.overlapping.configure Program.sample.graph = .ok c ∧ c.maxDistance = 40 ∧
      c.costOf Program.sample.graph ⟨"main", "a", 0⟩ = .ok 7 ∧
      c.costOf Program.sample.graph ⟨"main", "a", 1⟩ = .ok 3 := by
  have hs : Settings.check (.record Settings.overlapping.toFields) = .ok Settings.overlapping := rfl
  obtain ⟨c, hc, hdistance, -, -, hcost⟩ := settings_configure hs Program.sample
  obtain ⟨n, hn, hcall⟩ := hcost ⟨"main", "a", 0⟩ _ rfl
  obtain ⟨m, hm, hret⟩ := hcost ⟨"main", "a", 1⟩ _ rfl
  have hseven : Settings.overlapping.stepCost.Prices .call 7 :=
    .named ⟨[("call", 2), ("Default", 3)], "CALL", [], rfl, by decide +kernel, by simp⟩
  have hthree : Settings.overlapping.stepCost.Prices .ret 3 :=
    .others (by unfold CostSetting.Absent; decide +kernel)
      ⟨[("call", 2)], "Default", [("CALL", 7)], rfl, by decide +kernel, by decide +kernel⟩
  refine ⟨hs, c, hc, hdistance, ?_, ?_⟩
  · rw [hn, (hcall 7).1 hseven]
  · rw [hm, (hret 3).1 hthree]

end CallReach
