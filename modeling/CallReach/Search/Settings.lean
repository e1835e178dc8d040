import CallReach.Schema.Check
import CallReach.Search.Config

/-!
# Search settings

The settings of a search as they stand in a configuration file: the three bounds and the step cost,
which is one number or a number for each kind of position.

Main definitions:

* `Settings.check` — reads settings; `Settings.override` — replaces some of them.
* `Settings.configure` — makes a configuration of settings, whose weights and bounds are checked once
  more.
* `Settings.toConfig` — the configuration that settings stand for, without a check.
-/

namespace CallReach

open CallReach.Data (Value Entries)
open CallReach.Schema (Checked)

/-- The step cost of a settings file: one for all positions, or weights by name. -/
inductive CostSetting where
  | uniform (n : Nat)
  | byKind (weights : List (String × Nat))
  deriving DecidableEq, Repr, Inhabited

/-- The settings of a search. -/
structure Settings where
  maxDistance : Nat := 10000
  maxIterations : Nat := 100000
  maxQueueLength : Nat := 10000
  stepCost : CostSetting := .uniform 1
  deriving DecidableEq, Repr, Inhabited

namespace CostSetting

/-- The name of the weight of all other kinds. -/
def defaultKey : String := "default"

/-- The names a weight may have, in alphabetical order. -/
def allowedKeys : List String := ["call", "default", "other", "return", "terminator"]

/-- The weight that the last of the entries with a given name in lower case has. -/
def weight? (weights : List (String × Nat)) (name : String) : Option Nat :=
  (weights.reverse.find? fun (key, _) => Text.lower key == name).map (·.2)

/-- The weights by kind. -/
def toWeights : CostSetting → Weights
  | .uniform n => { default := n }
  | .byKind weights =>
    { entries := Kind.all.filterMap fun k => (weight? weights k.name).map fun n => (k, n)
      default := (weight? weights defaultKey).getD 1 }

/-- The weights by name in lower case, and apart from them that of all other kinds.  Of names that are
the same in lower case the last one counts, at the place of the first. -/
def parts : CostSetting → Entries String Nat × Nat
  | .uniform n => ([], n)
  | .byKind weights =>
    let lowered := Entries.ofList (weights.map fun (key, n) => (Text.lower key, n))
    (lowered.filter (·.1 != defaultKey), (lowered.get? defaultKey).getD 1)

/-- The step cost as plain data. -/
def toValue : CostSetting → Value
  | .uniform n => .nat n
  | .byKind weights => .record (weights.map fun (k, n) => (k, .nat n))

/-- The first thing wrong with weights by name. -/
def weightsError? (weights : List (String × Int)) : Option String :=
  weights.findSome? fun (key, n) =>
    if !allowedKeys.contains (Text.lower key) then
      some ("unknown step_cost key '" ++ key ++ "' (allowed: " ++
        ", ".intercalate allowedKeys ++ ")")
    else if n < 0 then some ("step_cost for '" ++ key ++ "' must be non-negative")
    else none

/-- Reads a step cost: an integer, or a map to integers.  When it is neither, the issues of both
readings are reported. -/
def check (v : Value) : Checked CostSetting :=
  match Schema.checkInt v, Schema.checkMap Schema.checkInt v with
  | .ok n, _ =>
    if n < 0 then .fail (.valueError "step_cost must be non-negative")
    else .ok (.uniform n.toNat)
  | _, .ok weights =>
    match weightsError? weights with
    | some text => .fail (.valueError text)
    | none => .ok (.byKind (weights.map fun (k, n) => (k, n.toNat)))
  | .bad is, .bad js =>
    .bad (is.map (·.under (.key "int")) ++ js.map (·.under (.key "dict[str,int]")))

end CostSetting

namespace Settings

/-- The configuration that settings stand for. -/
def toConfig {P B F : Type} (s : Settings) (G : Graph P B F) : Config P where
  maxDistance := s.maxDistance
  maxIterations := s.maxIterations
  maxQueueLength := s.maxQueueLength
  cost := s.stepCost.toWeights.stepCost G

/-- Makes a configuration of settings.  Their weights and bounds are checked like those that come from
outside. -/
def configure {P B F : Type} (s : Settings) (G : Graph P B F) : Except ConfigError (Config P) := do
  let (weights, default) := s.stepCost.parts
  let weights ← Weights.ofValues (weights.map fun (name, n) => (.inr name, .nat n)) (.nat default)
  Config.ofFields [("max_distance", .nat s.maxDistance), ("max_iterations", .nat s.maxIterations),
    ("max_queue_length", .nat s.maxQueueLength)] (some (weights.stepCost G))

/-- Settings as plain data. -/
def toFields (s : Settings) : List (String × Value) :=
  [("max_distance", .nat s.maxDistance), ("max_iterations", .nat s.maxIterations),
    ("max_queue_length", .nat s.maxQueueLength), ("step_cost", s.stepCost.toValue)]

/-- Reads settings. -/
def check : Value → Checked Settings :=
  Schema.checkRecord "SearchSettings" Config.settingNames fun get =>
    let defaults : Settings := {}
    let natural (name : String) (default : Nat) := Schema.optional get name default Schema.checkNatural
    let distance := natural "max_distance" defaults.maxDistance
    let iterations := natural "max_iterations" defaults.maxIterations
    let queue := natural "max_queue_length" defaults.maxQueueLength
    let cost := Schema.optional get "step_cost" defaults.stepCost CostSetting.check
    (distance.both (iterations.both (queue.both cost))).map
      fun (maxDistance, maxIterations, maxQueueLength, stepCost) =>
        { maxDistance, maxIterations, maxQueueLength, stepCost }

/-- The overrides that say something: those that are not null. -/
def changes (overrides : List (String × Value)) : List (String × Value) :=
  overrides.filter fun (_, v) => match v with | .null => false | _ => true

/-- Settings with some values replaced, checked as a whole. -/
def override (s : Settings) (overrides : List (String × Value)) : Checked Settings :=
  match changes overrides with
  | [] => .ok s
  | changed => check (.record (Entries.ofList (s.toFields ++ changed)))

end Settings

end CallReach
