import CallReach.Data.Value
import CallReach.Graph.Basic

/-!
# Bounds and step costs

A search is bounded by the distance of the nearest pending state, by the number of expansions and by
the length of the frontier.  The step cost of a position is what leaving it adds to the distance; a
cost may answer with something that is no natural number, which the search reports when it happens.

Main definitions:

* `Config` — the three bounds and the step cost.
* `Config.ofFields` — a configuration from named values, as they come from outside.
* `Weights` — a cost for every kind of position.
-/

namespace CallReach

open CallReach.Data (Value)

/-- Why a configuration is refused. -/
inductive ConfigError where
  /-- A named quantity is not a natural number. -/
  | notNatural (name shown : String)
  /-- A step cost is given that is no function. -/
  | costNotCallable
  /-- A weight is given for an unknown kind. -/
  | unknownKind (name : String)
  /-- There is no such setting. -/
  | unknownSetting (name : String)
  deriving DecidableEq, Repr

namespace ConfigError

/-- The text of the error. -/
def message : ConfigError → String
  | .notNatural name shown => name ++ " must be a non-negative integer, got " ++ shown
  | .costNotCallable => "step_cost must be callable"
  | .unknownKind name =>
    "unknown position kind '" ++ name ++ "' (expected one of: " ++
      ", ".intercalate (Kind.all.map (·.name)) ++ ")"
  | .unknownSetting name => "unknown setting '" ++ name ++ "'"

end ConfigError

/-- The natural number a value is; truth values and floating-point numbers are none. -/
def natural? : Value → Option Nat
  | .int n => if n < 0 then none else some n.toNat
  | _ => none

/-- A named value that has to be a natural number. -/
def requireNatural (name : String) (v : Value) : Except ConfigError Nat :=
  match natural? v with
  | some n => .ok n
  | none => .error (.notNatural name v.shown)

/-- The cost of leaving a position, or the text of an answer that is no cost. -/
abbrev StepCost (P : Type) := P → Except String Nat

namespace StepCost

variable {P : Type}

/-- Every step costs the same. -/
def uniform (n : Nat) : StepCost P := fun _ => .ok n

/-- A value as a cost. -/
def ofValue (v : Value) : Except String Nat :=
  match natural? v with
  | some n => .ok n
  | none => .error v.shown

/-- Costs by the name of a position; the name `*` stands for all others, which otherwise cost 1. -/
def table (nameOf : P → String) (entries : List (String × Value)) : StepCost P := fun p =>
  let find (name : String) := (entries.find? (·.1 == name)).map (·.2)
  ofValue ((find (nameOf p) <|> find "*").getD (.int 1))

end StepCost

/-- Costs by kind: the later of two weights for a kind counts, and a kind without one has the
default. -/
structure Weights where
  entries : List (Kind × Nat) := []
  default : Nat := 1
  deriving DecidableEq, Repr

namespace Weights

/-- The cost of a kind. -/
def of (w : Weights) (k : Kind) : Nat :=
  ((w.entries.reverse.find? (·.1 == k)).map (·.2)).getD w.default

/-- The step cost by the kinds of positions; a position of no kind has the default. -/
def stepCost {P B F : Type} (w : Weights) (G : Graph P B F) : StepCost P := fun p =>
  match G.kindOf p with
  | .ok k => .ok (w.of k)
  | .error _ => .ok w.default

/-- The kind that a key of a table of weights names. -/
def kindOfKey (key : String) : Except ConfigError Kind :=
  match Kind.ofName? (Text.lower key) with
  | some k => .ok k
  | none => .error (.unknownKind key)

/-- Weights from values: a key is a kind, or the name of one in any case. -/
def ofValues (entries : List ((Kind ⊕ String) × Value)) (default : Value) :
    Except ConfigError Weights := do
  let entries ← entries.mapM fun (key, v) => do
    let kind ← match key with
      | .inl kind => pure kind
      | .inr name => kindOfKey name
    let n ← requireNatural ("weight for " ++ kind.name) v
    pure (kind, n)
  let default ← requireNatural "default weight" default
  pure { entries, default }

end Weights

/-- The bounds of a search and its step cost. -/
structure Config (P : Type) where
  maxDistance : Nat := 10000
  maxIterations : Nat := 100000
  maxQueueLength : Nat := 10000
  cost : StepCost P := StepCost.uniform 1

namespace Config

variable {P B F : Type}

/-- The names of the settings. -/
def settingNames : List String :=
  ["max_distance", "max_iterations", "max_queue_length", "step_cost"]

/-- A configuration from named values and a step cost.  `none` in place of a step cost is one that
is no function. -/
def ofFields (fields : List (String × Value)) (cost : Option (StepCost P)) :
    Except ConfigError (Config P) := do
  match fields.find? fun (name, _) => !settingNames.contains name with
  | some (name, _) => throw (.unknownSetting name)
  | none => pure ()
  let natural (name : String) (default : Nat) : Except ConfigError Nat :=
    match fields.find? (·.1 == name) with
    | some (_, v) => requireNatural name v
    | none => pure default
  let defaults : Config P := {}
  let maxDistance ← natural "max_distance" defaults.maxDistance
  let maxIterations ← natural "max_iterations" defaults.maxIterations
  let maxQueueLength ← natural "max_queue_length" defaults.maxQueueLength
  match cost with
  | some cost => pure { maxDistance, maxIterations, maxQueueLength, cost }
  | none => throw .costNotCallable

/-- The cost of leaving a position. -/
def costOf (c : Config P) (G : Graph P B F) (p : P) : Except Fault Nat :=
  match c.cost p with
  | .ok n => .ok n
  | .error shown => .error (.badCost (G.describe p) shown)

end Config

end CallReach
