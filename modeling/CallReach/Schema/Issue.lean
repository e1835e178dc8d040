import CallReach.Data.Value

/-!
# Issues of a description

Data from outside is checked against a schema, and every violation is reported as an issue: where it
is, what kind of violation it is, and a text.
-/

namespace CallReach.Schema

open CallReach.Data (Value)

/-- The kinds of violation. -/
inductive Problem where
  | missing
  | extraForbidden
  | invalidKey
  | modelType (model : String)
  | dictType
  | listType
  | stringType
  | boolType
  | boolParsing
  | intType
  | intParsing
  | intParsingSize
  | intFromFloat
  | finiteNumber
  | greaterThanEqual (bound : Int)
  | valueError (text : String)
  deriving DecidableEq, Repr

namespace Problem

/-- The word for a kind of violation. -/
def code : Problem → String
  | .missing => "missing"
  | .extraForbidden => "extra_forbidden"
  | .invalidKey => "invalid_key"
  | .modelType _ => "model_type"
  | .dictType => "dict_type"
  | .listType => "list_type"
  | .stringType => "string_type"
  | .boolType => "bool_type"
  | .boolParsing => "bool_parsing"
  | .intType => "int_type"
  | .intParsing => "int_parsing"
  | .intParsingSize => "int_parsing_size"
  | .intFromFloat => "int_from_float"
  | .finiteNumber => "finite_number"
  | .greaterThanEqual _ => "greater_than_equal"
  | .valueError _ => "value_error"

/-- The text of a violation. -/
def message : Problem → String
  | .missing => "Field required"
  | .extraForbidden => "Extra inputs are not permitted"
  | .invalidKey => "Keys should be strings"
  | .modelType model => "Input should be a valid dictionary or instance of " ++ model
  | .dictType => "Input should be a valid dictionary"
  | .listType => "Input should be a valid list"
  | .stringType => "Input should be a valid string"
  | .boolType => "Input should be a valid boolean"
  | .boolParsing => "Input should be a valid boolean, unable to interpret input"
  | .intType => "Input should be a valid integer"
  | .intParsing => "Input should be a valid integer, unable to parse string as an integer"
  | .intParsingSize => "Unable to parse input string as an integer, exceeded maximum size"
  | .intFromFloat => "Input should be a valid integer, got a number with a fractional part"
  | .finiteNumber => "Input should be a finite number"
  | .greaterThanEqual bound => "Input should be greater than or equal to " ++ toString bound
  | .valueError text => "Value error, " ++ text

end Problem

/-- One item of a place in the data: a key or an index. -/
inductive Place where
  | key (s : String)
  | index (n : Int)
  deriving DecidableEq, Repr

/-- A violation and where it is. -/
structure Issue where
  place : List Place
  problem : Problem
  deriving DecidableEq, Repr

/-- The issue one level further out. -/
def Issue.under (p : Place) (i : Issue) : Issue := { i with place := p :: i.place }

/-- A checked value, or all its issues in order. -/
inductive Checked (α : Type) where
  | ok (value : α)
  | bad (issues : List Issue)

namespace Checked

variable {α β : Type}

/-- A single issue at the value itself. -/
def fail (p : Problem) : Checked α := .bad [⟨[], p⟩]

/-- The issues, none for a good value. -/
def issues : Checked α → List Issue
  | .ok _ => []
  | .bad is => is

/-- The same check seen from one level further out. -/
def under (p : Place) : Checked α → Checked α
  | .ok a => .ok a
  | .bad is => .bad (is.map (Issue.under p))

/-- A good value passed on. -/
def map (f : α → β) : Checked α → Checked β
  | .ok a => .ok (f a)
  | .bad is => .bad is

/-- A further check of a good value. -/
def andThen (a : Checked α) (f : α → Checked β) : Checked β :=
  match a with
  | .ok a => f a
  | .bad is => .bad is

/-- Two independent checks: the issues of both count. -/
def both (a : Checked α) (b : Checked β) : Checked (α × β) :=
  match a, b with
  | .ok a, .ok b => .ok (a, b)
  | a, b => .bad (a.issues ++ b.issues)

/-- Independent checks in order. -/
def all : List (Checked α) → Checked (List α)
  | [] => .ok []
  | c :: rest => (both c (all rest)).map fun (a, as) => a :: as

end Checked

end CallReach.Schema
