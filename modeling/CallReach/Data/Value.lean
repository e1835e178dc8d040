import CallReach.Data.Entries
import CallReach.Decimal.Shortest
import CallReach.Text.Quoted

/-!
# Plain data

`Value` is the data that descriptions, settings and reports are made of.  Maps keep their entries in
order of arrival.  `Value.shown` is the text of a value in messages.
-/

namespace CallReach.Data

open CallReach.Decimal (Double)

/-- A plain value. -/
inductive Value where
  | null
  | bool (b : Bool)
  | int (n : Int)
  | float (x : Double)
  | text (s : String)
  /-- A date or a time, by its text. -/
  | moment (s : String)
  | list (items : List Value)
  | map (entries : List (Value × Value))
  deriving Inhabited

namespace Value

/-- The text of a truth value. -/
def boolText (b : Bool) : String := if b then "True" else "False"

mutual

/-- The text of a value in messages: texts between quotes, lists between brackets, maps between
braces. -/
def shown : Value → String
  | .null => "None"
  | .bool b => boolText b
  | .int n => toString n
  | .float x => x.text
  | .text s => Text.quoted s
  | .moment s => s
  | .list items => "[" ++ ", ".intercalate (shownItems items) ++ "]"
  | .map entries => "\x7b" ++ ", ".intercalate (shownEntries entries) ++ "\x7d"

/-- The texts of the items of a list. -/
def shownItems : List Value → List String
  | [] => []
  | v :: rest => shown v :: shownItems rest

/-- The texts of the entries of a map. -/
def shownEntries : List (Value × Value) → List String
  | [] => []
  | (k, v) :: rest => (shown k ++ ": " ++ shown v) :: shownEntries rest

end

/-- The text of a value on its own: a text stands for itself, without quotes. -/
def plain : Value → String
  | .text s => s
  | v => v.shown

/-- Whether a value counts as true: not null, not false, not zero and not empty. -/
def truthy : Value → Bool
  | .null => false
  | .bool b => b
  | .int n => n != 0
  | .float x => !x.isZero
  | .text s => !s.isEmpty
  | .moment _ => true
  | .list items => !items.isEmpty
  | .map entries => !entries.isEmpty

/-- The number a truth value or an integer stands for when keys are compared. -/
def asInt? : Value → Option Int
  | .bool b => some (if b then 1 else 0)
  | .int n => some n
  | .float x => x.toInt?
  | _ => none

/-- Whether two values are the same key of a map: numbers and truth values of equal worth are. -/
def sameKey (a b : Value) : Bool :=
  match a, b with
  | .null, .null => true
  | .text s, .text t => s == t
  | .moment s, .moment t => s == t
  | .float x, .float y => x == y || (x.isZero && y.isZero)
  | a, b =>
    match a.asInt?, b.asInt? with
    | some m, some n => m == n
    | _, _ => false

/-- The entries of a map under text keys, in order. -/
def field? (v : Value) (key : String) : Option Value :=
  match v with
  | .map entries =>
    (entries.find? fun e => match e.1 with | .text k => k == key | _ => false).map (·.2)
  | _ => none

/-- A map with text keys. -/
def record (fields : List (String × Value)) : Value :=
  .map (fields.map fun (k, v) => (.text k, v))

/-- A natural number. -/
def nat (n : Nat) : Value := .int n

/-- A text or nothing. -/
def optText : Option String → Value
  | none => .null
  | some s => .text s

/-- A list of texts. -/
def texts (items : List String) : Value := .list (items.map .text)

end Value

end CallReach.Data
