import CallReach.Data.Value

/-!
# Records

Reports and listings are laid out from plain data, so that data from elsewhere can be laid out too.
A record is a map with text keys that are looked up by name; `RecordError` says why a record cannot
be used.
-/

namespace CallReach

open CallReach.Data (Value)
open CallReach.Decimal (Double)

/-- Why a record cannot be used. -/
inductive RecordError where
  /-- A key that is needed is not there. -/
  | missing (key : String)
  /-- What should be a record is none. -/
  | notARecord
  /-- A value is of a kind that does not fit its use. -/
  | unfit
  deriving DecidableEq, Repr

namespace Record

/-- The value of a key, if it is there. -/
def get? (r : Value) (key : String) : Except RecordError (Option Value) :=
  match r with
  | .map _ => .ok (r.field? key)
  | _ => .error .notARecord

/-- The value of a key that must be there. -/
def get (r : Value) (key : String) : Except RecordError Value :=
  match r with
  | .map _ =>
    match r.field? key with
    | some v => .ok v
    | none => .error (.missing key)
  | _ => .error .unfit

/-- Whether a key is there with a value that counts as true. -/
def holds (r : Value) (key : String) : Except RecordError Bool := do
  pure (((← get? r key).map Value.truthy).getD false)

/-- A number in binary floating point; an integer is kept exactly. -/
def number? : Value → Option Double
  | .bool b => some (.finite false (if b then 1 else 0) 0)
  | .int n => some (.finite (n < 0) n.natAbs 0)
  | .float x => some x
  | _ => none

/-- Whether a value is less than another: numbers by size, texts in order of their characters.
Values of other kinds have no order. -/
def less (a b : Value) : Except RecordError Bool :=
  match a, b with
  | .text s, .text t => .ok (s < t)
  | a, b =>
    match number? a, number? b with
    | some x, some y => .ok (x.lt y)
    | _, _ => .error .unfit

/-- The sum of two numbers: an integer unless one of them is in floating point. -/
def plus (a b : Value) : Except RecordError Value :=
  match a, b with
  | .float x, .float y => .ok (.float (x.add y))
  | .float x, b =>
    match b.asInt? with
    | some n => .ok (.float (x.add (.ofInt n)))
    | none => .error .unfit
  | a, .float y =>
    match a.asInt? with
    | some m => .ok (.float ((Double.ofInt m).add y))
    | none => .error .unfit
  | a, b =>
    match a.asInt?, b.asInt? with
    | some m, some n => .ok (.int (m + n))
    | _, _ => .error .unfit

/-- The sum of some numbers. -/
def total (values : List Value) : Except RecordError Value :=
  values.foldlM plus (.int 0)

/-- Whether a value can be the key of a map. -/
def isKey : Value → Bool
  | .list _ | .map _ => false
  | _ => true

end Record

end CallReach
