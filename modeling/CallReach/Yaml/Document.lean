import CallReach.Yaml.Node

/-!
# YAML documents as data

The value of a document.  A merge key adds the entries of other mappings before the mapping's own; a
key that comes twice keeps its first place and its last value.
-/

namespace CallReach.Yaml

open CallReach.Data (Value Entries)

/-- Whether a node is a merge key. -/
def Node.isMerge : Node → Bool
  | .scalar .merge _ => true
  | _ => false

/-- Whether a value can be a key. -/
def isKey : Value → Bool
  | .list _ => false
  | .map _ => false
  | _ => true

/-- Entries in which a repeated key keeps its first place and its last value. -/
def distinct (entries : List (Value × Value)) : List (Value × Value) :=
  entries.foldl (fun done (k, v) => Entries.putBy Value.sameKey k v done) []

mutual

/-- The value of a node. -/
def Node.toValue : Node → Except Failure Value
  | .scalar tag text => scalarValue tag text
  | .sequence tag items =>
    if tag = .sequence then (valuesOf items).map .list else .error .malformed
  | .mapping tag entries =>
    if tag = .mapping then
      (entriesOf entries).map fun (merged, own) => .map (distinct (merged ++ own))
    else .error .malformed

/-- The values of nodes. -/
def valuesOf : List Node → Except Failure (List Value)
  | [] => .ok []
  | n :: rest => do
    let v ← n.toValue
    return v :: (← valuesOf rest)

/-- The entries that a mapping merges from others, and its own. -/
def entriesOf : List (Node × Node) → Except Failure (List (Value × Value) × List (Value × Value))
  | [] => .ok ([], [])
  | (k, v) :: rest => do
    if k.isMerge then
      let merged ← mergedEntries v
      let (others, own) ← entriesOf rest
      return (merged ++ others, own)
    else
      let key ← match k with
        | .scalar .value text => pure (.text text)
        | k => k.toValue
      if !isKey key then throw .malformed
      let value ← v.toValue
      let (merged, own) ← entriesOf rest
      return (merged, (key, value) :: own)

/-- The entries that a merge key adds: those of a mapping, or those of the mappings of a sequence, the
last one first. -/
def mergedEntries : Node → Except Failure (List (Value × Value))
  | .mapping _ entries => (entriesOf entries).map fun (merged, own) => merged ++ own
  | .sequence _ items => mergedInTurn items
  | .scalar _ _ => .error .malformed

/-- The entries of the mappings of a sequence, the last one first. -/
def mergedInTurn : List Node → Except Failure (List (Value × Value))
  | [] => .ok []
  | .mapping _ entries :: rest => do
    let (merged, own) ← entriesOf entries
    return (← mergedInTurn rest) ++ merged ++ own
  | _ :: _ => .error .malformed

end

/-- The value that a text consists of; a text without a document stands for nothing. -/
def parse (text : String) : Except Failure Value := do
  match ← Node.ofTokens (← Token.scan text) with
  | some n => n.toValue
  | none => return .null

end CallReach.Yaml
