/-!
# Entries in order of arrival

A list of pairs used as a map: a key keeps the place of its first arrival, and a later value for the
same key replaces the earlier one there.
-/

namespace CallReach.Data

/-- Key and value pairs in order of first arrival. -/
abbrev Entries (κ α : Type) := List (κ × α)

namespace Entries

variable {κ α : Type}

/-- Adds a pair under a given notion of equal keys: an equal key keeps its own spelling and place
and takes the new value. -/
def putBy (same : κ → κ → Bool) (key : κ) (value : α) : Entries κ α → Entries κ α
  | [] => [(key, value)]
  | (k, v) :: rest => if same k key then (k, value) :: rest else (k, v) :: putBy same key value rest

/-- Adds a pair, or replaces the value of a key that is there. -/
def put [BEq κ] (entries : Entries κ α) (key : κ) (value : α) : Entries κ α :=
  putBy (· == ·) key value entries

/-- The value of a key. -/
def get? [BEq κ] (entries : Entries κ α) (key : κ) : Option α :=
  (entries.find? (·.1 == key)).map (·.2)

/-- Whether a key is there. -/
def has [BEq κ] (entries : Entries κ α) (key : κ) : Bool :=
  entries.any (·.1 == key)

/-- The pairs added one after the other. -/
def ofList [BEq κ] (pairs : List (κ × α)) : Entries κ α :=
  pairs.foldl (fun entries (k, v) => entries.put k v) []

end Entries

end CallReach.Data
