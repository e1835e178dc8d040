import CallReach.Data.Entries
import CallReach.Report.Record

/-!
# Summaries of reports

How many reports there are, how many found their target, the least distance among those, the sum of
the iterations, and how often each reason ended a search.
-/

namespace CallReach

open CallReach.Data (Value Entries)

/-- The summary of some reports. -/
structure Summary where
  queries : Nat := 0
  reachable : Nat := 0
  /-- The least distance of a target that was found. -/
  minDistance : Option Value := none
  totalIterations : Value := .int 0
  /-- How often each reason occurs, in order of first arrival. -/
  byReason : List (Value × Nat) := []

namespace Summary

/-- The reason of a report that gives none. -/
def unknownReason : Value := .text "unknown"

/-- Counts one more occurrence of a reason. -/
def count (counts : List (Value × Nat)) (reason : Value) : List (Value × Nat) :=
  let before := ((counts.find? fun (r, _) => r.sameKey reason).map (·.2)).getD 0
  Entries.putBy Value.sameKey reason (before + 1) counts

/-- How often each reason occurs among reports. -/
def countReasons (reports : List Value) : Except RecordError (List (Value × Nat)) :=
  reports.foldlM (fun counts report => do
    let reason := (← Record.get? report "stop_reason").getD unknownReason
    if Record.isKey reason then pure (count counts reason) else throw .unfit) []

/-- The least distance of some reports, the first one of equals. -/
def leastDistance (reports : List Value) : Except RecordError (Option Value) :=
  reports.foldlM (fun best report => do
    let distance ← Record.get report "distance"
    match best with
    | none => pure (some distance)
    | some least => pure (some (if ← Record.less distance least then distance else least))) none

/-- The summary of some reports. -/
def ofReports (reports : List Value) : Except RecordError Summary := do
  let found ← reports.filterM (Record.holds · "reachable")
  let byReason ← countReasons reports
  let minDistance ← leastDistance found
  let iterations ← reports.mapM fun r => do
    pure ((← Record.get? r "iterations").getD (.int 0))
  pure {
    queries := reports.length, reachable := found.length, minDistance,
    totalIterations := ← Record.total iterations, byReason }

/-- The number of reports that did not find their target. -/
def unreachable (s : Summary) : Nat := s.queries - s.reachable

/-- A summary as plain data. -/
def toValue (s : Summary) : Value :=
  .record [("queries", .nat s.queries), ("reachable", .nat s.reachable),
    ("unreachable", .nat s.unreachable), ("min_distance", s.minDistance.getD .null),
    ("total_iterations", s.totalIterations),
    ("by_stop_reason", .map (s.byReason.map fun (r, n) => (r, .nat n)))]

end Summary

end CallReach
