import CallReach.Json.Writer
import CallReach.Report.Clock
import CallReach.Report.Summary

/-!
# Reports as JSON

One object with the reports, the moment they were made, and their summary.
-/

namespace CallReach.Report

open CallReach.Data (Value)

/-- What a JSON document holds and how it is laid out. -/
structure JsonOptions where
  pretty : Bool := false
  summary : Bool := true
  timestamp : Bool := true
  deriving DecidableEq, Repr

/-- The document of some reports. -/
def document (options : JsonOptions) (clock : Clock) (reports : List Value) :
    Except RecordError Value := do
  let records ← reports.mapM fun r =>
    match r with
    | .map _ => pure r
    | _ => throw .unfit
  let time := if options.timestamp then [("timestamp", .text clock.compact)] else []
  let summary ← if options.summary then do
    pure [("summary", (← Summary.ofReports reports).toValue)]
    else pure []
  pure (.record ([("reports", .list records)] ++ time ++ summary))

/-- Some reports as JSON text. -/
def json (options : JsonOptions) (clock : Clock) (reports : List Value) :
    Except RecordError String := do
  pure (Json.write (if options.pretty then .indented 2 else .line)
    (← document options clock reports))

end CallReach.Report
