/-!
# Severities

Every log record has a severity.  A log shows the records whose rank reaches its threshold, which is
a rank or any other integer; the threshold zero stands for that of warnings.
-/

namespace CallReach.Log

/-- How much a record matters. -/
inductive Severity where
  | debug
  | info
  | warning
  | error
  | critical
  deriving DecidableEq, Repr, Inhabited

namespace Severity

/-- The severities from the least on. -/
def all : List Severity := [.debug, .info, .warning, .error, .critical]

/-- The rank that thresholds are compared with. -/
def rank : Severity → Int
  | .debug => 10
  | .info => 20
  | .warning => 30
  | .error => 40
  | .critical => 50

/-- The name that a severity is chosen by. -/
def name : Severity → String
  | .debug => "debug"
  | .info => "info"
  | .warning => "warning"
  | .error => "error"
  | .critical => "critical"

/-- The name of a severity in records. -/
def label : Severity → String
  | .debug => "DEBUG"
  | .info => "INFO"
  | .warning => "WARNING"
  | .error => "ERROR"
  | .critical => "CRITICAL"

/-- The severity with a given name. -/
def ofName? (s : String) : Option Severity := all.find? (·.name == s)

end Severity

/-- The name of a threshold. -/
def thresholdLabel (threshold : Int) : String :=
  match Severity.all.find? (·.rank == threshold) with
  | some s => s.label
  | none => if threshold == 0 then "NOTSET" else "Level " ++ toString threshold

/-- A threshold lowered for runs that tell more: to that of debugging, or at most to that of
information. -/
def lowered (threshold : Int) (verbose debug : Bool := false) : Int :=
  if debug then Severity.debug.rank
  else if verbose then min threshold Severity.info.rank
  else threshold

/-- Whether a record of a severity reaches a threshold. -/
def reaches (s : Severity) (threshold : Int) : Bool :=
  s.rank ≥ (if threshold == 0 then Severity.warning.rank else threshold)

end CallReach.Log
