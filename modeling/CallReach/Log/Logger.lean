import CallReach.Log.Severity
import CallReach.Log.Template

/-!
# The log

Records go through named logs that are all parts of one root log and share its threshold, its template
and its file.  At most one file is attached at a time.
-/

namespace CallReach.Log

open CallReach.Data (Value)

/-- The name of the root log. -/
def rootName : String := "calldist"

/-- A template with the time and the name of the log. -/
def detailedTemplate : String := "%(asctime)s - %(name)s - %(levelname)s - %(message)s"

/-- A template with the severity only. -/
def plainTemplate : String := "%(levelname)s: %(message)s"

/-- The template that stands in for an empty one. -/
def bareTemplate : String := "%(message)s"

/-- How records are shown, and the file they go to besides. -/
structure Logger where
  threshold : Int := Severity.info.rank
  template : String := detailedTemplate
  /-- The path of the file that is attached. -/
  file : Option String := none
  deriving DecidableEq, Repr, Inhabited

/-- Whether a log is the root log or a part of it. -/
def isPart (name : String) : Bool :=
  name == rootName || (rootName ++ ".").toList.isPrefixOf name.toList

namespace Logger

/-- A record as the template lays it out, when it reaches the threshold. -/
def record? (l : Logger) (stamp name : String) (s : Severity) (text : String) : Option String :=
  if isPart name && reaches s l.threshold then
    Template.fill l.template (.named (.record [("name", .text name), ("msg", .text text),
      ("levelname", .text s.label), ("levelno", .int s.rank), ("message", .text text),
      ("asctime", .text stamp)]))
  else none

end Logger

end CallReach.Log
