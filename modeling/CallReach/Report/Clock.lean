/-!
# The moment of a run

A run is told the moment it takes place at, as texts: reports are dated in universal time, the
command says when it starts in local time, and every log record has a stamp.
-/

namespace CallReach

/-- The texts of the moment of a run. -/
structure Clock where
  /-- The date in universal time, `YYYY-MM-DD`. -/
  date : String
  /-- The time of day in universal time, `HH:MM:SS`. -/
  time : String
  /-- The local date and time of day. -/
  localTime : String
  /-- The stamp of a log record. -/
  stamp : String
  deriving DecidableEq, Repr, Inhabited

namespace Clock

/-- The moment for readers. -/
def readable (c : Clock) : String := c.date ++ " " ++ c.time ++ " UTC"

/-- The moment in one word. -/
def compact (c : Clock) : String := c.date ++ "T" ++ c.time ++ "+00:00"

end Clock

end CallReach
