import CallReach.Graph.OfProgram
import CallReach.Program.Reference
import CallReach.Search.Searcher
import CallReach.Search.Settings

/-!
# Distance queries and their reports

A query asks for the distance from a start to a target, inside a stack of calls.  An `Analysis` is a
program with the settings of its searches; it answers a query in four steps, each of which can fail
on its own: the settings are made a configuration, the references are resolved, the search is set up,
the search is run.  The answer is a `Report`, which is also plain data with fixed keys.
-/

namespace CallReach

open CallReach.Data (Value)

/-- A query whose references are resolved. -/
structure Query where
  start : Position
  target : Position
  /-- The calls pending at the start, the outermost first. -/
  calls : List Position := []
  deriving DecidableEq, Repr

/-- The answer to a query. -/
structure Report where
  /-- The program that was searched, by its path or its name. -/
  program : String
  query : Query
  result : SearchResult
  deriving DecidableEq, Repr

/-- Why a query has no answer. -/
inductive QueryError where
  | settings (cause : ConfigError)
  | reference (cause : ReferenceError)
  | search (cause : Fault)
  deriving DecidableEq, Repr

namespace Stats

/-- The counters under their names. -/
def toFields (s : Stats) : List (String × Value) :=
  [("iterations", .nat s.iterations), ("recursion_pruned", .nat s.recursionPruned),
    ("duplicates_dropped", .nat s.duplicatesDropped), ("queue_dropped", .nat s.queueDropped),
    ("peak_frontier", .nat s.peakFrontier)]

end Stats

namespace SearchResult

/-- The distance, or null when the target was not found. -/
def distanceValue (r : SearchResult) : Value :=
  match r.distance with
  | some d => .int d
  | none => .null

end SearchResult

namespace Report

/-- A report as plain data. -/
def toValue (r : Report) : Value :=
  .record [("program", .text r.program), ("start", .text r.query.start.ref),
    ("target", .text r.query.target.ref),
    ("initial_stack", .texts (r.query.calls.map Position.ref)),
    ("distance", r.result.distanceValue), ("reachable", .bool r.result.reachable),
    ("stop_reason", .text r.result.reason.name), ("iterations", .nat r.result.stats.iterations),
    ("stats", .record r.result.stats.toFields)]

end Report

/-- A program with the settings of its searches. -/
structure Analysis where
  program : Program
  settings : Settings := {}
  /-- The path the program was read from. -/
  path : Option String := none

namespace Analysis

/-- The program as reports name it: by a path that is not empty, else by its name. -/
def title (a : Analysis) : String :=
  match a.path with
  | some path => if path.isEmpty then a.program.name else path
  | none => a.program.name

/-- The configuration of the searches. -/
def config (a : Analysis) : Except ConfigError (Config Position) :=
  a.settings.configure a.program.graph

/-- Resolves the references of a query: the start, the target, then the calls. -/
def locate (a : Analysis) (start target : String) (calls : List String := []) :
    Except ReferenceError Query := do
  let start ← a.program.resolve start
  let target ← a.program.resolve target
  pure { start, target, calls := ← calls.mapM a.program.resolve }

/-- The search that answers a query. -/
def search (a : Analysis) (config : Config Position) (q : Query) :
    Except Fault (Searcher Position BlockName String) :=
  Searcher.create a.program.graph q.start q.target q.calls config

/-- The report on a query that was searched. -/
def report (a : Analysis) (q : Query) (result : SearchResult) : Report :=
  { program := a.title, query := q, result }

/-- The answer to a query. -/
def answer (a : Analysis) (config : Config Position) (q : Query) : Except Fault Report := do
  let searcher ← a.search config q
  a.report q <$> searcher.run.2

/-- Answers a query given by references. -/
def query (a : Analysis) (start target : String) (calls : List String := []) :
    Except QueryError Report := do
  let config ← a.config.mapError .settings
  let q ← (a.locate start target calls).mapError .reference
  (a.answer config q).mapError .search

/-- Answers one query for each start, until one has no answer. -/
def queryAll (a : Analysis) (starts : List String) (target : String) (calls : List String := []) :
    Except QueryError (List Report) :=
  starts.mapM fun start => a.query start target calls

end Analysis

end CallReach
