import CallReach.Command.Arguments
import CallReach.Command.Session
import CallReach.Report.Console
import CallReach.Report.Json
import CallReach.Report.Listing

/-!
# Running the command

The command measures distances in a program or lists its positions.  `run` takes the arguments to an
ending; `runGuarded` logs a failure and ends with the code one.
-/

namespace CallReach.Command

open CallReach.Data (Value)
open CallReach.Report (Palette)

/-- How a run ends. -/
inductive Ending where
  /-- It comes to its end with a code. -/
  | done (code : Nat)
  /-- It shows a text that was asked for. -/
  | shown
  /-- It refuses its arguments: the usage and the complaint. -/
  | refused (usage complaint : String)
  /-- It fails. -/
  | failed (cause : Failure)
  deriving DecidableEq, Repr

/-- The code of an ending. -/
def Ending.code : Ending → Nat
  | .done code => code
  | .shown => 0
  | .refused .. => 2
  | .failed _ => 1

/-- Warns of a path whose ending does not say what the file holds. -/
def checkPath (path : String) : Job Unit :=
  if Path.isSource path || Path.isDescription path then pure ()
  else Job.log .warning
    ("[Args] Unrecognised program extension, reading " ++ path ++ " as YAML")

/-- Reads the settings of a run. -/
def readSettings (path : Option String) : Job Settings := do
  match path.filter (!·.isEmpty) with
  | none =>
    Job.log .debug "[Config] No configuration file given, using defaults"
    pure {}
  | some path =>
    Job.log .debug ("[Config] Loading configuration file: " ++ path)
    let settings ← Job.ofExcept .settings ((← get).disk.loadSettings path)
    Job.log .debug ("[Config] Loaded settings: " ++ (Value.record settings.toFields).shown)
    pure settings

/-- The settings of a run with those of its arguments in their place. -/
def overrideSettings (settings : Settings) (arguments : DistanceArguments) : Job Settings :=
  let number (n : Option Int) : Value := (n.map Value.int).getD .null
  match settings.override [("max_distance", number arguments.maxDistance),
      ("max_iterations", number arguments.maxIterations),
      ("max_queue_length", number arguments.maxQueueLength)] with
  | .ok settings => pure settings
  | .bad issues => throw (.override issues)

/-- Reads the program of a run. -/
def readProgram (path : String) : Job Program :=
  Job.watched .debug "calldist.program.loader.load_program" do
    let program ← Job.ofExcept .program ((← get).disk.loadProgram path)
    let size := toString program.functions.length
    Job.log .debug (if Path.isSource path then
        "Lowered " ++ program.name ++ ": " ++ size ++ " functions"
      else "Built module " ++ program.name ++ " with " ++ size ++ " functions")
    pure program

/-- The analysis of a run. -/
def readAnalysis (path : String) (settings : Settings := {}) : Job Analysis := do
  let program ← readProgram path
  pure { program, settings, path := some (Path.absolute (← get).disk.herePath path) }

/-- The log of searches. -/
def searchLog : String := "calldist.analysis.searcher"

/-- Answers a query. -/
def answer (a : Analysis) (start target : String) (calls : List String) : Job Report := do
  let config ← Job.ofExcept (.query ∘ .settings) a.config
  let q ← Job.ofExcept (.query ∘ .reference) (a.locate start target calls)
  let move := q.start.ref ++ " -> " ++ q.target.ref
  Job.log .debug ("Query " ++ move ++ " with stack " ++
    Text.quotedList (q.calls.map Position.ref))
  let searcher ← Job.ofExcept (.query ∘ .search) (a.search config q)
  Job.log .debug ("Searching from " ++ a.program.describePosition q.start ++ " to " ++
    a.program.describePosition q.target ++ " (stack depth " ++ toString q.calls.length ++ ")")
    searchLog
  let result ← Job.ofExcept (.query ∘ .search) searcher.run.2
  Job.log .debug ("Search finished: " ++ result.reason.name ++ ", distance=" ++
    result.distanceValue.shown ++ ", iterations=" ++ toString result.stats.iterations) searchLog
  Job.log .info (match result.distance with
    | some d => move ++ ": distance " ++ toString d
    | none => move ++ ": unreachable (" ++ result.reason.name ++ ")")
  pure (a.report q result)

/-- Answers one query for each start. -/
def answerAll (a : Analysis) (arguments : DistanceArguments) : Job (List Value) := do
  let reports ← arguments.starts.mapM fun start => do
    pure (← answer a start arguments.target arguments.calls).toValue
  Job.noteReports (.list reports)
  pure reports

/-- Writes a text to a file, or prints it when there is no path. -/
def deliver (path : Option String) (text : String) : Job Unit :=
  match path.filter (!·.isEmpty) with
  | none => Job.print (text ++ "\n")
  | some path => Job.onDisk (·.write path (text ++ "\n"))

/-- Delivers reports as JSON. -/
def deliverJson (options : Report.JsonOptions) (output : Option String) (reports : List Value) :
    Job Unit := do
  let text ← Job.ofExcept .record (Report.json options (← get).clock reports)
  deliver output text
  match output.filter (!·.isEmpty) with
  | some path => Job.log .debug ("Wrote JSON output to " ++ path)
  | none => pure ()

/-- Delivers a page of reports. -/
def deliverPage (color : Bool) (options : Report.ConsoleOptions) (output : Option String)
    (reports : List Value) : Job Unit := do
  let s ← get
  let text ← Job.ofExcept .record
    (Report.page (.choose color s.terminal) options s.clock reports)
  deliver output text

/-- Measures distances. -/
def runDistance (arguments : DistanceArguments) : Job Unit := do
  let path := arguments.common.program
  Job.log .info ("[Start] calldist distance at " ++ (← get).clock.localTime)
  Job.log .info ("[Args] Program: " ++ path)
  Job.log .info ("[Args] Starts: " ++ Text.quotedList arguments.starts ++ "  Target: " ++
    arguments.target ++ "  Stack: " ++ Text.quotedList arguments.calls)
  checkPath path
  let settings ← overrideSettings (← readSettings arguments.config) arguments
  let analysis ← readAnalysis path settings
  let reports ← answerAll analysis arguments
  if arguments.json then deliverJson { pretty := arguments.pretty } arguments.output reports
  else
    let color := !arguments.common.noColor && (arguments.output.getD "").isEmpty
    deliverPage color { stats := arguments.common.verbose } arguments.output reports

/-- Lists positions. -/
def runList (arguments : Common) : Job Unit := do
  checkPath arguments.program
  let analysis ← readAnalysis arguments.program
  let positions := analysis.program.listing
  Job.noteResult "list_positions" (.list positions)
  let palette := Palette.choose (!arguments.noColor) (← get).terminal
  deliver none (← Job.ofExcept .record (Report.positionPage palette positions))

/-- Sets up the log for a command. -/
def setUp (arguments : Common) : Job Unit :=
  Job.configureRun arguments.logFile arguments.verbose arguments.debug

/-- Runs a command. -/
def runInvocation : Invocation → Job Unit
  | .help => Job.print (textOfLines mainHelpLines)
  | .distance arguments => do
    setUp arguments.common
    runDistance arguments
  | .list arguments => do
    setUp arguments
    runList arguments

/-- Runs the command that arguments ask for. -/
def run (args : List String) (s : Session) : Ending × Session :=
  match Invocation.parse args with
  | .error (.shown text) => (.shown, s.print text)
  | .error (.wrong program complaint usage) =>
    (.refused usage (program ++ ": error: " ++ complaint), s)
  | .ok invocation =>
    match (runInvocation invocation).run s with
    | (.ok (), s) => (.done 0, s)
    | (.error cause, s) => (.failed cause, s)

/-- What stands in the log for the place of a failure. -/
def placeOfFailure : String := "<traceback>"

/-- Logs a failure: one that is foreseen by its text, another by the word for its kind, and its
place when debugging is asked for. -/
def logFailure (args : List String) (cause : Failure) (s : Session) : Session :=
  let s := match cause.notice.message with
    | some message => s.log .error ("错误: " ++ message)
    | none => s.log .error ("未预期的错误: " ++ cause.notice.word)
  if args.contains "--debug" then s.log .error placeOfFailure else s

/-- Runs the command that arguments ask for; a failure is logged and gives the code one. -/
def runGuarded (args : List String) (s : Session) : Ending × Session :=
  match run args s with
  | (.failed cause, s) => (.done 1, logFailure args cause s)
  | result => result

end CallReach.Command
