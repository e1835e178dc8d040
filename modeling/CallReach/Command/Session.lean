import CallReach.Command.Failure
import CallReach.Log.Logger
import CallReach.Report.Clock

/-!
# Sessions

A session is what a command works in: the files, the log, the moment, what has been printed.  A job
changes the session and may fail; what was done before a failure stays done.

Main definitions:

* `Session` and `Job`.
* `Session.log` — one record for the console and for the file that is attached.
* `Job.configureLog`, `Job.configureRun` — the log as it is set up for a run.
* `Job.watched` — a job whose begin and end are logged.
-/

namespace CallReach

open CallReach.Data (Value)
open CallReach.Log (Severity Logger)

/-- What a command works in. -/
structure Session where
  disk : Disk := {}
  clock : Clock
  /-- Whether the output is a terminal. -/
  terminal : Bool := false
  logger : Logger := {}
  /-- What has been printed. -/
  output : String := ""
  /-- The log records shown on the console. -/
  console : List String := []

/-- A job in a session. -/
abbrev Job (α : Type) := ExceptT Failure (StateM Session) α

namespace Session

/-- Prints a text. -/
def print (s : Session) (text : String) : Session := { s with output := s.output ++ text }

/-- Shows a record on the console and adds it to the file that is attached. -/
def emit (s : Session) (record : String) : Session :=
  let disk := match s.logger.file with
    | none => s.disk
    | some path =>
      match s.disk.append path (record ++ "\n") with
      | .ok disk => disk
      | .error _ => s.disk
  { s with disk, console := s.console ++ [record] }

/-- Logs a message through a named log. -/
def log (s : Session) (severity : Severity) (text : String) (name : String := Log.rootName) :
    Session :=
  match s.logger.record? s.clock.stamp name severity text with
  | some record => s.emit record
  | none => s

/-- Logs a message with values. -/
def logWith (s : Session) (severity : Severity) (text : String) (values : List Value) : Session :=
  match Log.Template.message text values with
  | some text => s.log severity text
  | none => s

/-- Detaches the file of the log. -/
def closeLog (s : Session) : Session := { s with logger := { s.logger with file := none } }

end Session

namespace Job

/-- Logs a message. -/
def log (severity : Severity) (text : String) (name : String := Log.rootName) : Job Unit :=
  modify fun s => s.log severity text name

/-- Prints a text. -/
def print (text : String) : Job Unit := modify (·.print text)

/-- The value of a computation that may fail. -/
def ofExcept {ε α : Type} (wrap : ε → Failure) : Except ε α → Job α
  | .ok a => pure a
  | .error e => throw (wrap e)

/-- Changes the files. -/
def onDisk (change : Disk → Except FileError Disk) : Job Unit := do
  match change (← get).disk with
  | .ok disk => modify fun s => { s with disk }
  | .error cause => throw (.file cause)

/-- Makes the folder that a file is to be in. -/
def prepareFolder (path : String) : Job Unit := do
  let folder := Path.folderName path
  if folder.isEmpty then return
  let (disk, result) := (← get).disk.ensureFolder folder
  modify fun s => { s with disk }
  ofExcept .file result

/-- Attaches a file to the log; it is made when it is not there. -/
def attachLog (path : String) : Job Unit := do
  let path := Path.normalize (Path.join (← get).disk.herePath path)
  onDisk (·.append path "")
  modify fun s => { s with logger := { s.logger with file := some path } }

/-- Sets up the log.  The threshold is changed first, then the template, then the file: the old one
is detached before the new one is attached. -/
def configureLog (threshold : Int := Severity.info.rank)
    (template : String := Log.detailedTemplate) (file : Option String := none)
    (verbose debug : Bool := false) : Job Unit := do
  modify fun s => { s with
    logger := { s.logger with threshold := Log.lowered threshold verbose debug } }
  let template := if template.isEmpty then Log.bareTemplate else template
  if !Log.Template.hasNamed template.toList then throw .badTemplate
  modify fun s => ({ s with logger := { s.logger with template } } : Session).closeLog
  match file.filter (!·.isEmpty) with
  | some path => attachLog path
  | none => pure ()

/-- Sets up the log with a file besides the console. -/
def configureFile (path : String) (threshold : Int := Severity.info.rank) : Job Unit := do
  prepareFolder path
  configureLog threshold Log.detailedTemplate (some path)

/-- Sets up the log without a file. -/
def configureConsole (threshold : Int := Severity.info.rank) (detailed : Bool := false) :
    Job Unit :=
  configureLog threshold (if detailed then Log.detailedTemplate else Log.plainTemplate)

/-- Sets up the log for a run: records are detailed when debugging or when they go to a file. -/
def configureRun (file : Option String := none) (verbose debug : Bool := false)
    (threshold : Int := Severity.warning.rank) : Job Unit := do
  let file := file.filter (!·.isEmpty)
  match file with
  | some path => prepareFolder path
  | none => pure ()
  configureLog threshold
    (if debug || file.isSome then Log.detailedTemplate else Log.plainTemplate) file verbose debug
  let label := Log.thresholdLabel (Log.lowered threshold verbose debug)
  log .debug ("日志已配置 - 级别: " ++ label) "calldist.logger"
  match file with
  | some path => log .info ("日志文件: " ++ path) "calldist.logger"
  | none => pure ()

/-- A job whose begin, end and failure are logged. -/
def watched {α : Type} (severity : Severity) (name : String) (job : Job α) : Job α := do
  log severity ("开始执行 " ++ name)
  tryCatch
    (do
      let a ← job
      log severity ("完成执行 " ++ name)
      pure a)
    fun failure => do
      log .error (name ++ " 执行出错: " ++ failure.describe)
      throw failure

/-- Logs what a job gave: how many items, how many entries, or the value itself. -/
def noteResult (name : String) (result : Value) : Job Unit :=
  match result with
  | .null => pure ()
  | .list (v :: vs) => log .debug (name ++ " 返回了 " ++ toString (v :: vs).length ++ " 个项目")
  | .map (e :: es) => log .debug (name ++ " 返回了 " ++ toString (e :: es).length ++ " 个键值对")
  | v => log .debug (name ++ " 返回结果: " ++ v.plain)

/-- Logs how many of some reports found their target. -/
def noteReports (reports : Value) : Job Unit := do
  match reports with
  | .list items =>
    let found ← ofExcept .record (items.filterM (Record.holds · "reachable"))
    log .info ("完成 " ++ toString items.length ++ " 个距离查询，其中 " ++
      toString found.length ++ " 个目标可达")
  | _ => pure ()

end Job

end CallReach
