import CallReach.Command.Run
import Std.Time.Zoned

/-!
# The program

Copies the files that the arguments name into a session, runs the command in it, and carries out what
it wrote and printed.
-/

namespace CallReach.Command

open Std.Time (PlainDateTime Timestamp WallTime)

/-- A number with two digits. -/
def twoDigits (n : Int) : String := if n < 10 then "0" ++ toString n else toString n

/-- The date of a moment. -/
def dateText (t : PlainDateTime) : String :=
  toString (t.year : Int) ++ "-" ++ twoDigits t.month.val ++ "-" ++ twoDigits t.day.val

/-- The time of day of a moment. -/
def timeText (t : PlainDateTime) : String :=
  twoDigits t.hour.val ++ ":" ++ twoDigits t.minute.val ++ ":" ++ twoDigits t.second.val

/-- The clock of the machine. -/
def readClock : IO Clock := do
  let universal := PlainDateTime.ofWallTime
    (WallTime.ofSeconds (← Timestamp.now).toSecondsSinceUnixEpoch)
  let here ← try PlainDateTime.now catch _ => pure universal
  let localTime := dateText here ++ " " ++ timeText here
  pure {
    date := dateText universal, time := timeText universal, localTime,
    stamp := localTime ++ ",000" }

/-- What the machine has at a path. -/
def itemAt (path : String) : IO (Option Item) := do
  try
    pure (some (.file (← IO.FS.readBinFile path)))
  catch _ =>
    try
      if ← (← IO.FS.realPath path).isDir then pure (some .folder) else pure none
    catch _ => pure none

/-- Copies what the machine has on the way along a path. -/
def copyIn (d : Disk) (path : String) : IO Disk := do
  let start := if Path.isAbsolute path then [] else d.here
  let step (state : List String × Disk) (part : String) : IO (List String × Disk) := do
    let location := Disk.onward state.1 part
    match ← itemAt (Path.render "/" location) with
    | some item => pure (location, state.2.put location item)
    | none => pure (location, state.2)
  pure (← (Path.parts path).foldlM step (start, d)).2

/-- The folder that the program was started in, with the folders above it. -/
def startDisk : IO Disk := do
  let here := Path.names (← IO.currentDir).toString
  let folders := (List.range (here.length + 1)).map (here.take ·)
  pure { items := folders.map fun folder => (folder, .folder), here }

/-- Writes a file that a run has changed. -/
def copyOut (before after : Disk) (path : String) : IO Unit := do
  match before.read path, after.read path with
  | .ok old, .ok new => if old.data != new.data then IO.FS.writeBinFile path new
  | .error _, .ok new =>
    let folder := Path.folderName path
    if !folder.isEmpty then IO.FS.createDirAll folder
    IO.FS.writeBinFile path new
  | _, _ => pure ()

/-- Runs the command on the machine. -/
def execute (args : List String) : IO UInt32 := do
  let files := match Invocation.parse args with
    | .ok invocation => invocation.files
    | .error _ => []
  let disk ← files.foldlM copyIn (← startDisk)
  let output ← IO.getStdout
  let session : Session := { disk, clock := ← readClock, terminal := ← output.isTty }
  let (ending, s) := runGuarded args session
  for path in files do copyOut disk s.disk path
  for record in s.console do IO.eprintln record
  output.putStr s.output
  match ending with
  | .refused usage complaint => IO.eprintln (usage ++ complaint)
  | _ => pure ()
  pure (UInt32.ofNat ending.code)

end CallReach.Command

/-- Runs the command with its arguments. -/
def main (args : List String) : IO UInt32 := CallReach.Command.execute args
