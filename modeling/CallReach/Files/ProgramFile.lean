import CallReach.Files.Disk
import CallReach.Program.Load

/-!
# Programs in files

The ending of a path says what a file holds: a source text, a description in JSON, or else one in
YAML.  The program takes the name of its file.
-/

namespace CallReach

/-- Why a file gives no program. -/
inductive ProgramFileError where
  /-- There is no such file. -/
  | notFound (path : String)
  /-- The source text cannot be read. -/
  | unreadable (path : String)
  /-- The file cannot be read. -/
  | file (cause : FileError)
  /-- What the file holds is no program. -/
  | load (cause : LoadError)
  deriving DecidableEq, Repr

namespace ProgramFileError

/-- The text of the error. -/
def message : ProgramFileError → String
  | .notFound path => "program file not found: " ++ path
  | .unreadable path => "cannot read " ++ path
  | .file _ => "file error"
  | .load cause => cause.message

end ProgramFileError

namespace Disk

/-- The program of a source text that is read on a host. -/
def loadSource (d : Disk) (path : String) (host : Source.Host := {}) :
    Except ProgramFileError Program :=
  match d.readText path with
  | .error .notText => .error (.file .notText)
  | .error _ => .error (.unreadable path)
  | .ok text => (Program.ofSource text (Path.fileName path) (some path) host).mapError .load

/-- The program of a description. -/
def loadDescription (d : Disk) (path : String) : Except ProgramFileError Program := do
  let text ← (d.readText path).mapError .file
  let format := if Path.isJson path then Format.json else .yaml
  (Program.ofText format text (some (Path.fileName path))).mapError .load

/-- The program of a file. -/
def loadProgram (d : Disk) (path : String) (host : Source.Host := {}) :
    Except ProgramFileError Program :=
  if !d.contains path then .error (.notFound path)
  else if Path.isSource path then d.loadSource path host
  else d.loadDescription path

end Disk

end CallReach
