import CallReach.Files.Disk
import CallReach.Program.Load
import CallReach.Search.Settings

/-!
# Settings in files

A settings file is in JSON when its path says so, else in YAML.  It holds the settings themselves or
has them under the key `search`.  A file that holds nothing gives the settings by default.
-/

namespace CallReach

open CallReach.Data (Value)
open CallReach.Schema (Issue)

/-- Why a file gives no settings. -/
inductive SettingsFileError where
  /-- There is no such file. -/
  | notFound (path : String)
  /-- The text of the file is malformed. -/
  | malformed (path : String)
  /-- The text of the file holds a scalar that stands for no value. -/
  | badScalar (cause : Yaml.Failure)
  /-- The file holds something that is no mapping. -/
  | notAMapping (path : String)
  /-- The settings do not fit the schema. -/
  | invalid (path : String) (issues : List Issue)
  /-- The file cannot be read. -/
  | file (cause : FileError)
  deriving DecidableEq, Repr

namespace SettingsFileError

/-- The text of the error. -/
def message : SettingsFileError → String
  | .notFound path => "Configuration file not found: " ++ path
  | .malformed path => "Configuration file " ++ path ++ " could not be parsed"
  | .badScalar _ => "bad scalar"
  | .notAMapping path => "Configuration file " ++ path ++ " must contain a mapping"
  | .invalid path _ => "Invalid configuration in " ++ path
  | .file _ => "file error"

end SettingsFileError

namespace Settings

/-- The settings in the data of a file. -/
def ofData (path : String) (data : Value) : Except SettingsFileError Settings :=
  let data := if data.truthy then data else .map []
  match data with
  | .map _ =>
    let section' := match data.field? "search" with
      | some v => if v.truthy then v else .map []
      | none => data
    match check section' with
    | .ok s => .ok s
    | .bad issues => .error (.invalid path issues)
  | _ => .error (.notAMapping path)

end Settings

namespace Disk

/-- The settings of a file. -/
def loadSettings (d : Disk) (path : String) : Except SettingsFileError Settings := do
  if !d.contains path then throw (.notFound path)
  let text ← (d.readText path).mapError .file
  let format := if Path.isJson path then Format.json else .yaml
  match format.parse text with
  | .ok data => Settings.ofData path data
  | .error .malformed => throw (.malformed path)
  | .error cause => throw (.badScalar cause)

end Disk

end CallReach
