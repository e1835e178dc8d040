import CallReach.Files.ProgramFile
import CallReach.Files.SettingsFile
import CallReach.Report.Basic
import CallReach.Report.Record

/-!
# Failures of a command

A failure is foreseen when its cause lies in what the command was given: a program, a reference, a
setting.  Such a failure has a text of its own.  The others are known by the word for their kind
only, which the log shows.
-/

namespace CallReach

open CallReach.Schema (Issue)

/-- The word for a kind of failure, and its text when it is foreseen. -/
structure Notice where
  word : String
  message : Option String := none
  /-- The issues of data that does not fit its schema. -/
  issues : Option (List Issue) := none

namespace Notice

/-- A foreseen failure. -/
def foreseen (word message : String) (issues : Option (List Issue) := none) : Notice :=
  { word, message := some message, issues }

end Notice

/-- The notice about a file that cannot be used. -/
def FileError.notice : FileError → Notice
  | .notFound => { word := "FileNotFoundError" }
  | .isFolder => { word := "IsADirectoryError" }
  | .notAFolder => { word := "NotADirectoryError" }
  | .alreadyExists => { word := "FileExistsError" }
  | .nullCharacter => { word := "ValueError" }
  | .notText => { word := "UnicodeDecodeError" }

/-- The notice about a scalar that stands for no value. -/
def Yaml.Failure.notice : Yaml.Failure → Notice
  | .unknownWord => { word := "KeyError" }
  | .emptyNumber => { word := "IndexError" }
  | .notAMoment => { word := "AttributeError" }
  | .malformed | .outOfRange => { word := "ValueError" }

/-- The notice about what is no program. -/
def LoadError.notice (e : LoadError) : Notice :=
  match e with
  | .invalid issues => .foreseen "ProgramLoadError" e.message issues
  | .badScalar cause => cause.notice
  | .nullCharacter | .unwritable => { word := "ValueError" }
  | .tooDeep .calls => { word := "RecursionError" }
  | .tooDeep .grammar => { word := "MemoryError" }
  | e => .foreseen "ProgramLoadError" e.message

/-- The notice about a file that gives no program. -/
def ProgramFileError.notice (e : ProgramFileError) : Notice :=
  match e with
  | .file cause => cause.notice
  | .load cause => cause.notice
  | e => .foreseen "ProgramLoadError" e.message

/-- The notice about a file that gives no settings. -/
def SettingsFileError.notice (e : SettingsFileError) : Notice :=
  match e with
  | .file cause => cause.notice
  | .badScalar cause => cause.notice
  | .invalid _ issues => .foreseen "ConfigurationError" e.message issues
  | e => .foreseen "ConfigurationError" e.message

/-- The notice about settings that were overridden. -/
def overrideNotice (issues : List Issue) : Notice :=
  .foreseen "ConfigurationError" "Invalid command-line setting" issues

/-- The notice about a reference. -/
def ReferenceError.notice (e : ReferenceError) : Notice :=
  match e with
  | .noEntry _ => { word := "IndexError" }
  | e => .foreseen "PositionReferenceError" e.message

/-- The notice about a search. -/
def Fault.notice (f : Fault) : Notice :=
  match f with
  | .missingEntry => { word := "KeyError" }
  | .outOfRange => { word := "IndexError" }
  | .alreadyRun | .emptyStack => .foreseen "SearchError" f.message
  | .badCost .. => .foreseen "ConfigurationError" f.message
  | f => .foreseen "GraphInvariantError" f.message

/-- The notice about a configuration. -/
def ConfigError.notice (e : ConfigError) : Notice :=
  match e with
  | .unknownSetting _ => { word := "TypeError" }
  | e => .foreseen "ConfigurationError" e.message

/-- The notice about a query. -/
def QueryError.notice : QueryError → Notice
  | .settings cause => cause.notice
  | .reference cause => cause.notice
  | .search cause => cause.notice

/-- The notice about a record. -/
def RecordError.notice : RecordError → Notice
  | .missing _ => { word := "KeyError" }
  | .notARecord => { word := "AttributeError" }
  | .unfit => { word := "TypeError" }

/-- Why a command fails. -/
inductive Failure where
  | program (cause : ProgramFileError)
  | settings (cause : SettingsFileError)
  | override (issues : List Issue)
  | query (cause : QueryError)
  | record (cause : RecordError)
  | file (cause : FileError)
  /-- A template without a conversion of a named value. -/
  | badTemplate
  /-- Any other failure, by the word for its kind. -/
  | other (word : String)
  deriving DecidableEq, Repr

namespace Failure

/-- The notice about a failure. -/
def notice : Failure → Notice
  | .program cause => cause.notice
  | .settings cause => cause.notice
  | .override issues => overrideNotice issues
  | .query cause => cause.notice
  | .record cause => cause.notice
  | .file cause => cause.notice
  | .badTemplate => { word := "ValueError" }
  | .other word => { word }

/-- A failure in the log: the word for its kind, and its text when it is foreseen. -/
def describe (f : Failure) : String :=
  let v := f.notice
  match v.message with
  | some message => v.word ++ ": " ++ message
  | none => v.word

end Failure

end CallReach
