import CallReach.Json.Reader
import CallReach.Program.Document
import CallReach.Source.Lowering
import CallReach.Source.Parser.Stmt
import CallReach.Yaml.Document

/-!
# Loading programs

Programs come from descriptions, which are plain data or a text that holds such data, or from source
text.  `LoadError` is the cause when there is no program.
-/

namespace CallReach

open CallReach.Data (Value)
open CallReach.Schema (Issue)

/-- The formats of texts that hold data. -/
inductive Format where
  | json
  | yaml
  deriving DecidableEq, Repr

/-- The value that a text holds. -/
def Format.parse (format : Format) (text : String) : Except Yaml.Failure Value :=
  match format with
  | .yaml => Yaml.parse text
  | .json =>
    match Json.parse text with
    | .ok v => .ok v
    | .error .malformed => .error .malformed
    | .error .tooManyDigits => .error .outOfRange

/-- Why there is no program. -/
inductive LoadError where
  /-- The description is no mapping. -/
  | notAMapping
  /-- The description does not fit the schema. -/
  | invalid (issues : List Issue)
  /-- The text of the description is malformed. -/
  | malformed
  /-- The text of the description holds a scalar that stands for no value. -/
  | badScalar (cause : Yaml.Failure)
  /-- The description is no program. -/
  | build (cause : BuildError)
  /-- The source text of a name is malformed. -/
  | badSource (name : String)
  /-- The source text holds a null character. -/
  | nullCharacter
  /-- The source text is too deep for the stack. -/
  | tooDeep (cause : Source.Overflow)
  /-- The source text holds what cannot be written. -/
  | unwritable
  deriving DecidableEq, Repr

namespace LoadError

/-- The text of the error. -/
def message : LoadError → String
  | .notAMapping => "program description must be a mapping at top level"
  | .invalid _ => "invalid program description"
  | .malformed => "could not parse program description"
  | .badScalar _ => "bad scalar"
  | .build cause => cause.message
  | .badSource name => "cannot parse " ++ name
  | .nullCharacter => "null character in source text"
  | .tooDeep _ => "source text is too deep"
  | .unwritable => "source text holds what cannot be written"

end LoadError

namespace Program

/-- The program that plain data describes. -/
def ofData (data : Value) (name : Option String := none) : Except LoadError Program :=
  match data with
  | .map _ =>
    match Document.check data with
    | .ok d => (d.build name).mapError .build
    | .bad issues => .error (.invalid issues)
  | _ => .error .notAMapping

/-- The program that a text describes. -/
def ofText (format : Format) (text : String) (name : Option String := none) :
    Except LoadError Program :=
  match format.parse text with
  | .ok data => ofData data name
  | .error .malformed => .error .malformed
  | .error cause => .error (.badScalar cause)

/-- The name of a source text that is given none. -/
def defaultSourceName : String := "<string>"

/-- The program of a source text that is read on a host; the functions keep the file that it was read
from. -/
def ofSource (text : String) (name : String := defaultSourceName) (file : Option String := none)
    (host : Source.Host := {}) : Except LoadError Program :=
  if text.toList.contains '\x00' then .error .nullCharacter
  else
    match host.overflow? text with
    | some cause => .error (.tooDeep cause)
    | none =>
      match Source.parse host text with
      | none => .error (.badSource (file.getD name))
      | some body =>
        match Source.lowerProgram body name file with
        | some M => .ok M
        | none => .error .unwritable

end Program

end CallReach
