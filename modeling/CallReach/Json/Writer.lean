import CallReach.Data.Value

/-!
# Writing JSON

Values on one line, or spread over lines with an indentation.  Texts keep every character but the
quote, the backslash and the controls.
-/

namespace CallReach.Json

open CallReach.Data (Value)
open CallReach.Decimal (Layout)

/-- One character of a string. -/
def escapeChar (c : Char) : List Char :=
  if c == '"' then ['\\', '"']
  else if c == '\\' then ['\\', '\\']
  else if c == '\n' then ['\\', 'n']
  else if c == '\r' then ['\\', 'r']
  else if c == '\t' then ['\\', 't']
  else if c == '\x0c' then ['\\', 'f']
  else if c == '\x08' then ['\\', 'b']
  else if c.toNat < 0x20 then '\\' :: 'u' :: Text.hexDigits 4 c.toNat
  else [c]

/-- A string between its quotes. -/
def writeText (s : String) : String :=
  "\"" ++ String.ofList (s.toList.flatMap escapeChar) ++ "\""

/-- Numbers are laid out as values are shown, with words for what has no digits. -/
def numberLayout : Layout :=
  { Decimal.plainLayout with infinity := "Infinity", notANumber := "NaN" }

/-- Where a line is broken: nowhere, or at every item, indented by a number of blanks a level. -/
inductive Shape where
  | line
  | indented (width : Nat)
  deriving DecidableEq, Repr

/-- The text between the brackets of a list or an object and its items at a level. -/
def Shape.surround (shape : Shape) (level : Nat) (opening closing : String)
    (items : List String) : String :=
  if items.isEmpty then opening ++ closing
  else
    match shape with
    | .line => opening ++ ", ".intercalate items ++ closing
    | .indented width =>
      let break' (n : Nat) := "\n" ++ "".pushn ' ' (n * width)
      opening ++ break' (level + 1) ++ ("," ++ break' (level + 1)).intercalate items ++
        break' level ++ closing

/-- The text of a key: numbers, truth values and null are spelled as they are as values. -/
def keyText : Value → String
  | .null => "null"
  | .bool b => if b then "true" else "false"
  | .float x => numberLayout.write x
  | k => k.plain

mutual

/-- A value at a level of nesting. -/
def writeAt (shape : Shape) (level : Nat) : Value → String
  | .null => "null"
  | .bool b => if b then "true" else "false"
  | .int n => toString n
  | .float x => numberLayout.write x
  | .text s => writeText s
  | .moment s => writeText s
  | .list items => shape.surround level "[" "]" (writeItems shape (level + 1) items)
  | .map entries =>
    shape.surround level "\x7b" "\x7d" (writeEntries shape (level + 1) entries)

/-- The items of a list. -/
def writeItems (shape : Shape) (level : Nat) : List Value → List String
  | [] => []
  | v :: rest => writeAt shape level v :: writeItems shape level rest

/-- The entries of an object. -/
def writeEntries (shape : Shape) (level : Nat) : List (Value × Value) → List String
  | [] => []
  | (k, v) :: rest =>
    (writeText (keyText k) ++ ": " ++ writeAt shape level v) :: writeEntries shape level rest

end

/-- A value as JSON text. -/
def write (shape : Shape) (v : Value) : String := writeAt shape 0 v

end CallReach.Json
