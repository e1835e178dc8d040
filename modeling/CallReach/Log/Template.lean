import CallReach.Data.Value
import CallReach.Text.Digit
import CallReach.Text.Identifier

/-!
# Templates

A template is a text with conversions, each of which is filled with a value.  A conversion is a
percent sign, the name of a value in parentheses when the values have names, flags, a least width, a
precision after a dot, and a letter that says how the value is written.  Two percent signs stand for
one.

Main definitions:

* `Conversion` — one conversion.
* `Template.parse` — the pieces of a template.
* `Template.fill` — a template with its values; there is no answer when values and conversions do
  not fit.
-/

namespace CallReach.Log

open CallReach.Data (Value)
open CallReach.Decimal (Double)

/-- A width or a precision: a number, or a star for the next value. -/
inductive Extent where
  | number (n : Nat)
  | star
  deriving DecidableEq, Repr

/-- One conversion of a template. -/
structure Conversion where
  key : Option String := none
  flags : List Char := []
  width : Option Extent := none
  precision : Option Extent := none
  letter : Char
  deriving DecidableEq, Repr

/-- A piece of a template. -/
inductive Piece where
  /-- A character that stands for itself. -/
  | text (c : Char)
  | conversion (c : Conversion)
  deriving DecidableEq, Repr

namespace Conversion

/-- The characters of a name up to the parenthesis that closes it, and those after it. -/
def readKey (depth : Nat) : List Char → Option (List Char × List Char)
  | [] => none
  | c :: rest =>
    if c == ')' then
      match depth with
      | 0 => some ([], rest)
      | depth + 1 => (readKey depth rest).map fun (key, rest) => (c :: key, rest)
    else (readKey (if c == '(' then depth + 1 else depth) rest).map fun (key, rest) =>
      (c :: key, rest)

/-- Whether a character is a flag. -/
def isFlag (c : Char) : Bool := ['-', '+', ' ', '#', '0'].contains c

/-- Reads a width or a precision. -/
def readExtent (cs : List Char) : Option Extent × List Char :=
  match cs with
  | '*' :: rest => (some .star, rest)
  | cs =>
    let digits := cs.takeWhile Char.isDigit
    if digits.isEmpty then (none, cs)
    else (some (.number ((String.ofList digits).toNat?.getD 0)), cs.dropWhile Char.isDigit)

/-- Reads what stands after the name. -/
def readTail (key : Option String) (cs : List Char) : Option (Conversion × List Char) :=
  let flags := cs.takeWhile isFlag
  let (width, cs) := readExtent (cs.dropWhile isFlag)
  let (precision, cs) := match cs with
    | '.' :: rest =>
      let (extent, rest) := readExtent rest
      (some (extent.getD (.number 0)), rest)
    | cs => (none, cs)
  let cs := match cs with
    | c :: rest => if ['h', 'l', 'L'].contains c then rest else cs
    | [] => cs
  match cs with
  | [] => none
  | letter :: rest => some ({ key, flags, width, precision, letter }, rest)

/-- Reads a conversion after its percent sign. -/
def read (cs : List Char) : Option (Conversion × List Char) :=
  match cs with
  | '(' :: rest => do
    let (key, rest) ← readKey 0 rest
    readTail (some (String.ofList key)) rest
  | cs => readTail none cs

end Conversion

namespace Template

/-- The pieces of a template, at most `fuel` of them. -/
def parseFor : (fuel : Nat) → List Char → Option (List Piece)
  | _, [] => some []
  | 0, _ => none
  | fuel + 1, '%' :: '%' :: rest => do pure (.text '%' :: (← parseFor fuel rest))
  | fuel + 1, '%' :: rest => do
    let (c, rest) ← Conversion.read rest
    pure (.conversion c :: (← parseFor fuel rest))
  | fuel + 1, c :: rest => do pure (.text c :: (← parseFor fuel rest))

/-- The pieces of a template. -/
def parse (template : String) : Option (List Piece) :=
  parseFor template.length template.toList

/-- The values of a template: by their order, or by their names. -/
inductive Arguments where
  | ordered (values : List Value)
  | named (fields : Value)

/-- A text filled up to a width: on the right, or on the left with blanks or, after a lead such as a
sign, with zeros. -/
def pad (left zeros : Bool) (width : Nat) (lead body : List Char) : List Char :=
  let missing := width - (lead.length + body.length)
  if left then lead ++ body ++ List.replicate missing ' '
  else if zeros then lead ++ List.replicate missing '0' ++ body
  else List.replicate missing ' ' ++ lead ++ body

/-- The sign of a number under some flags. -/
def sign (flags : List Char) (negative : Bool) : List Char :=
  if negative then ['-']
  else if flags.contains '+' then ['+']
  else if flags.contains ' ' then [' ']
  else []

/-- A whole number: truth values count as numbers, and fractions are cut off where allowed. -/
def whole? (cut : Bool) : Value → Option Int
  | .bool b => some (if b then 1 else 0)
  | .int n => some n
  | .float (.finite negative m e) =>
    if cut then
      let n : Nat := if 0 ≤ e then m * Nat.pow 2 e.toNat else m / Nat.pow 2 (-e).toNat
      some (if negative then -(n : Int) else n)
    else none
  | _ => none

/-- The digits of a number with some places after the point. -/
def fixed (places m : Nat) (e : Int) : List Char :=
  let scaled := if 0 ≤ e then m * Nat.pow 2 e.toNat * Nat.pow 10 places
    else Double.roundDiv (m * Nat.pow 10 places) (Nat.pow 2 (-e).toNat)
  let digits := Nat.toDigits 10 scaled
  let digits := List.replicate (places + 1 - digits.length) '0' ++ digits
  let integer := digits.take (digits.length - places)
  if places == 0 then integer else integer ++ ['.'] ++ digits.drop (digits.length - places)

/-- A text without characters beyond ASCII: they are written by their codes. -/
def asciiOnly (s : String) : List Char :=
  s.toList.flatMap fun c => if c.toNat < 0x80 then [c] else Text.codeEscape c.toNat

/-- A value as a letter asks for, as a lead and a body, and whether zeros may fill it. -/
def convert (flags : List Char) (precision : Option Nat) (letter : Char) (v : Value) :
    Option (List Char × List Char × Bool) :=
  let text (cs : List Char) := some ([], (precision.map cs.take).getD cs, false)
  let number (n : Int) (lead digits : List Char) :=
    some (sign flags (n < 0) ++ lead,
      List.replicate ((precision.getD 0) - digits.length) '0' ++ digits, true)
  let based (base : Nat) (mark : List Char) (upper : Bool) := do
    let n ← whole? false v
    let digits := Nat.toDigits base n.natAbs
    number n (if flags.contains '#' then mark else [])
      (if upper then digits.map Char.toUpper else digits)
  match letter with
  | 's' => text v.plain.toList
  | 'r' => text v.shown.toList
  | 'a' => text (asciiOnly v.shown)
  | 'd' | 'i' | 'u' => do
    let n ← whole? true v
    number n [] (Nat.toDigits 10 n.natAbs)
  | 'x' => based 16 ['0', 'x'] false
  | 'X' => based 16 ['0', 'X'] true
  | 'o' => based 8 ['0', 'o'] false
  | 'c' =>
    match v, whole? false v with
    | .text s, _ => if s.length == 1 then some ([], s.toList, false) else none
    | _, some n => if 0 ≤ n && n < 0x110000 then some ([], [Char.ofNat n.toNat], false) else none
    | _, none => none
  | 'f' | 'F' =>
    let x := match v with
      | .float x => some x
      | v => (whole? false v).map Double.ofInt
    match x with
    | some (.finite negative m e) =>
      let places := precision.getD 6
      let point := if places == 0 && flags.contains '#' then ['.'] else []
      some (sign flags negative, fixed places m e ++ point, true)
    | some (.infinite negative) =>
      some (sign flags negative, (if letter == 'F' then "INF" else "inf").toList, false)
    | some .nan => some (sign flags false, (if letter == 'F' then "NAN" else "nan").toList, false)
    | none => none
  | _ => none

/-- No width and no precision is greater. -/
def maxExtent : Nat := Nat.pow 2 31 - 1

/-- A width or a precision as a number, and the values after it; a star below zero is a width that
fills on the right. -/
def extent (e : Option Extent) (values : List Value) : Option (Option Int × List Value) :=
  let bounded (n : Int) (values : List Value) :=
    if n.natAbs ≤ maxExtent then some (some n, values) else none
  match e, values with
  | none, values => some (none, values)
  | some (.number n), values => bounded n values
  | some .star, .int n :: values => bounded n values
  | some .star, .bool b :: values => some (some (if b then 1 else 0), values)
  | some .star, _ => none

/-- One conversion, and the values after it. -/
def apply (arguments : Arguments) (c : Conversion) (values : List Value) :
    Option (List Char × List Value) := do
  let (width, values) ← extent c.width values
  let (precision, values) ← extent c.precision values
  let (v, values) ← match c.key, arguments, values with
    | some key, .named fields, values => (fields.field? key).map fun v => (v, values)
    | none, _, v :: values => some (v, values)
    | _, _, _ => none
  let (lead, body, zeros) ← convert c.flags (precision.map Int.toNat) c.letter v
  let width := width.getD 0
  pure (pad (c.flags.contains '-' || width < 0) (zeros && c.flags.contains '0') width.natAbs lead
    body, values)

/-- The pieces with their values; values that are given in order must all be used. -/
def fillFrom (arguments : Arguments) : List Piece → List Value → Option (List Char)
  | [], values =>
    match arguments with
    | .named _ => some []
    | .ordered _ => if values.isEmpty then some [] else none
  | .text c :: rest, values => do pure (c :: (← fillFrom arguments rest values))
  | .conversion c :: rest, values => do
    let (text, values) ← apply arguments c values
    pure (text ++ (← fillFrom arguments rest values))

/-- A template with its values.  Values with names can be used once as a whole. -/
def fill (template : String) (arguments : Arguments) : Option String := do
  let values := match arguments with
    | .ordered values => values
    | .named fields => [fields]
  pure (String.ofList (← fillFrom arguments (← parse template) values))

/-- A message with its values.  Without values it is no template, and a single map gives the values
by name. -/
def message (text : String) (values : List Value) : Option String :=
  match values with
  | [] => some text
  | [.map entries] =>
    fill text (if entries.isEmpty then .ordered values else .named (.map entries))
  | values => fill text (.ordered values)

/-- Whether a template starts with a conversion of a named value. -/
def startsNamed (cs : List Char) : Bool :=
  match cs with
  | '%' :: '(' :: rest =>
    let key := rest.takeWhile (· != ')')
    match Conversion.read ('(' :: rest) with
    | some (c, _) =>
      !key.isEmpty && key.all Text.isNamePart && "diouxefgcrsa%".toList.contains c.letter.toLower
    | none => false
  | _ => false

/-- Whether a template has a conversion of a named value somewhere. -/
def hasNamed : List Char → Bool
  | [] => false
  | c :: rest => startsNamed (c :: rest) || hasNamed rest

end Template

end CallReach.Log
