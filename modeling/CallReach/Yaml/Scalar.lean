import CallReach.Data.Value
import CallReach.Source.Literal
import CallReach.Text.Integer
import CallReach.Yaml.Cursor

/-!
# YAML scalars

A plain scalar stands for a value of some kind by its spelling: `Tag.ofPlain` finds the kind, and
`scalarValue` the value.
-/

namespace CallReach.Yaml

open CallReach.Data (Value)
open CallReach.Decimal (Double)

/-- The kind of a node. -/
inductive Tag where
  | null
  | bool
  | int
  | float
  | text
  | moment
  /-- A key whose value is merged into the mapping. -/
  | merge
  /-- The key of a default value. -/
  | value
  | sequence
  | mapping
  | unknown
  deriving DecidableEq, Repr, Inhabited

/-! ### Numbers -/

/-- The characters after a sign that may be absent. -/
def afterSign : List Char → List Char
  | '-' :: rest => rest
  | '+' :: rest => rest
  | cs => cs

/-- Whether characters are not empty and all of a class, or underscores. -/
def isDigits (p : Char → Bool) (cs : List Char) : Bool :=
  !cs.isEmpty && cs.all fun c => p c || c == '_'

/-- Whether characters start with a digit and go on with digits and underscores. -/
def isNumeral (first : Char → Bool) : List Char → Bool
  | [] => false
  | c :: rest => first c && rest.all fun c => c.isDigit || c == '_'

/-- The parts of characters between colons. -/
def colonParts : List Char → List (List Char)
  | [] => [[]]
  | ':' :: rest => [] :: colonParts rest
  | c :: rest =>
    match colonParts rest with
    | part :: parts => (c :: part) :: parts
    | [] => [[c]]

/-- Whether a part of a number in base sixty has one or two digits below sixty. -/
def isSixtieth : List Char → Bool
  | [c] => c.isDigit
  | [c, d] => '0' ≤ c && c ≤ '5' && d.isDigit
  | _ => false

/-- Whether a digit is not zero. -/
def isNonZero (c : Char) : Bool := c.isDigit && c != '0'

/-- Whether a text is an integer: binary, octal, decimal, hexadecimal or in base sixty. -/
def isIntText (cs : List Char) : Bool :=
  let cs := afterSign cs
  (match cs with
    | '0' :: 'b' :: rest => isDigits Source.isBinaryDigit rest
    | '0' :: 'x' :: rest => isDigits Source.isHexDigit rest
    | ['0'] => true
    | '0' :: rest => isDigits Source.isOctalDigit rest
    | cs => isNumeral isNonZero cs) ||
  (match colonParts cs with
    | first :: rest => isNumeral isNonZero first && !rest.isEmpty && rest.all isSixtieth
    | [] => false)

/-- Whether characters are empty or an exponent with a sign. -/
def isExponent : List Char → Bool
  | [] => true
  | e :: sign :: rest =>
    (e == 'e' || e == 'E') && (sign == '+' || sign == '-') && !rest.isEmpty && rest.all Char.isDigit
  | _ => false

/-- Whether a fraction ends in an exponent or nothing. -/
def isFraction (cs : List Char) : Bool :=
  isExponent (cs.dropWhile fun c => c.isDigit || c == '_')

/-- Whether a text is a floating-point number, which always has a point. -/
def isFloatText (cs : List Char) : Bool :=
  let unsigned := afterSign cs
  let whole := unsigned.takeWhile (· != '.')
  match unsigned.dropWhile (· != '.') with
  | [] => false
  | _ :: fraction =>
    (isNumeral Char.isDigit whole && isFraction fraction) ||
    (match cs with
      | '.' :: d :: rest => d.isDigit && isFraction rest
      | _ => false) ||
    (match colonParts whole with
      | first :: rest =>
        isNumeral Char.isDigit first && !rest.isEmpty && rest.all isSixtieth &&
          fraction.all fun c => c.isDigit || c == '_'
      | [] => false) ||
    [".inf", ".Inf", ".INF"].contains (String.ofList unsigned) ||
    [".nan", ".NaN", ".NAN"].contains (String.ofList cs)

/-- A number from its digits in base sixty, the last one first. -/
def fromSixtieths (digits : List Int) : Int :=
  digits.foldr (fun d n => d + 60 * n) 0

/-- The integer that digits of a class write in a base. -/
def inBase? (base : Nat) (p : Char → Bool) (cs : List Char) : Option Int :=
  if !cs.isEmpty && cs.all p then some (Source.valueInBase base cs) else none

/-- The value of an integer without its sign. -/
def magnitude? (cs : List Char) : Option Int :=
  match cs with
  | ['0'] => some 0
  | '0' :: 'b' :: rest => inBase? 2 Source.isBinaryDigit rest
  | '0' :: 'x' :: rest => inBase? 16 Source.isHexDigit rest
  | '0' :: rest => inBase? 8 Source.isOctalDigit ('0' :: rest)
  | cs =>
    if cs.contains ':' then
      ((colonParts cs).mapM fun part => Text.integer? (String.ofList part)).map fun digits =>
        fromSixtieths digits.reverse
    else Text.integer? (String.ofList cs)

/-- The value of an integer. -/
def intValue (text : String) : Except Failure Int :=
  let cs := text.toList.filter (· != '_')
  let unsigned := afterSign cs
  if unsigned.isEmpty then .error .emptyNumber
  else
    match magnitude? unsigned with
    | none => .error .outOfRange
    | some n => .ok (if cs.head? == some '-' then -n else n)

/-- The value of a decimal number without its sign. -/
def decimal? (cs : List Char) : Option Double :=
  let whole := cs.takeWhile Char.isDigit
  let rest := cs.dropWhile Char.isDigit
  let (fraction, rest) := match rest with
    | '.' :: rest => (rest.takeWhile Char.isDigit, rest.dropWhile Char.isDigit)
    | rest => ([], rest)
  let finish (exponent : Int) : Option Double :=
    if whole.isEmpty && fraction.isEmpty then none
    else
      some (Double.ofDecimal false (Source.valueInBase 10 (whole ++ fraction))
        (exponent - fraction.length))
  match rest with
  | [] => finish 0
  | 'e' :: rest =>
    let digits := afterSign rest
    if !digits.isEmpty && digits.all Char.isDigit then
      let n : Int := Source.valueInBase 10 digits
      finish (if rest.head? == some '-' then -n else n)
    else none
  | _ => none

/-- The value of a floating-point number without its sign. -/
def floatMagnitude? (cs : List Char) : Option Double :=
  let text := String.ofList cs
  if text == ".inf" || text == "inf" || text == "infinity" then some (.infinite false)
  else if text == ".nan" || text == "nan" then some .nan
  else decimal? cs

/-- A double times a power of sixty. -/
def timesSixty (x : Double) (power : Nat) : Double :=
  match x with
  | .finite negative m e =>
    let n : Int := m * (Nat.pow 60 power : Nat)
    Double.ofUnits (if negative then -n else n) e
  | x => x

/-- The sum of digits in base sixty, the last one first. -/
def sumSixtieths (digits : List Double) : Double :=
  (digits.mapIdx fun i d => timesSixty d i).foldl Double.add (.ofInt 0)

/-- The value of a floating-point number. -/
def floatValue (text : String) : Except Failure Double :=
  let cs := (text.toList.filter (· != '_')).map Char.toLower
  let unsigned := afterSign cs
  let value :=
    if unsigned.contains ':' then
      ((colonParts unsigned).mapM floatMagnitude?).map fun ds => sumSixtieths ds.reverse
    else floatMagnitude? unsigned
  if cs.isEmpty then .error .emptyNumber
  else
    match value with
    | none => .error .outOfRange
    | some x => .ok (if cs.head? == some '-' then x.neg else x)

/-! ### Dates -/

/-- The parts of a date with an optional time. -/
structure MomentParts where
  year : List Char
  month : List Char
  day : List Char
  /-- Hour, minute, second and the digits of a fraction. -/
  time : Option (List Char × List Char × List Char × List Char) := none
  /-- Sign, hours and minutes of an offset; the sign is absent for `Z`. -/
  offset : Option (Option Char × List Char × List Char) := none

/-- Between `least` and `most` digits, as many as there are, and the rest. -/
def digitsOf (least most : Nat) (cs : List Char) : Option (List Char × List Char) :=
  let digits := (cs.takeWhile Char.isDigit).take most
  if digits.length < least then none else some (digits, cs.drop digits.length)

/-- The rest after a character. -/
def after? (c : Char) : List Char → Option (List Char)
  | d :: rest => if c == d then some rest else none
  | [] => none

/-- The rest after the letter or the blanks between a date and a time. -/
def afterDate? (cs : List Char) : Option (List Char) :=
  match cs with
  | 'T' :: rest => some rest
  | 't' :: rest => some rest
  | cs =>
    let rest := cs.dropWhile fun c => c == ' ' || c == '\t'
    if rest.length < cs.length then some rest else none

/-- An offset at the end of a time. -/
def offset? (cs : List Char) : Option (Option (Option Char × List Char × List Char)) :=
  match cs.dropWhile fun c => c == ' ' || c == '\t' with
  | [] => if cs.isEmpty then some none else none
  | ['Z'] => some (some (none, [], []))
  | sign :: rest =>
    if sign == '+' || sign == '-' then do
      let (hours, rest) ← digitsOf 1 2 rest
      match rest with
      | [] => some (some (some sign, hours, []))
      | _ =>
        let rest ← after? ':' rest
        let (minutes, rest) ← digitsOf 2 2 rest
        if rest.isEmpty then some (some (some sign, hours, minutes)) else none
    else none

/-- The parts of a date with an optional time. -/
def momentParts? (cs : List Char) : Option MomentParts := do
  let (year, rest) ← digitsOf 4 4 cs
  let rest ← after? '-' rest
  let (month, rest) ← digitsOf 1 2 rest
  let rest ← after? '-' rest
  let (day, rest) ← digitsOf 1 2 rest
  if rest.isEmpty then return { year, month, day }
  let rest ← afterDate? rest
  let (hour, rest) ← digitsOf 1 2 rest
  let rest ← after? ':' rest
  let (minute, rest) ← digitsOf 2 2 rest
  let rest ← after? ':' rest
  let (second, rest) ← digitsOf 2 2 rest
  let (fraction, rest) := match rest with
    | '.' :: rest => (rest.takeWhile Char.isDigit, rest.dropWhile Char.isDigit)
    | rest => ([], rest)
  let offset ← offset? rest
  return { year, month, day, time := some (hour, minute, second, fraction), offset }

/-- Whether a plain text is a date, which has two digits for month and day, or a date with a time. -/
def isMomentText (cs : List Char) : Bool :=
  match momentParts? cs with
  | none => false
  | some p => p.time.isSome || (p.month.length == 2 && p.day.length == 2)

/-- The number of days of a month. -/
def daysIn (year month : Nat) : Nat :=
  if month == 2 then
    if year % 4 == 0 && (year % 100 != 0 || year % 400 == 0) then 29 else 28
  else if [4, 6, 9, 11].contains month then 30
  else 31

/-- A number in decimal with at least `width` digits. -/
def padded (width n : Nat) : String :=
  let digits := Nat.toDigits 10 n
  String.ofList (List.replicate (width - digits.length) '0' ++ digits)

/-- The text of an offset. -/
def offsetText? : Option (Option Char × List Char × List Char) → Option String
  | none => some ""
  | some (none, _, _) => some "+00:00"
  | some (some sign, hours, minutes) =>
    let total := 60 * Source.valueInBase 10 hours + Source.valueInBase 10 minutes
    if total ≥ 24 * 60 then none
    else
      let sign := if sign == '-' && total != 0 then "-" else "+"
      some (sign ++ padded 2 (total / 60) ++ ":" ++ padded 2 (total % 60))

/-- The text of a time. -/
def timeText? (hour minute second fraction : List Char) : Option String :=
  let h := Source.valueInBase 10 hour
  let m := Source.valueInBase 10 minute
  let s := Source.valueInBase 10 second
  if h < 24 && m < 60 && s < 60 then
    let micro := fraction.take 6
    let micro := micro ++ List.replicate (6 - micro.length) '0'
    let tail := if micro.all (· == '0') then "" else "." ++ String.ofList micro
    some (" " ++ padded 2 h ++ ":" ++ padded 2 m ++ ":" ++ padded 2 s ++ tail)
  else none

/-- The text of a date with an optional time, if there is such a day and such a time. -/
def MomentParts.text? (p : MomentParts) : Option String := do
  let y := Source.valueInBase 10 p.year
  let m := Source.valueInBase 10 p.month
  let d := Source.valueInBase 10 p.day
  if y == 0 || m == 0 || m > 12 || d == 0 || d > daysIn y m then none
  let date := padded 4 y ++ "-" ++ padded 2 m ++ "-" ++ padded 2 d
  match p.time with
  | none => return date
  | some (hour, minute, second, fraction) =>
    return date ++ (← timeText? hour minute second fraction) ++ (← offsetText? p.offset)

/-! ### Kinds and values -/

/-- The words for true, in lower case. -/
def trueWords : List String := ["yes", "true", "on"]

/-- The words for false, in lower case. -/
def falseWords : List String := ["no", "false", "off"]

/-- A word in small letters, with a capital, and in capitals. -/
def casings (word : String) : List String :=
  let cs := word.toList
  [word, String.ofList ((cs.take 1).map Char.toUpper ++ cs.drop 1),
    String.ofList (cs.map Char.toUpper)]

/-- The kind of a plain scalar. -/
def Tag.ofPlain (text : String) : Tag :=
  let cs := text.toList
  if ((trueWords ++ falseWords).flatMap casings).contains text then .bool
  else if isFloatText cs then .float
  else if isIntText cs then .int
  else if text == "<<" then .merge
  else if text.isEmpty || text == "~" || (casings "null").contains text then .null
  else if isMomentText cs then .moment
  else if text == "=" then .value
  else .text

/-- The start of the tags that the format itself defines. -/
def coreTags : String := "tag:yaml.org,2002:"

/-- The kind that a tag names. -/
def Tag.ofUri (uri : String) : Tag :=
  let names : List (String × Tag) :=
    [("null", .null), ("bool", .bool), ("int", .int), ("float", .float), ("str", .text),
      ("timestamp", .moment), ("merge", .merge), ("value", .value), ("seq", .sequence),
      ("map", .mapping)]
  ((names.find? fun (name, _) => coreTags ++ name == uri).map (·.2)).getD .unknown

/-- The value of a scalar of a kind. -/
def scalarValue (tag : Tag) (text : String) : Except Failure Value :=
  match tag with
  | .null => .ok .null
  | .text => .ok (.text text)
  | .bool =>
    let word := String.ofList (text.toList.map Char.toLower)
    if trueWords.contains word then .ok (.bool true)
    else if falseWords.contains word then .ok (.bool false)
    else .error .unknownWord
  | .int => (intValue text).map .int
  | .float => (floatValue text).map .float
  | .moment =>
    match momentParts? text.toList with
    | none => .error .notAMoment
    | some parts =>
      match parts.text? with
      | some s => .ok (.moment s)
      | none => .error .outOfRange
  | _ => .error .malformed

end CallReach.Yaml
