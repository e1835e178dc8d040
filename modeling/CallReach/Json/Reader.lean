import CallReach.Data.Value
import CallReach.Text.Integer

/-!
# Reading JSON

One value with blanks around it.  Beside the standard grammar the words `NaN`, `Infinity` and
`-Infinity` are numbers, a number with a point or an exponent is a floating-point number, and of two
entries with the same key the later value stands at the place of the earlier one.
-/

namespace CallReach.Json

open CallReach.Data (Value Entries)
open CallReach.Decimal (Double)

/-- Why a text is not read. -/
inductive Failure where
  /-- The text is not in the grammar. -/
  | malformed
  /-- An integer has more digits than are read. -/
  | tooManyDigits
  deriving DecidableEq, Repr

/-- A reader gives a value and the characters after it. -/
abbrev Reader (α : Type) := List Char → Except Failure (α × List Char)

/-- The blanks of JSON. -/
def isSpace (c : Char) : Bool := c == ' ' || c == '\t' || c == '\n' || c == '\r'

/-- The characters after the blanks. -/
def skipSpace (cs : List Char) : List Char := cs.dropWhile isSpace

/-- The value of a hexadecimal digit. -/
def hexDigit? (c : Char) : Option Nat :=
  if c.isDigit then some (c.toNat - '0'.toNat)
  else if 'a' ≤ c && c ≤ 'f' then some (c.toNat - 'a'.toNat + 10)
  else if 'A' ≤ c && c ≤ 'F' then some (c.toNat - 'A'.toNat + 10)
  else none

/-- Four hexadecimal digits. -/
def hexCode? : List Char → Option (Nat × List Char)
  | a :: b :: c :: d :: rest => do
    let a ← hexDigit? a
    let b ← hexDigit? b
    let c ← hexDigit? c
    let d ← hexDigit? d
    return (((a * 16 + b) * 16 + c) * 16 + d, rest)
  | _ => none

/-- Whether a code unit is the first half of a pair. -/
def isHighHalf (n : Nat) : Bool := 0xD800 ≤ n && n ≤ 0xDBFF

/-- Whether a code unit is the second half of a pair. -/
def isLowHalf (n : Nat) : Bool := 0xDC00 ≤ n && n ≤ 0xDFFF

/-- The character of a `\u` escape, whose second half may follow in another one. -/
def codeChar? (cs : List Char) : Option (Char × List Char) :=
  match hexCode? cs with
  | none => none
  | some (n, rest) =>
    if isHighHalf n then
      match rest with
      | '\\' :: 'u' :: rest' =>
        match hexCode? rest' with
        | some (m, rest'') =>
          if isLowHalf m then
            some (Char.ofNat (0x10000 + (n - 0xD800) * 0x400 + (m - 0xDC00)), rest'')
          else some (Char.ofNat n, rest)
        | none => some (Char.ofNat n, rest)
      | _ => some (Char.ofNat n, rest)
    else some (Char.ofNat n, rest)

/-- The character of a one-letter escape. -/
def escape? : Char → Option Char
  | '"' => some '"'
  | '\\' => some '\\'
  | '/' => some '/'
  | 'b' => some '\x08'
  | 'f' => some '\x0c'
  | 'n' => some '\n'
  | 'r' => some '\r'
  | 't' => some '\t'
  | _ => none

/-- The characters of a string up to its closing quote, after those in `done` (backwards). -/
def stringFrom : Nat → (done : List Char) → Reader String
  | 0, _, _ => .error .malformed
  | _, _, [] => .error .malformed
  | _, done, '"' :: rest => .ok (String.ofList done.reverse, rest)
  | fuel + 1, done, '\\' :: 'u' :: rest =>
    match codeChar? rest with
    | some (c, rest) => stringFrom fuel (c :: done) rest
    | none => .error .malformed
  | fuel + 1, done, '\\' :: e :: rest =>
    match escape? e with
    | some c => stringFrom fuel (c :: done) rest
    | none => .error .malformed
  | fuel + 1, done, c :: rest =>
    if c == '\\' || c.toNat < 0x20 then .error .malformed else stringFrom fuel (c :: done) rest

/-- A string after its opening quote. -/
def string (cs : List Char) : Except Failure (String × List Char) :=
  stringFrom (cs.length + 1) [] cs

/-- The digits at the start, and what follows them. -/
def digits (cs : List Char) : List Char × List Char :=
  (cs.takeWhile Char.isDigit, cs.dropWhile Char.isDigit)

/-- The number written by ASCII digits. -/
def digitsValue (cs : List Char) : Nat :=
  cs.foldl (fun n c => 10 * n + (c.toNat - '0'.toNat)) 0

/-- The digits after a point, if there is a point with digits after it. -/
def fraction (cs : List Char) : List Char × List Char :=
  match cs with
  | '.' :: rest =>
    let (ds, rest') := digits rest
    if ds.isEmpty then ([], cs) else (ds, rest')
  | _ => ([], cs)

/-- An exponent with its sign, if there is one. -/
def exponent (cs : List Char) : Option Int × List Char :=
  match cs with
  | e :: rest =>
    if e == 'e' || e == 'E' then
      let (negative, rest') :=
        match rest with
        | '-' :: r => (true, r)
        | '+' :: r => (false, r)
        | r => (false, r)
      let (ds, rest'') := digits rest'
      if ds.isEmpty then (none, cs)
      else
        let n : Int := digitsValue ds
        (some (if negative then -n else n), rest'')
    else (none, cs)
  | [] => (none, cs)

/-- The whole part of a number: a zero, or digits that do not start with one. -/
def wholePart (cs : List Char) : Option (List Char × List Char) :=
  match cs with
  | '0' :: rest => some (['0'], rest)
  | c :: _ => if c.isDigit then some (digits cs) else none
  | [] => none

/-- A number after its sign. -/
def number (negative : Bool) (cs : List Char) : Except Failure (Value × List Char) :=
  match wholePart cs with
  | none => .error .malformed
  | some (whole, rest) =>
    let (frac, rest) := fraction rest
    let (exp, rest) := exponent rest
    if frac.isEmpty && exp.isNone then
      if whole.length > Text.maxDigits then .error .tooManyDigits
      else
        let n : Int := digitsValue whole
        .ok (.int (if negative then -n else n), rest)
    else
      let shift : Int := exp.getD 0 - frac.length
      .ok (.float (Double.ofDecimal negative (digitsValue (whole ++ frac)) shift), rest)

/-- The rest after a given word. -/
def afterWord? (word : String) (cs : List Char) : Option (List Char) :=
  if word.toList.isPrefixOf cs then some (cs.drop word.length) else none

/-- The words that are values. -/
def wordValues : List (String × Value) :=
  [("null", .null), ("true", .bool true), ("false", .bool false), ("NaN", .float .nan),
    ("Infinity", .float (.infinite false)), ("-Infinity", .float (.infinite true))]

/-- A word or a number. -/
def scalar (cs : List Char) : Except Failure (Value × List Char) :=
  match wordValues.findSome? fun (word, v) => (afterWord? word cs).map fun rest => (v, rest) with
  | some result => .ok result
  | none =>
    match cs with
    | '-' :: rest => number true rest
    | _ => number false cs

mutual

/-- One value, its first character at the front. -/
def value : Nat → Reader Value
  | 0, _ => .error .malformed
  | fuel + 1, cs =>
    match cs with
    | '"' :: rest => (string rest).map fun (s, rest) => (.text s, rest)
    | '[' :: rest =>
      match skipSpace rest with
      | ']' :: rest => .ok (.list [], rest)
      | rest => items fuel [] rest
    | '{' :: rest =>
      match skipSpace rest with
      | '}' :: rest => .ok (.map [], rest)
      | rest => fields fuel [] rest
    | cs => scalar cs

/-- The items of a list from the next one on, after those in `done` (backwards). -/
def items : Nat → (done : List Value) → Reader Value
  | 0, _, _ => .error .malformed
  | fuel + 1, done, cs =>
    match value fuel (skipSpace cs) with
    | .error e => .error e
    | .ok (v, rest) =>
      match skipSpace rest with
      | ',' :: rest => items fuel (v :: done) rest
      | ']' :: rest => .ok (.list (v :: done).reverse, rest)
      | _ => .error .malformed

/-- The entries of an object from the next one on, after those in `done` (backwards). -/
def fields : Nat → (done : List (String × Value)) → Reader Value
  | 0, _, _ => .error .malformed
  | fuel + 1, done, cs =>
    match skipSpace cs with
    | '"' :: rest =>
      match string rest with
      | .error e => .error e
      | .ok (key, rest) =>
        match skipSpace rest with
        | ':' :: rest =>
          match value fuel (skipSpace rest) with
          | .error e => .error e
          | .ok (v, rest) =>
            match skipSpace rest with
            | ',' :: rest => fields fuel ((key, v) :: done) rest
            | '}' :: rest =>
              .ok (Value.record (Entries.ofList ((key, v) :: done).reverse), rest)
            | _ => .error .malformed
        | _ => .error .malformed
    | _ => .error .malformed

end

/-- The value a text consists of. -/
def parse (text : String) : Except Failure Value :=
  let cs := skipSpace text.toList
  match value (2 * cs.length + 2) cs with
  | .error e => .error e
  | .ok (v, rest) => if (skipSpace rest).isEmpty then .ok v else .error .malformed

end CallReach.Json
