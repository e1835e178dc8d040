import CallReach.Source.Constant
import CallReach.Source.Host
import CallReach.Text.Integer

/-!
# Literals of source text

Numbers and strings as they are written.  A number may have single underscores between its digits,
and no letter may follow it, unless it starts a word that can follow a number.  A string has a mark
for its kind, one or three quotes, and escapes, which a raw string keeps as they stand.  A formatted
string is not taken apart here: it holds expressions.
-/

namespace CallReach.Source

open CallReach.Decimal (Double)

/-! ### Numbers -/

/-- Whether a character can be part of a word. -/
def isWordChar (c : Char) : Bool :=
  c.isAlphanum || c == '_' || c.toNat ≥ 0x80

/-- Digits of a class, with single underscores between them or before the first; none when an
underscore is followed by something else. -/
def digitRun (isDigit : Char → Bool) : List Char → Option (List Char × List Char)
  | [] => some ([], [])
  | ['_'] => none
  | '_' :: c :: rest =>
    if isDigit c then (digitRun isDigit rest).map fun (ds, rest) => (c :: ds, rest) else none
  | c :: rest =>
    if isDigit c then (digitRun isDigit rest).map fun (ds, rest) => (c :: ds, rest)
    else some ([], c :: rest)

/-- Whether the text starts with a word that ends there. -/
def startsWithWord (word : String) (cs : List Char) : Bool :=
  word.toList.isPrefixOf cs && !((cs.drop word.length).head?.map isWordChar).getD false

/-- Whether a number can end before the rest of the text: no letter follows, or one of the words that
join a number to what follows. -/
def numberEnds (rest : List Char) : Bool :=
  ["and", "else", "for", "or", "not"].any (startsWithWord · rest) ||
    ["if", "in", "is"].any (·.toList.isPrefixOf rest) ||
    !(rest.head?.map isWordChar).getD false

/-- The value of a digit in a base up to sixteen. -/
def digitValue (c : Char) : Nat :=
  if c.isDigit then c.toNat - '0'.toNat
  else c.toLower.toNat - 'a'.toNat + 10

/-- The number that digits write in a base. -/
def valueInBase (base : Nat) (digits : List Char) : Nat :=
  digits.foldl (fun n c => base * n + digitValue c) 0

/-- A whole number in a base other than ten, after its mark. -/
def basedNumber (base : Nat) (isDigit : Char → Bool) (cs : List Char) :
    Option (Constant × List Char) :=
  match digitRun isDigit cs with
  | some (digits, rest) =>
    if digits.isEmpty || (rest.head?.map Char.isDigit).getD false || !numberEnds rest then none
    else some (.int (valueInBase base digits), rest)
  | none => none

/-- Whether a character is a hexadecimal digit. -/
def isHexDigit (c : Char) : Bool :=
  c.isDigit || ('a' ≤ c && c ≤ 'f') || ('A' ≤ c && c ≤ 'F')

/-- Whether a character is an octal digit. -/
def isOctalDigit (c : Char) : Bool := '0' ≤ c && c ≤ '7'

/-- Whether a character is a binary digit. -/
def isBinaryDigit (c : Char) : Bool := c == '0' || c == '1'

/-- The digits of a fraction after its point; there need not be any. -/
def fractionDigits (cs : List Char) : Option (List Char × List Char) :=
  if (cs.head?.map Char.isDigit).getD false then digitRun Char.isDigit cs else some ([], cs)

/-- An exponent: its value, if there is one, and the rest. -/
def exponentPart (cs : List Char) : Option (Option Int × List Char) :=
  match cs with
  | e :: rest =>
    if e == 'e' || e == 'E' then
      let (sign, digits) := match rest with
        | '+' :: r => (some false, r)
        | '-' :: r => (some true, r)
        | r => (none, r)
      if (digits.head?.map Char.isDigit).getD false then
        (digitRun Char.isDigit digits).map fun (ds, rest) =>
          let n : Int := valueInBase 10 ds
          (some (if sign == some true then -n else n), rest)
      else if sign.isSome then none
      else if numberEnds cs then some (none, cs)
      else none
    else some (none, cs)
  | [] => some (none, [])

/-- A decimal number from its whole digits on; `fraction` is there when a point follows them. -/
def finishDecimal (whole : List Char) (fraction : Option (List Char)) (cs : List Char) :
    Option (Constant × List Char) :=
  (exponentPart cs).bind fun (exponent, rest) =>
    let digits := whole ++ fraction.getD []
    let shift : Int := exponent.getD 0 - (fraction.getD []).length
    let value := Double.ofDecimal false (valueInBase 10 digits) shift
    match rest with
    | 'j' :: rest => if numberEnds rest then some (.imaginary value, rest) else none
    | 'J' :: rest => if numberEnds rest then some (.imaginary value, rest) else none
    | rest =>
      if !numberEnds rest then none
      else if fraction.isSome || exponent.isSome then some (.float value, rest)
      else if whole.head? == some '0' && whole.any (· != '0') then none
      else if whole.length > Text.maxDigits then none
      else some (.int (valueInBase 10 whole), rest)

/-- A decimal number. -/
def decimalNumber (cs : List Char) : Option (Constant × List Char) :=
  (digitRun Char.isDigit cs).bind fun (whole, rest) =>
    match rest with
    | '.' :: rest =>
      (fractionDigits rest).bind fun (fraction, rest) => finishDecimal whole (some fraction) rest
    | rest => finishDecimal whole none rest

/-- A number at the start of the text. -/
def number : List Char → Option (Constant × List Char)
  | '0' :: c :: rest =>
    if c == 'x' || c == 'X' then basedNumber 16 isHexDigit rest
    else if c == 'o' || c == 'O' then basedNumber 8 isOctalDigit rest
    else if c == 'b' || c == 'B' then basedNumber 2 isBinaryDigit rest
    else decimalNumber ('0' :: c :: rest)
  | cs => decimalNumber cs

/-! ### Strings -/

/-- The mark before the quotes of a string. -/
structure StringMark where
  raw : Bool := false
  bytes : Bool := false
  /-- Whether the mark is a small `u`. -/
  marked : Bool := false
  /-- Whether there are expressions between braces in the string. -/
  formatted : Bool := false
  deriving DecidableEq, Repr

/-- The mark that letters before a quote make. -/
def StringMark.ofLetters? (letters : List Char) : Option StringMark :=
  match letters with
  | [] => some {}
  | [c] =>
    if c == 'u' then some { marked := true }
    else if c == 'U' then some {}
    else if c.toLower == 'r' then some { raw := true }
    else if c.toLower == 'b' then some { bytes := true }
    else if c.toLower == 'f' then some { formatted := true }
    else none
  | [c, d] =>
    if [['r', 'b'], ['b', 'r']].contains [c.toLower, d.toLower] then
      some { raw := true, bytes := true }
    else if [['r', 'f'], ['f', 'r']].contains [c.toLower, d.toLower] then
      some { raw := true, formatted := true }
    else none
  | _ => none

/-- The characters up to the closing quotes, and what follows these. -/
def stringBody (quote : Char) (triple : Bool) : List Char → Option (List Char × List Char)
  | [] => none
  | '\\' :: c :: rest =>
    (stringBody quote triple rest).map fun (body, rest) => ('\\' :: c :: body, rest)
  | c :: rest =>
    if triple then
      if c == quote && rest.head? == some quote && (rest.drop 1).head? == some quote then
        some ([], rest.drop 2)
      else (stringBody quote triple rest).map fun (body, rest) => (c :: body, rest)
    else if c == quote then some ([], rest)
    else if c == '\n' then none
    else (stringBody quote triple rest).map fun (body, rest) => (c :: body, rest)

/-- The code points of single-letter escapes. -/
def simpleEscape? : Char → Option Nat
  | '\\' => some 0x5C
  | '\'' => some 0x27
  | '"' => some 0x22
  | 'a' => some 0x07
  | 'b' => some 0x08
  | 'f' => some 0x0C
  | 'n' => some 0x0A
  | 'r' => some 0x0D
  | 't' => some 0x09
  | 'v' => some 0x0B
  | _ => none

/-- The number that exactly `count` hexadecimal digits write. -/
def hexEscape? (count : Nat) (cs : List Char) : Option Nat :=
  let digits := cs.take count
  if digits.length == count && digits.all isHexDigit then some (valueInBase 16 digits) else none

/-- The code point of a character whose name stands between braces, and how many characters the name
and the braces take. -/
def namedEscape? (host : Host) (cs : List Char) : Option (Nat × Nat) :=
  match cs with
  | '{' :: rest =>
    let name := rest.takeWhile (· != '}')
    if name.isEmpty || !rest.contains '}' then none
    else (host.characterNamed (String.ofList name)).map fun n => (n, name.length + 2)
  | _ => none

/-- One escape after its backslash: its code points and how many characters it takes.  A letter that
is no escape stands for itself, after the backslash. -/
def escape? (host : Host) (bytes : Bool) (cs : List Char) : Option (List Nat × Nat) :=
  match cs with
  | [] => some ([0x5C], 0)
  | c :: rest =>
    if c == '\n' then some ([], 1)
    else if let some n := simpleEscape? c then some ([n], 1)
    else if isOctalDigit c then
      let digits := (cs.take 3).takeWhile isOctalDigit
      let n := valueInBase 8 digits
      some ([if bytes then n % 256 else n], digits.length)
    else if c == 'x' then (hexEscape? 2 rest).map fun n => ([n], 3)
    else if bytes then some ([0x5C], 0)
    else if c == 'u' then (hexEscape? 4 rest).map fun n => ([n], 5)
    else if c == 'U' then
      (hexEscape? 8 rest).bind fun n => if n ≤ 0x10FFFF then some ([n], 9) else none
    else if c == 'N' then (namedEscape? host rest).map fun (n, taken) => ([n], taken + 1)
    else some ([0x5C], 0)

/-- The code points of the body of a string; `skip` characters have already been read. -/
def unescape (host : Host) (bytes : Bool) (skip : Nat) : List Char → Option (List Nat)
  | [] => some []
  | c :: rest =>
    match skip with
    | n + 1 => unescape host bytes n rest
    | 0 =>
      if c == '\\' then
        match escape? host bytes rest with
        | none => none
        | some (codes, taken) => (unescape host bytes taken rest).map (codes ++ ·)
      else (unescape host bytes 0 rest).map (c.toNat :: ·)

/-- The code points of some text of a string: its characters if the string is raw. -/
def decode (host : Host) (raw bytes : Bool) (cs : List Char) : Option (List Nat) :=
  if raw then some (cs.map Char.toNat) else unescape host bytes 0 cs

/-- The constant that a string with a mark and a body is. -/
def StringMark.constant? (host : Host) (mark : StringMark) (body : List Char) : Option Constant :=
  if mark.bytes && body.any (·.toNat ≥ 0x80) then none
  else
    (decode host mark.raw mark.bytes body).map fun codes =>
      if mark.bytes then .bytes (codes.map Nat.toUInt8) else .text mark.marked codes

/-- The body of a string after its mark, from its first quote on, and the rest. -/
def quotedBody (cs : List Char) : Option (List Char × List Char) :=
  match cs with
  | [] => none
  | quote :: rest =>
    let triple := rest.head? == some quote && (rest.drop 1).head? == some quote
    stringBody quote triple (if triple then rest.drop 2 else rest)

end CallReach.Source
