import CallReach.Text.Printable

/-!
# Quoted text

A text is shown between single quotes, or between double quotes when it holds a single quote and no
double one.  A backslash and the quote in use are written after a backslash, as are line feed,
carriage return and tab; every other character that is not printable is written by its code.
-/

namespace CallReach.Text

/-- The hexadecimal digits of `n`, at least `width` of them. -/
def hexDigits (width n : Nat) : List Char :=
  let digits := Nat.toDigits 16 n
  List.replicate (width - digits.length) '0' ++ digits

/-- The code of a character that is not printable: `\xNN`, `\uNNNN` or `\UNNNNNNNN`. -/
def codeEscape (n : Nat) : List Char :=
  if n < 0x100 then '\\' :: 'x' :: hexDigits 2 n
  else if n < 0x10000 then '\\' :: 'u' :: hexDigits 4 n
  else '\\' :: 'U' :: hexDigits 8 n

/-- One character of a quoted text. -/
def quoteChar (quote c : Char) : List Char :=
  if c == quote || c == '\\' then ['\\', c]
  else if c == '\n' then ['\\', 'n']
  else if c == '\r' then ['\\', 'r']
  else if c == '\t' then ['\\', 't']
  else if isPrintable c then [c]
  else codeEscape c.toNat

/-- The quote that surrounds a text. -/
def quoteFor (cs : List Char) : Char :=
  if cs.contains '\'' && !cs.contains '"' then '"' else '\''

/-- The text between quotes. -/
def quoted (s : String) : String :=
  let cs := s.toList
  let quote := quoteFor cs
  String.ofList (quote :: cs.flatMap (quoteChar quote) ++ [quote])

/-- One code point of a quoted text: one that is no character is written by its code. -/
def quoteCode (quote : Char) (n : Nat) : List Char :=
  if n.isValidChar then quoteChar quote (Char.ofNat n) else codeEscape n

/-- Code points between quotes. -/
def quotedCodes (codes : List Nat) : String :=
  let quote := quoteFor (codes.map Char.ofNat)
  String.ofList (quote :: codes.flatMap (quoteCode quote) ++ [quote])

/-- One byte of a quoted string of bytes: ASCII stands for itself. -/
def quoteByte (quote : Char) (b : UInt8) : List Char :=
  if b.toNat < 0x80 then quoteChar quote (Char.ofNat b.toNat) else codeEscape b.toNat

/-- A string of bytes between quotes, marked with a `b`. -/
def quotedBytes (bytes : List UInt8) : String :=
  let quote := quoteFor (bytes.map fun b => Char.ofNat b.toNat)
  String.ofList ('b' :: quote :: bytes.flatMap (quoteByte quote) ++ [quote])

/-- Items between brackets, with a comma and a space between them. -/
def bracketed (items : List String) : String :=
  "[" ++ ", ".intercalate items ++ "]"

/-- A list of texts, each of them quoted. -/
def quotedList (items : List String) : String :=
  bracketed (items.map quoted)

end CallReach.Text
