import CallReach.Source.Literal
import CallReach.Source.Tree

/-!
# Formatted strings

The body of a formatted string is text with fields between braces.  A brace that is part of the text
is doubled.  A field holds an expression and may go on with an equals sign, which puts the text of
the expression before its value, with a conversion and with a format.  A format is text with fields
again, in which braces are not doubled; formats are nested only once.

An expression holds no backslash and no number sign, and it ends at the first sign that stands
outside of brackets and strings and can end it.
-/

namespace CallReach.Source

namespace Formatted

/-- Some text up to a field, to the end of a format or to the end of the string, as it is written;
whether it ends with one of two braces; and the rest.  `top` says that this is not a format, and
`skip` characters belong to an escape. -/
def literal (raw top : Bool) (skip : Nat) : List Char → Option (List Char × Bool × List Char)
  | [] => some ([], false, [])
  | c :: rest =>
    let go (skip : Nat) := (literal raw top skip rest).map fun (cs, more) => (c :: cs, more)
    match skip with
    | n + 1 => go n
    | 0 =>
      if !raw && c == '\\' then
        match rest with
        | 'N' :: '{' :: name => go (3 + (name.takeWhile (· != '}')).length)
        | '{' :: _ => go 0
        | '}' :: _ => go 0
        | _ => go 1
      else if c == '{' || c == '}' then
        if top && rest.head? == some c then some ([c], true, rest.tail)
        else if top && c == '}' then none
        else some ([], false, c :: rest)
      else go 0

/-- Whether two characters are one sign of a comparison, which does not end an expression. -/
def isComparison (c : Char) (next : Option Char) : Bool :=
  next == some '=' && (c == '!' || c == '=' || c == '<' || c == '>')

/-- The text of an expression, and the rest from the sign on that ends it.  `quote` is the quote of
the string that is open, and whether there are three of it; `opened` are the brackets that are open,
the innermost first; and `skip` characters have been looked at. -/
def expressionText (quote : Option (Char × Bool)) (opened : List Char) (skip : Nat) :
    List Char → Option (List Char × List Char)
  | [] => none
  | c :: rest =>
    let go (quote : Option (Char × Bool)) (opened : List Char) (skip : Nat) :=
      (expressionText quote opened skip rest).map fun (cs, rest) => (c :: cs, rest)
    let isTriple := rest.head? == some c && (rest.drop 1).head? == some c
    match skip with
    | n + 1 => go quote opened n
    | 0 =>
      if c == '\\' then none
      else
        match quote with
        | some (q, triple) =>
          if c != q then go quote opened 0
          else if !triple then go none opened 0
          else if isTriple then go none opened 2
          else go quote opened 0
        | none =>
          if c == '\'' || c == '"' then go (some (c, isTriple)) opened (if isTriple then 2 else 0)
          else if c == '#' then none
          else if c == '(' || c == '[' || c == '{' then
            if opened.length < 200 then go none (c :: opened) 0 else none
          else
            match opened with
            | [] =>
              if isComparison c rest.head? then go none [] 1
              else if c == '!' || c == ':' || c == '=' || c == '}' then some ([], c :: rest)
              else if c == ')' || c == ']' then none
              else go none [] 0
            | o :: outer =>
              if c == ')' || c == ']' || c == '}' then
                if (o, c) == ('(', ')') || (o, c) == ('[', ']') || (o, c) == ('{', '}') then
                  go none outer 0
                else none
              else go none opened 0

/-- Whether a character is a blank of ASCII. -/
def isSpace (c : Char) : Bool := c == ' ' || (0x09 ≤ c.toNat && c.toNat ≤ 0x0D)

/-- Whether there is nothing but blanks in the text of an expression. -/
def isBlank (cs : List Char) : Bool :=
  cs.all fun c => c == ' ' || c == '\t' || c == '\n' || c == '\x0c'

/-- The text that an equals sign after an expression stands for, and the rest. -/
def shownText (code : List Char) : List Char → Option (List Char) × List Char
  | '=' :: rest => (some (code ++ '=' :: rest.takeWhile isSpace), rest.dropWhile isSpace)
  | rest => (none, rest)

/-- The conversion of a field, if there is one, and the rest. -/
def conversion : List Char → Option (Option Conversion × List Char)
  | '!' :: c :: rest =>
    if c == 's' then some (some .str, rest)
    else if c == 'r' then some (some .repr, rest)
    else if c == 'a' then some (some .ascii, rest)
    else none
  | ['!'] => none
  | rest => some (none, rest)

/-- Pieces without empty texts, and with one text where there were several. -/
def merge : List Piece → List Piece
  | [] => []
  | .text xs :: rest =>
    match merge rest with
    | .text ys :: more => .text (xs ++ ys) :: more
    | more => if xs.isEmpty then more else .text xs :: more
  | piece :: rest => piece :: merge rest

section Pieces

variable (host : Host) (raw : Bool) (last : Nat) (read : Nat → List Char → Option Expr)

/-- The format of a field, if there is one, and the rest. -/
def format (pieces : List Char → Option (List Piece × List Char)) :
    List Char → Option (Option (List Piece) × List Char)
  | ':' :: rest => (pieces rest).map fun (ps, rest) => (some (merge ps), rest)
  | rest => some (none, rest)

/-- A field after its brace: the text that it puts before its value, the field itself and the rest.
`last` is the line on which the string ends, and `read` reads the expression that starts on a line;
the format is read as `pieces`. -/
def field (pieces : List Char → Option (List Piece × List Char)) (cs : List Char) :
    Option (List Nat × Piece × List Char) := do
  let (code, rest) ← expressionText none [] 0 cs
  guard !(isBlank code)
  let value ← read (last - cs.count '\n') code
  let (shown, rest) := shownText code rest
  let (converted, rest) ← conversion rest
  let (fmt, rest) ← format pieces rest
  guard (rest.head? == some '}')
  let converted :=
    if shown.isSome && converted.isNone && fmt.isNone then some .repr else converted
  return ((shown.getD []).map Char.toNat, .field value converted fmt, rest.tail)

/-- The pieces up to the end of the string or the format, and the rest.  A string may hold fields,
the formats of which may hold fields: `nesting` is 2 outside of formats and 0 in the inner ones. -/
def pieces : (fuel nesting : Nat) → List Char → Option (List Piece × List Char)
  | 0, _, _ => none
  | fuel + 1, nesting, cs => do
    let (written, doubled, rest) ← literal raw (nesting == 2) 0 cs
    let codes ← decode host raw false written
    if doubled then
      let (more, rest) ← pieces fuel nesting rest
      return (.text codes :: more, rest)
    else if rest.head? == some '{' then
      guard (nesting != 0)
      let (shown, piece, rest) ← field last read (pieces fuel (nesting - 1)) rest.tail
      let (more, rest) ← pieces fuel nesting rest
      return (.text (codes ++ shown) :: piece :: more, rest)
    else return ([.text codes], rest)

end Pieces

/-- The pieces of a formatted string that starts on a line. -/
def read (host : Host) (expression : Nat → List Char → Option Expr) (line : Nat) (raw : Bool)
    (body : List Char) : Option (List Piece) :=
  (pieces host raw (line + body.count '\n') expression (body.length + 1) 2 body).map
    fun (ps, _) => merge ps

end Formatted

end CallReach.Source
