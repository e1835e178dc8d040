import CallReach.Text.Quoted

/-!
# Text between quotes without backslashes

Text can be put between single quotes or double quotes, one or three of each, and often there is a
choice that leaves no quote and no line feed to be escaped.  Backslashes and characters that are not
printable are escaped all the same.
-/

namespace CallReach.Text

/-- Quotes around a text: single or double ones, one or three of them. -/
structure Quotes where
  double : Bool := false
  triple : Bool := false
  deriving DecidableEq, Repr

/-- The character of quotes. -/
def Quotes.mark (q : Quotes) : Char := if q.double then '"' else '\''

/-- The characters of quotes. -/
def Quotes.chars (q : Quotes) : List Char := List.replicate (if q.triple then 3 else 1) q.mark

/-- All quotes, those that are preferred first. -/
def allQuotes : List Quotes := [⟨false, false⟩, ⟨true, false⟩, ⟨true, true⟩, ⟨false, true⟩]

/-- Text between quotes. -/
def Quotes.around (q : Quotes) (cs : List Char) : List Char := q.chars ++ cs ++ q.chars

/-- One code point: a backslash and what is not printable are escaped, tabs and line feeds only if
`blanks` says so. -/
def plainCode (blanks : Bool) (n : Nat) : List Char :=
  if !blanks && (n == 0x09 || n == 0x0A) then [Char.ofNat n] else quoteCode '\\' n

/-- Whether some characters occur in a text one after the other. -/
def occursIn (run : List Char) : List Char → Bool
  | [] => run.isEmpty
  | c :: cs => run.isPrefixOf (c :: cs) || occursIn run cs

/-- The quotes that need not be escaped in a text. -/
def freeQuotes (quotes : List Quotes) (cs : List Char) : List Quotes :=
  quotes.filter fun q => (q.triple || !cs.contains '\n') && !occursIn q.chars cs

/-- Code points as they stand between quotes, and the quotes they can stand between, the best first.
Where no quotes will do, the text is escaped for some of them. -/
def literalBody (quotes : List Quotes) (blanks : Bool) (codes : List Nat) :
    List Char × List Quotes :=
  let cs := codes.flatMap (plainCode blanks)
  match freeQuotes quotes cs, cs.getLast? with
  | [], _ =>
    let mark := quoteFor (codes.map Char.ofNat)
    (codes.flatMap (quoteCode mark), [(quotes.find? (·.mark == mark)).getD ⟨mark == '"', false⟩])
  | free, none => (cs, free)
  | free, some last =>
    -- a quote at the end is escaped only if there are no other quotes
    match free.filter (·.mark != last) with
    | [] => (cs.dropLast ++ ['\\', last], free)
    | others => (cs, others ++ free.filter (·.mark == last))

/-- Code points between quotes, without backslashes if it can be. -/
def plainlyQuoted (codes : List Nat) : List Char :=
  let (cs, quotes) := literalBody allQuotes false codes
  (quotes.headD {}).around cs

/-- Several texts, each with a mark that says whether its tabs and line feeds are escaped, and the
quotes that all of them can stand between; none when there are no such quotes. -/
def jointBody (quotes : List Quotes) : List (List Nat × Bool) → Option (List Char × List Quotes)
  | [] => some ([], quotes)
  | (codes, blanks) :: rest =>
    let (cs, free) := literalBody quotes blanks codes
    if free.any quotes.contains then (jointBody free rest).map fun (more, q) => (cs ++ more, q)
    else none

/-- Several texts between the same quotes. -/
def jointlyQuoted (parts : List (List Nat × Bool)) : List Char :=
  match jointBody allQuotes parts with
  | some (cs, quotes) => (quotes.headD {}).around cs
  | none => Quotes.around ⟨false, true⟩ (parts.flatMap fun (codes, _) => codes.flatMap (quoteCode '\''))

end CallReach.Text
