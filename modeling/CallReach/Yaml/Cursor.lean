/-!
# Reading YAML characters

A cursor is a place in a text with its line and column.  `Read` is a reader that moves a cursor and
may fail; beyond the end of the text it sees the null character, which no text holds.
-/

namespace CallReach.Yaml

/-- Why a text is no document. -/
inductive Failure where
  /-- The text breaks a rule of the format. -/
  | malformed
  /-- A number, a date or an escape is out of range. -/
  | outOfRange
  /-- A word tagged as a truth value is none. -/
  | unknownWord
  /-- A number has no characters. -/
  | emptyNumber
  /-- A text tagged as a date is none. -/
  | notAMoment
  deriving DecidableEq, Repr

/-- The character seen beyond the end. -/
def endChar : Char := '\x00'

/-- Whether a character ends a line. -/
def isBreak (c : Char) : Bool :=
  c == '\n' || c == '\r' || c.toNat == 0x85 || c.toNat == 0x2028 || c.toNat == 0x2029

/-- Whether a character ends a line or the text. -/
def isBreakOrEnd (c : Char) : Bool := isBreak c || c == endChar

/-- Whether a character is a space or ends a line or the text. -/
def isSpaceOrBreak (c : Char) : Bool := c == ' ' || isBreakOrEnd c

/-- Whether a character is a space or a tab or ends a line or the text. -/
def isGap (c : Char) : Bool := c == '\t' || isSpaceOrBreak c

/-- Whether a character may stand in a text. -/
def isAllowed (c : Char) : Bool :=
  let n := c.toNat
  n == 0x09 || n == 0x0A || n == 0x0D || (0x20 ≤ n && n ≤ 0x7E) || n == 0x85 ||
    (0xA0 ≤ n && n ≤ 0xFFFD) || 0x10000 ≤ n

/-- Whether a character is a byte order mark. -/
def isMark (c : Char) : Bool := c.toNat == 0xFEFF

/-- A place in a text. -/
structure Cursor where
  rest : List Char
  index : Nat := 0
  line : Nat := 0
  column : Nat := 0

namespace Cursor

/-- The cursor one character further. -/
def next (c : Cursor) : Cursor :=
  match c.rest with
  | [] => c
  | ch :: rest =>
    if isBreak ch && !(ch == '\r' && rest.head? == some '\n') then
      { rest, index := c.index + 1, line := c.line + 1, column := 0 }
    else
      { rest, index := c.index + 1, line := c.line,
        column := if isMark ch then c.column else c.column + 1 }

/-- The cursor some characters further. -/
def advance : Nat → Cursor → Cursor
  | 0, c => c
  | n + 1, c => advance n c.next

end Cursor

/-- A reader of characters. -/
abbrev Read := StateT Cursor (Except Failure)

namespace Read

/-- The character some places ahead. -/
def peekAt (n : Nat) : Read Char := do return ((← get).rest.drop n).headD endChar

/-- The next character. -/
def peek : Read Char := peekAt 0

/-- The next characters, at most `n`. -/
def ahead (n : Nat) : Read (List Char) := do return (← get).rest.take n

/-- Moves on by some characters. -/
def skip (n : Nat := 1) : Read Unit := modify (·.advance n)

/-- Fails because a rule of the format is broken. -/
def malformed {α : Type} : Read α := throw .malformed

/-- The column of the next character. -/
def column : Read Nat := do return (← get).column

/-- The characters from here on as long as they are of a class, which are left where they are. -/
def lookWhile (p : Char → Bool) : Read (List Char) := do return (← get).rest.takeWhile p

/-- Takes characters as long as they are of a class. -/
def takeWhile (p : Char → Bool) : Read (List Char) := do
  let cs ← lookWhile p
  skip cs.length
  return cs

/-- Skips spaces. -/
def skipSpaces : Read Unit := do
  let _ ← takeWhile (· == ' ')

/-- Skips a comment up to the end of its line. -/
def skipComment : Read Unit := do
  if (← peek) == '#' then
    let _ ← takeWhile (!isBreak ·)

/-- Takes a line end and gives the text it stands for, which is empty when there is none. -/
def lineBreak : Read (List Char) := do
  let c ← peek
  if c == '\r' || c == '\n' || c.toNat == 0x85 then
    skip (if (← ahead 2) == ['\r', '\n'] then 2 else 1)
    return ['\n']
  else if isBreak c then
    skip
    return [c]
  else return []

/-- Repeats a step until it gives none, at most `fuel` times. -/
def repeatFor {α : Type} (step : α → Read (Option α)) : Nat → α → Read α
  | 0, a => pure a
  | fuel + 1, a => do
    match ← step a with
    | some b => repeatFor step fuel b
    | none => return a

/-- Repeats a step until it gives none.  Every step takes a character or is the last one. -/
def repeatWhile {α : Type} (step : α → Read (Option α)) (a : α) : Read α := do
  repeatFor step ((← get).rest.length + 2) a

/-- Whether a document separator comes next at the start of a line. -/
def isSeparator : Read Bool := do
  let cs ← ahead 3
  return (cs == ['-', '-', '-'] || cs == ['.', '.', '.']) && isGap (← peekAt 3)

end Read

end CallReach.Yaml
