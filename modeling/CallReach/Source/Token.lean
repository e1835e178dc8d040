import CallReach.Source.Literal
import CallReach.Text.Identifier
import CallReach.Text.Normal

/-!
# Tokens of source text

`Token.scan` cuts source text into tokens.  Line ends and changes of indentation are tokens of their
own; inside brackets, and on lines without code, neither counts.

A tab takes a line to the next multiple of eight columns.  Indentation is also measured with tabs of
one column, and the two measures have to agree on what is deeper.

A word with characters beyond ASCII is a name, which is read as its normal form (`Text.normalForm`).
It is no keyword, even if its normal form is spelled like one.
-/

namespace CallReach.Source

/-- What a token is. -/
inductive TokenKind where
  /-- A name or a keyword. -/
  | word (s : String)
  /-- A name that has been brought to its normal form. -/
  | name (s : String)
  | literal (c : Constant)
  /-- A formatted string and whether it is raw. -/
  | formatted (raw : Bool) (body : List Char)
  /-- An operator or a bracket. -/
  | op (s : String)
  | newline
  | indent
  | dedent
  /-- The end of the text. -/
  | stop
  deriving DecidableEq, Inhabited

/-- A token, the line it starts on, and the line on which the token before it ends. -/
structure Token where
  kind : TokenKind
  line : Nat
  before : Nat
  deriving DecidableEq, Inhabited

namespace Token

/-- Operators of three, two and one characters. -/
def operators : List String :=
  ["**=", "//=", ">>=", "<<=", "...", "!=", "%=", "&=", "**", "*=", "+=", "-=", "->", "//", "/=",
    ":=", "<<", "<=", "<>", "==", ">=", ">>", "@=", "^=", "|=", "%", "&", "(", ")", "*", "+", ",",
    "-", ".", "/", ":", ";", "<", "=", ">", "@", "[", "]", "^", "\x7b", "|", "\x7d", "~"]

/-- The longest operator at the start of the text. -/
def operator? (cs : List Char) : Option String :=
  operators.find? fun op => op.toList.isPrefixOf cs

/-- The deepest nesting of brackets. -/
def maxBrackets : Nat := 200

/-- The deepest nesting of indentation, the outermost level included. -/
def maxIndents : Nat := 100

/-- The bracket that closes another. -/
def closing? : Char → Option Char
  | '(' => some ')'
  | '[' => some ']'
  | '{' => some '}'
  | _ => none

/-- The brackets that are open after an operator, the innermost first; none when it does not fit. -/
def bracketsAfter? (op : String) (opened : List Char) : Option (List Char) :=
  match op.toList with
  | [c] =>
    if (closing? c).isSome then if opened.length < maxBrackets then some (c :: opened) else none
    else if c == ')' || c == ']' || c == '}' then
      match opened with
      | o :: rest => if closing? o == some c then some rest else none
      | [] => none
    else some opened
  | _ => some opened

/-- A place on a line in two measures: tabs of eight columns, and tabs of one. -/
structure Column where
  wide : Nat := 0
  narrow : Nat := 0
  deriving DecidableEq, Repr

/-- The indentation of a line: where its code starts, the line feeds passed on the way, and the rest.
A backslash joins the next line; the code is then as deep as the first of the joined lines, unless
this is not indented. -/
def indentation (at_ : Column) (first : Nat) (passed : Nat) :
    List Char → Option (Column × Nat × List Char)
  | [] => some (if first = 0 then at_ else ⟨first, first⟩, passed, [])
  | ['\\'] => none
  | ['\\', '\n'] => none
  | '\\' :: c :: rest =>
    if c == '\n' then indentation at_ (if first = 0 then at_.wide else first) (passed + 1) rest
    else none
  | c :: rest =>
    if c == ' ' then indentation ⟨at_.wide + 1, at_.narrow + 1⟩ first passed rest
    else if c == '\t' then
      indentation ⟨(at_.wide / 8 + 1) * 8, at_.narrow + 1⟩ first passed rest
    else if c == '\x0c' then indentation ⟨0, 0⟩ first passed rest
    else some (if first = 0 then at_ else ⟨first, first⟩, passed, c :: rest)

/-- The levels of indentation left after a line that is not deeper than the innermost, and how many
were left. -/
def dedentTo (at_ : Column) : List Column → Nat × List Column
  | [] => (0, [])
  | level :: rest =>
    if at_.wide < level.wide && !rest.isEmpty then
      let (n, levels) := dedentTo at_ rest
      (n + 1, levels)
    else (0, level :: rest)

/-- The tokens for a change of indentation and the new levels, the innermost first; none when the
measures disagree or no level fits. -/
def indentTokens? (at_ : Column) (levels : List Column) : Option (List TokenKind × List Column) :=
  match levels with
  | [] => none
  | level :: _ =>
    if at_.wide > level.wide then
      if levels.length ≥ maxIndents || at_.narrow ≤ level.narrow then none
      else some ([.indent], at_ :: levels)
    else
      let (n, left) := dedentTo at_ levels
      if left.head? == some at_ then some (List.replicate n .dedent, left) else none

/-- Where the scan is. -/
structure Scan where
  line : Nat := 1
  opened : List Char := []
  levels : List Column := [{}]
  /-- The line on which the last token ended. -/
  last : Nat := 1
  /-- The tokens found, the last one first. -/
  found : List Token := []

namespace Scan

/-- Adds a token that starts on this line and goes over some line feeds. -/
def emit (s : Scan) (kind : TokenKind) (passed : Nat := 0) : Scan :=
  { s with
    line := s.line + passed
    last := s.line + passed
    found := ⟨kind, s.line, s.last⟩ :: s.found }

/-- Adds a token that marks a change of lines. -/
def mark (s : Scan) (kind : TokenKind) : Scan :=
  { s with found := ⟨kind, s.line, s.last⟩ :: s.found }

end Scan

/-- Whether characters make a name. -/
def isName : List Char → Bool
  | [] => false
  | c :: rest => Text.isNameStart c && rest.all Text.isNamePart

/-- A word with characters beyond ASCII: it has to be a name.  The normal form of a name is a name
again, by the way names are defined. -/
def name? (word : List Char) : Option TokenKind :=
  let normal := Text.normalForm word
  if isName word && isName normal then some (.name (String.ofList normal)) else none

/-- A word at the start of the text. -/
def word? (cs : List Char) : Option (TokenKind × List Char) :=
  let word := cs.takeWhile isWordChar
  let kind := if word.any (·.toNat ≥ 0x80) then name? word else some (.word (String.ofList word))
  kind.map fun kind => (kind, cs.dropWhile isWordChar)

/-- The mark of a string and the text from its quote on, when a string starts here. -/
def stringStart? (cs : List Char) : Option (StringMark × List Char) :=
  let letters := cs.takeWhile Char.isAlpha
  let rest := cs.dropWhile Char.isAlpha
  match rest with
  | c :: _ =>
    if c == '"' || c == '\'' then
      (StringMark.ofLetters? letters).map fun mark => (mark, rest)
    else none
  | [] => none

/-- A string after its mark, from its first quote on: what it is, the line feeds in it and the
rest. -/
def string (host : Host) (mark : StringMark) (cs : List Char) :
    Option (TokenKind × Nat × List Char) :=
  (quotedBody cs).bind fun (body, rest) =>
    let kind :=
      if mark.formatted then some (.formatted mark.raw body)
      else (mark.constant? host body).map .literal
    kind.map fun kind => (kind, body.count '\n', rest)

/-- One token that is neither blank nor a line end, and the rest. -/
def one (host : Host) (s : Scan) (cs : List Char) : Option (Scan × List Char) :=
  match stringStart? cs with
  | some (mark, rest) =>
    (string host mark rest).map fun (kind, passed, rest) => (s.emit kind passed, rest)
  | none =>
    match cs with
    | [] => none
    | c :: rest =>
      if c.isDigit || (c == '.' && (rest.head?.map Char.isDigit).getD false) then
        (number cs).map fun (n, rest) => (s.emit (.literal n), rest)
      else if isWordChar c then
        (word? cs).map fun (kind, rest) => (s.emit kind, rest)
      else
        match operator? cs with
        | none => none
        | some op =>
          (bracketsAfter? op s.opened).map fun opened =>
            ({ s.emit (.op op) with opened }, cs.drop op.length)

/-- Begins a line: leaves its indentation behind, and says whether it has no code. -/
def beginLine (s : Scan) (cs : List Char) : Option (Scan × Bool × List Char) :=
  match indentation {} 0 0 cs with
  | none => none
  | some (at_, passed, rest) =>
    let s := { s with line := s.line + passed }
    let blank := rest.head? == some '#' || rest.head? == some '\n'
    if blank || !s.opened.isEmpty then some (s, blank, rest)
    else
      (indentTokens? at_ s.levels).map fun (kinds, levels) =>
        ({ kinds.foldl Scan.mark s with levels }, false, rest)

/-- The tokens from here on.  `blank` says that there is no code on this line. -/
def scanFrom (host : Host) : Nat → (blank : Bool) → Scan → List Char → Option (List Token)
  | 0, _, _, _ => none
  | fuel + 1, blank, s, cs =>
    match cs with
    | [] => if s.opened.isEmpty then some (s.mark .stop).found.reverse else none
    | c :: rest =>
      if c == ' ' || c == '\t' || c == '\x0c' then scanFrom host fuel blank s rest
      else if c == '#' then scanFrom host fuel blank s (rest.dropWhile (· != '\n'))
      else if c == '\n' then
        let ended := if blank || !s.opened.isEmpty then s else s.mark .newline
        match beginLine { ended with line := s.line + 1 } rest with
        | some (s, blank, rest) => scanFrom host fuel blank s rest
        | none => none
      else if c == '\\' then
        match rest with
        | '\n' :: d :: rest => scanFrom host fuel blank { s with line := s.line + 1 } (d :: rest)
        | _ => none
      else
        match one host s cs with
        | some (s, rest) => scanFrom host fuel blank s rest
        | none => none

/-- The text with a line feed for every line end.  A line end of two characters at the very end of the
text leaves an empty line after it. -/
def normalize : List Char → List Char
  | [] => []
  | ['\r', '\n'] => ['\n', '\n']
  | '\r' :: '\n' :: rest => '\n' :: normalize rest
  | '\r' :: rest => '\n' :: normalize rest
  | c :: rest => c :: normalize rest

/-- The text with its last line ended. -/
def endLast (cs : List Char) : List Char :=
  match cs.getLast? with
  | some '\n' => cs
  | some _ => cs ++ ['\n']
  | none => cs

/-- The tokens of text that starts on a line. -/
def scanAt (host : Host) (line : Nat) (cs : List Char) : Option (List Token) :=
  let cs := endLast cs
  match beginLine { line, last := line } cs with
  | some (s, blank, rest) => scanFrom host (cs.length + 1) blank s rest
  | none => none

/-- The tokens of source text. -/
def scan (host : Host) (text : String) : Option (List Token) :=
  scanAt host 1 (normalize text.toList)

/-- How much nesting a token can stand for: a formatted string may hold an expression. -/
def depth (t : Token) : Nat :=
  match t.kind with
  | .formatted _ body => body.length + 1
  | _ => 1

end Token

end CallReach.Source
