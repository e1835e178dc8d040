import CallReach.Source.Literal
import CallReach.Yaml.Cursor

/-!
# YAML tokens

`Token.scan` cuts a text into tokens.  Indentation opens and closes block collections.  A key is known
as a key only when its colon is met: where a token could be a key, its place is remembered, and the
key token is put there when the colon comes, on the same line and no more than 1024 characters later.
-/

namespace CallReach.Yaml

/-- A token. -/
inductive Token where
  | version (major minor : Nat)
  | handle (name expansion : String)
  | directive
  | documentStart
  | documentEnd
  | streamEnd
  | sequenceStart
  | mappingStart
  | blockEnd
  | flowSequenceStart
  | flowSequenceEnd
  | flowMappingStart
  | flowMappingEnd
  | blockEntry
  | flowEntry
  | key
  | value
  | alias (name : String)
  | anchor (name : String)
  /-- A tag; without a handle it is given in full. -/
  | tag (handle : Option String) (suffix : String)
  | scalar (text : String) (plain : Bool)
  deriving DecidableEq, Repr, Inhabited

namespace Token

open Read

/-! ### Names, tags and directives -/

/-- Whether a character can be part of a name. -/
def isNameChar (c : Char) : Bool := c.isAlphanum || c == '-' || c == '_'

/-- Whether a character can be part of a tag. -/
def isTagChar (c : Char) : Bool := c.isAlphanum || "-;/?:@&=+$,_.!~*'()[]%".toList.contains c

/-- A name that is not empty. -/
def nameText : Read String := do
  let cs ← takeWhile isNameChar
  if cs.isEmpty then malformed
  return String.ofList cs

/-- The name after the mark of an anchor or an alias. -/
def anchorName : Read String := do
  skip
  let name ← nameText
  let c ← peek
  if isGap c || "?:,]\x7d%@\x60".toList.contains c then return name else malformed

/-- The bytes of percent escapes. -/
def percentBytes : Read (List UInt8) := do
  let bytes ← repeatWhile (fun done => do
    if (← peek) == '%' then
      skip
      let digits ← ahead 2
      if digits.length == 2 && digits.all Source.isHexDigit then
        skip 2
        return some ((Source.valueInBase 16 digits).toUInt8 :: done)
      else malformed
    else return none) []
  return bytes.reverse

/-- The text of a tag. -/
def tagText : Read String := do
  let cs ← repeatWhile (fun done => do
    let c ← peek
    if c == '%' then
      match String.fromUTF8? ⟨(← percentBytes).toArray⟩ with
      | some s => return some (done ++ s.toList)
      | none => malformed
    else if isTagChar c then
      skip
      return some (done ++ [c])
    else return none) []
  if cs.isEmpty then malformed
  return String.ofList cs

/-- A handle of tags, between exclamation marks. -/
def tagHandle : Read String := do
  if (← peek) != '!' then malformed
  skip
  if (← peek) == ' ' then return "!"
  let cs ← takeWhile isNameChar
  if (← peek) != '!' then malformed
  skip
  return String.ofList ('!' :: cs ++ ['!'])

/-- A tag. -/
def tagToken : Read Token := do
  let c ← peekAt 1
  let token ←
    if c == '<' then
      skip 2
      let suffix ← tagText
      if (← peek) != '>' then malformed
      skip
      pure (Token.tag none suffix)
    else if isGap c then
      skip
      pure (Token.tag none "!")
    else
      let ahead := ((← get).rest.drop 1).takeWhile (!isSpaceOrBreak ·)
      if ahead.contains '!' then
        let handle ← tagHandle
        pure (Token.tag (some handle) (← tagText))
      else
        skip
        pure (Token.tag (some "!") (← tagText))
  if isSpaceOrBreak (← peek) then return token else malformed

/-- A number of a version. -/
def versionNumber : Read Nat := do
  let cs ← takeWhile Char.isDigit
  if cs.isEmpty then malformed
  return Source.valueInBase 10 cs

/-- The rest of a line after a directive or a head: blanks and a comment. -/
def ignoredLine : Read Unit := do
  skipSpaces
  skipComment
  if !isBreakOrEnd (← peek) then malformed
  let _ ← lineBreak

/-- A directive. -/
def directiveToken : Read Token := do
  skip
  let name ← nameText
  if !isSpaceOrBreak (← peek) then malformed
  let token ←
    if name == "YAML" then
      skipSpaces
      let major ← versionNumber
      if (← peek) != '.' then malformed
      skip
      let minor ← versionNumber
      if !isSpaceOrBreak (← peek) then malformed
      pure (Token.version major minor)
    else if name == "TAG" then
      skipSpaces
      let handle ← tagHandle
      if (← peek) != ' ' then malformed
      skipSpaces
      let expansion ← tagText
      if !isSpaceOrBreak (← peek) then malformed
      pure (Token.handle handle expansion)
    else
      let _ ← takeWhile (!isBreak ·)
      pure Token.directive
  ignoredLine
  return token

/-! ### Scalars in blocks -/

/-- How the line ends at the end of a block scalar are kept: one, none or all. -/
inductive Chomping where
  | clip | strip | keep
  deriving DecidableEq, Repr

/-- An indication of how line ends are kept. -/
def chomping? (c : Char) : Option Chomping :=
  if c == '+' then some .keep else if c == '-' then some .strip else none

/-- An indication of the indentation, if one comes next. -/
def increment? : Read (Option Nat) := do
  let c ← peek
  if c.isDigit then
    if c == '0' then malformed
    skip
    return some (c.toNat - '0'.toNat)
  else return none

/-- The indications after the mark of a block scalar, in either order. -/
def scalarHead : Read (Chomping × Option Nat) := do
  let result ← match chomping? (← peek) with
    | some chomping =>
      skip
      pure (chomping, ← increment?)
    | none =>
      match ← increment? with
      | none => pure (Chomping.clip, none)
      | some n =>
        match chomping? (← peek) with
        | some chomping =>
          skip
          pure (chomping, some n)
        | none => pure (Chomping.clip, some n)
  if isSpaceOrBreak (← peek) then return result else malformed

/-- The line ends before the first line of a block scalar, and the deepest column on the way. -/
def firstIndentation : Read (List Char × Nat) :=
  repeatWhile (fun (breaks, deepest) => do
    let c ← peek
    if c == ' ' then
      skip
      return some (breaks, max deepest (← column))
    else if isBreak c then return some (breaks ++ (← lineBreak), deepest)
    else return none) ([], 0)

/-- Skips spaces up to a column. -/
def skipTo (indent : Nat) : Read Unit := do
  let spaces ← lookWhile (· == ' ')
  skip (min spaces.length (indent - (← column)))

/-- The line ends before the next line of a block scalar. -/
def scalarBreaks (indent : Nat) : Read (List Char) := do
  skipTo indent
  repeatWhile (fun breaks => do
    if isBreak (← peek) then
      let b ← lineBreak
      skipTo indent
      return some (breaks ++ b)
    else return none) []

/-- The part of a block scalar that has been read. -/
structure ScalarLines where
  text : List Char
  /-- The line end after the last line. -/
  lineEnd : List Char
  /-- The line ends after that. -/
  breaks : List Char
  ended : Bool := false

/-- One line of a block scalar. -/
def scalarLine (folded : Bool) (indent : Nat) (s : ScalarLines) : Read (Option ScalarLines) := do
  if s.ended || (← column) != indent || (← peek) == endChar then return none
  let solid (c : Char) := c != ' ' && c != '\t'
  let startsSolid := solid (← peek)
  let line ← takeWhile (!isBreak ·)
  let lineEnd ← lineBreak
  let breaks ← scalarBreaks indent
  let text := s.text ++ s.breaks ++ line
  if (← column) == indent && (← peek) != endChar then
    if folded && lineEnd == ['\n'] && startsSolid && solid (← peek) then
      return some { text := if breaks.isEmpty then text ++ [' '] else text, lineEnd, breaks }
    else return some { text := text ++ lineEnd, lineEnd, breaks }
  else return some { text, lineEnd, breaks, ended := true }

/-- A block scalar inside a collection of an indentation. -/
def blockScalar (folded : Bool) (outer : Int) : Read Token := do
  skip
  let (chomping, increment) ← scalarHead
  ignoredLine
  let least := (max (outer + 1) 1).toNat
  let (breaks, indent) ← match increment with
    | none =>
      let (breaks, deepest) ← firstIndentation
      pure (breaks, max least deepest)
    | some n =>
      let indent := least + n - 1
      pure (← scalarBreaks indent, indent)
  let s ← repeatWhile (scalarLine folded indent) { text := [], lineEnd := [], breaks }
  let tail := match chomping with
    | .strip => []
    | .clip => s.lineEnd
    | .keep => s.lineEnd ++ s.breaks
  return .scalar (String.ofList (s.text ++ tail)) false

/-! ### Scalars between quotes -/

/-- Escapes of one letter. -/
def escape? : Char → Option Char
  | '0' => some '\x00'
  | 'a' => some '\x07'
  | 'b' => some '\x08'
  | 't' => some '\t'
  | '\t' => some '\t'
  | 'n' => some '\n'
  | 'v' => some '\x0b'
  | 'f' => some '\x0c'
  | 'r' => some '\r'
  | 'e' => some '\x1b'
  | ' ' => some ' '
  | '"' => some '"'
  | '\\' => some '\\'
  | '/' => some '/'
  | 'N' => some (Char.ofNat 0x85)
  | '_' => some (Char.ofNat 0xA0)
  | 'L' => some (Char.ofNat 0x2028)
  | 'P' => some (Char.ofNat 0x2029)
  | _ => none

/-- The number of digits of an escape by code. -/
def codeLength? : Char → Option Nat
  | 'x' => some 2
  | 'u' => some 4
  | 'U' => some 8
  | _ => none

/-- The line ends between the lines of a quoted scalar. -/
def quotedBreaks : Read (List Char) :=
  repeatWhile (fun breaks => do
    if ← isSeparator then malformed
    let _ ← takeWhile fun c => c == ' ' || c == '\t'
    if isBreak (← peek) then return some (breaks ++ (← lineBreak)) else return none) []

/-- An escape after its backslash. -/
def escapeText : Read (List Char) := do
  let c ← peek
  match escape? c with
  | some e =>
    skip
    return [e]
  | none =>
    match codeLength? c with
    | some n =>
      skip
      let digits ← ahead n
      if digits.length == n && digits.all Source.isHexDigit then
        let code := Source.valueInBase 16 digits
        if code > 0x10FFFF then throw .outOfRange
        skip n
        return [Char.ofNat code]
      else malformed
    | none =>
      if isBreak c then
        let _ ← lineBreak
        quotedBreaks
      else malformed

/-- One run of characters between quotes up to a blank, or one escape; none at the closing quote. -/
def quotedPart (double : Bool) : Read (Option (List Char)) := do
  let solid ← takeWhile fun c => !isGap c && c != '"' && c != '\'' && c != '\\'
  if !solid.isEmpty then return some solid
  let c ← peek
  if isGap c then return none
  else if double && c == '\\' then
    skip
    return some (← escapeText)
  else if !double && c == '\'' && (← peekAt 1) == '\'' then
    skip 2
    return some ['\'']
  else if c == (if double then '"' else '\'') then return none
  else
    skip
    return some [c]

/-- The text up to the next blank or the closing quote. -/
def quotedSolid (double : Bool) : Read (List Char) :=
  repeatWhile (fun done => do return (← quotedPart double).map (done ++ ·)) []

/-- Blanks and line ends inside a quoted scalar. -/
def quotedGap : Read (List Char) := do
  let blanks ← takeWhile fun c => c == ' ' || c == '\t'
  let c ← peek
  if c == endChar then malformed
  else if isBreak c then
    let b ← lineBreak
    let breaks ← quotedBreaks
    if b != ['\n'] then return b ++ breaks
    else if breaks.isEmpty then return [' ']
    else return breaks
  else return blanks

/-- A quoted scalar. -/
def quotedScalar (double : Bool) : Read Token := do
  let quote := if double then '"' else '\''
  skip
  let first ← quotedSolid double
  let text ← repeatWhile (fun done => do
    if (← peek) == quote then return none
    let gap ← quotedGap
    return some (done ++ gap ++ (← quotedSolid double))) first
  if (← peek) != quote then malformed
  skip
  return .scalar (String.ofList text) false

/-! ### Plain scalars -/

/-- Whether a plain scalar ends before a character, given the one after it. -/
def endsPlain (inFlow : Bool) (c next : Char) : Bool :=
  isGap c || (inFlow && ",?[]\x7b\x7d".toList.contains c) ||
    (c == ':' && (isGap next || (inFlow && ",[]\x7b\x7d".toList.contains next)))

/-- The characters of a plain scalar up to its next blank or its end. -/
def plainSolid (inFlow : Bool) : List Char → List Char
  | [] => []
  | c :: rest =>
    if endsPlain inFlow c (rest.headD endChar) then [] else c :: plainSolid inFlow rest

/-- Line ends and spaces after the first line end inside a plain scalar; none when a document
separator follows. -/
def plainBreaks : Read (Option (List Char)) := do
  if ← isSeparator then return none
  let (breaks, cut) ← repeatWhile (fun (breaks, cut) => do
    let c ← peek
    if cut then return none
    else if c == ' ' then
      skip
      return some (breaks, false)
    else if isBreak c then
      let b ← lineBreak
      return some (breaks ++ b, ← isSeparator)
    else return none) ([], false)
  return if cut then none else some breaks

/-- Blanks and line ends inside a plain scalar, and whether there was a line end. -/
def plainGap : Read (List Char × Bool) := do
  let blanks ← takeWhile (· == ' ')
  if isBreak (← peek) then
    let b ← lineBreak
    match ← plainBreaks with
    | none => return ([], true)
    | some breaks =>
      if b != ['\n'] then return (b ++ breaks, true)
      else if breaks.isEmpty then return ([' '], true)
      else return (breaks, true)
  else return (blanks, false)

/-- The part of a plain scalar that has been read. -/
structure PlainPart where
  text : List Char := []
  gap : List Char := []
  /-- Whether a line end came after the last character. -/
  crossed : Bool := false
  ended : Bool := false

/-- One run of characters of a plain scalar, with the blanks after it. -/
def plainStep (inFlow : Bool) (indent : Int) (p : PlainPart) : Read (Option PlainPart) := do
  if p.ended || (← peek) == '#' then return none
  let solid := plainSolid inFlow (← get).rest
  if solid.isEmpty then return none
  skip solid.length
  let (gap, crossed) ← plainGap
  let shallow := !inFlow && ((← column : Nat) : Int) < indent
  let ended := gap.isEmpty || (← peek) == '#' || shallow
  return some { text := p.text ++ p.gap ++ solid, gap, crossed, ended }

/-- A plain scalar, and whether a line end came after it. -/
def plainScalar (inFlow : Bool) (outer : Int) : Read (Token × Bool) := do
  let p ← repeatWhile (plainStep inFlow (outer + 1)) {}
  return (.scalar (String.ofList p.text) true, p.crossed)

/-! ### The scan -/

/-- A place where a key may have started. -/
structure KeyPlace where
  /-- The number of tokens before it. -/
  number : Nat
  /-- Whether only a key can stand there. -/
  required : Bool
  index : Nat
  line : Nat
  column : Nat

/-- Where the scan is. -/
structure Scanner where
  cursor : Cursor
  indent : Int := -1
  /-- The outer indentations, the innermost first. -/
  indents : List Int := []
  /-- The number of flow collections that are open. -/
  flow : Nat := 0
  /-- Whether a key may start here. -/
  keyAllowed : Bool := true
  /-- The possible keys by flow level. -/
  keys : List (Nat × KeyPlace) := []
  /-- The tokens found, the last one first, and their number. -/
  found : List Token := []
  count : Nat := 0
  done : Bool := false

/-- A step of the scan. -/
abbrev Scan := StateT Scanner (Except Failure)

/-- Reads characters. -/
def reading {α : Type} (r : Read α) : Scan α := do
  let s ← get
  match r.run s.cursor with
  | .ok (a, cursor) =>
    set { s with cursor }
    return a
  | .error e => throw e

/-- Adds a token. -/
def push (t : Token) : Scan Unit :=
  modify fun s => { s with found := t :: s.found, count := s.count + 1 }

/-- Puts a token after the first `number` tokens. -/
def insertAt (number : Nat) (t : Token) : Scan Unit :=
  modify fun s =>
    let after := s.count - number
    { s with found := s.found.take after ++ t :: s.found.drop after, count := s.count + 1 }

/-- Says whether a key may start next. -/
def allowKey (b : Bool) : Scan Unit := modify fun s => { s with keyAllowed := b }

/-- Forgets the possible key of this flow level, which must not be a required one. -/
def dropKey : Scan Unit := do
  let s ← get
  match s.keys.find? (·.1 == s.flow) with
  | none => return ()
  | some (_, k) =>
    if k.required then throw .malformed
    set { s with keys := s.keys.filter (·.1 != s.flow) }

/-- Remembers that a key may start here. -/
def saveKey : Scan Unit := do
  let s ← get
  let required := s.flow == 0 && s.indent == s.cursor.column
  if s.keyAllowed then
    dropKey
    let s ← get
    let place : KeyPlace :=
      { number := s.count, required, index := s.cursor.index, line := s.cursor.line,
        column := s.cursor.column }
    set { s with keys := (s.flow, place) :: s.keys }

/-- Forgets the possible keys that can no longer be keys. -/
def dropStaleKeys : Scan Unit := do
  let s ← get
  let stale (k : KeyPlace) := k.line != s.cursor.line || s.cursor.index - k.index > 1024
  if s.keys.any fun (_, k) => stale k && k.required then throw .malformed
  set { s with keys := s.keys.filter fun (_, k) => !stale k }

/-- Closes block collections deeper than a column, at most `fuel` of them. -/
def unwindFor (column : Int) : Nat → Scanner → Scanner
  | 0, s => s
  | fuel + 1, s =>
    if s.indent > column then
      unwindFor column fuel
        { s with indent := s.indents.headD (-1), indents := s.indents.tail,
                 found := .blockEnd :: s.found, count := s.count + 1 }
    else s

/-- Closes block collections deeper than a column. -/
def unwind (column : Int) : Scan Unit :=
  modify fun s => if s.flow > 0 then s else unwindFor column (s.indents.length + 1) s

/-- Opens a block collection at a column, if it is deeper than the innermost one, and says whether it
did. -/
def indentTo (column : Int) : Scan Bool := do
  let s ← get
  if s.indent < column then
    set { s with indents := s.indent :: s.indents, indent := column }
    return true
  else return false

/-- Skips blanks, comments and line ends before a token. -/
def skipToToken : Scan Unit := do
  let s ← get
  let crossed ← reading do
    if s.cursor.index == 0 && isMark (← peek) then skip
    Read.repeatWhile (fun (crossed, ended) => do
      if ended then return none
      skipSpaces
      skipComment
      if (← lineBreak).isEmpty then return some (crossed, true) else return some (true, false))
      (false, false)
  if crossed.1 && s.flow == 0 then allowKey true

/-- A token that closes all block collections first. -/
def atMargin (r : Read Token) : Scan Unit := do
  unwind (-1)
  dropKey
  allowKey false
  push (← reading r)

/-- A token of one character. -/
def single (t : Token) : Scan Unit := do
  reading (skip 1)
  push t

/-- The start of a flow collection. -/
def openFlow (t : Token) : Scan Unit := do
  saveKey
  modify fun s => { s with flow := s.flow + 1 }
  allowKey true
  single t

/-- The end of a flow collection. -/
def closeFlow (t : Token) : Scan Unit := do
  dropKey
  if (← get).flow == 0 then throw .malformed
  modify fun s => { s with flow := s.flow - 1 }
  allowKey false
  single t

/-- The mark of a block entry or a key, which may open a block collection. -/
def entry (opening t : Token) (keyNext : Bool) : Scan Unit := do
  let s ← get
  if s.flow == 0 then
    if !s.keyAllowed then throw .malformed
    if ← indentTo s.cursor.column then push opening
  allowKey keyNext
  dropKey
  single t

/-- The colon of a value. -/
def valueMark : Scan Unit := do
  let s ← get
  match s.keys.find? (·.1 == s.flow) with
  | some (_, k) =>
    set { s with keys := s.keys.filter (·.1 != s.flow) }
    insertAt k.number .key
    if s.flow == 0 then
      if ← indentTo k.column then insertAt k.number .mappingStart
    allowKey false
  | none =>
    if s.flow == 0 then
      if !s.keyAllowed then throw .malformed
      if ← indentTo s.cursor.column then push .mappingStart
    allowKey (s.flow == 0)
    dropKey
  single .value

/-- A token that may be a key. -/
def keyLike (r : Read Token) : Scan Unit := do
  saveKey
  allowKey false
  push (← reading r)

/-- The end of the text. -/
def finish : Scan Unit := do
  unwind (-1)
  dropKey
  push .streamEnd
  modify fun s => { s with done := true }

/-- Whether a plain scalar can start with a character, given the one after it. -/
def startsPlain (inFlow : Bool) (c next : Char) : Bool :=
  (!isGap c && !"-?:,[]\x7b\x7d#&*!|>'\"%@\x60".toList.contains c) ||
    (!isGap next && (c == '-' || (!inFlow && (c == '?' || c == ':'))))

/-- One more token, with the tokens that its place requires before it. -/
def scanToken : Scan Unit := do
  skipToToken
  dropStaleKeys
  unwind (← get).cursor.column
  let s ← get
  let c := s.cursor.rest.headD endChar
  let next := (s.cursor.rest.drop 1).headD endChar
  let inFlow := s.flow > 0
  let separator : Bool := s.cursor.column == 0 &&
    match isSeparator.run s.cursor with
    | .ok (b, _) => b
    | .error _ => false
  if c == endChar then finish
  else if c == '%' && s.cursor.column == 0 then atMargin directiveToken
  else if separator then
    atMargin do
      skip 3
      return if c == '-' then .documentStart else .documentEnd
  else if c == '[' then openFlow .flowSequenceStart
  else if c == '\x7b' then openFlow .flowMappingStart
  else if c == ']' then closeFlow .flowSequenceEnd
  else if c == '\x7d' then closeFlow .flowMappingEnd
  else if c == ',' then
    allowKey true
    dropKey
    single .flowEntry
  else if c == '-' && isGap next then entry .sequenceStart .blockEntry true
  else if c == '?' && (inFlow || isGap next) then entry .mappingStart .key !inFlow
  else if c == ':' && (inFlow || isGap next) then valueMark
  else if c == '*' then keyLike (.alias <$> anchorName)
  else if c == '&' then keyLike (.anchor <$> anchorName)
  else if c == '!' then keyLike tagToken
  else if (c == '|' || c == '>') && !inFlow then
    allowKey true
    dropKey
    push (← reading (blockScalar (c == '>') s.indent))
  else if c == '\'' then keyLike (quotedScalar false)
  else if c == '"' then keyLike (quotedScalar true)
  else if startsPlain inFlow c next then
    saveKey
    allowKey false
    let (t, crossed) ← reading (plainScalar inFlow s.indent)
    if crossed then allowKey true
    push t
  else throw .malformed

/-- Tokens up to the end of the text, at most `fuel` steps. -/
def scanFor : Nat → Scan Unit
  | 0 => throw .malformed
  | fuel + 1 => do
    scanToken
    if (← get).done then return () else scanFor fuel

/-- The tokens of a text. -/
def scan (text : String) : Except Failure (List Token) :=
  let cs := text.toList
  if cs.all isAllowed then
    match (scanFor (cs.length + 2)).run { cursor := { rest := cs } } with
    | .ok (_, s) => .ok s.found.reverse
    | .error e => .error e
  else .error .malformed

end Token

end CallReach.Yaml
