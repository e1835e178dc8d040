import CallReach.Source.Parser.Pattern

/-!
# Reading statements

Simple statements share a line with semicolons between them; compound statements have blocks, which
are indented or follow on the same line.  `Source.parse` reads a whole text.
-/

namespace CallReach.Source

namespace Parser

section Simple

variable (L : Level)

/-! ### Simple statements -/

/-- The operators of augmented assignments. -/
def augmentedOps : List (String × BinaryOp) :=
  [("+=", .add), ("-=", .sub), ("*=", .mul), ("@=", .matMul), ("/=", .div), ("%=", .mod),
    ("&=", .bitAnd), ("|=", .bitOr), ("^=", .bitXor), ("<<=", .shiftLeft), (">>=", .shiftRight),
    ("**=", .pow), ("//=", .floorDiv)]

/-- The values of an assignment from its first equals sign on: targets and, last, the value. -/
def assignedFrom (first : Expr) : Parser Simple := do
  let values ← repeatWhile (fun done => do
    match done with
    | last :: _ =>
      if ← acceptOp "=" then
        guard (isTarget last)
        return some ((← yieldOrStarExpressions L) :: done)
      else return none
    | [] => return none) [first]
  match values with
  | value :: targets => return .assign targets.reverse value
  | [] => failure

/-- An assignment or an expression. -/
def assignmentOrExpression : Parser Simple := do
  let opened ← isOp "("
  if ← isWord "yield" then return .expression (← yieldExpression L)
  let first ← starExpressions L
  let kind := (← peek).kind
  if kind == .op "=" then assignedFrom L first
  else if kind == .op ":" then
    guard (isSingleTarget first)
    op ":"
    let typeHint ← L.expression
    let value ← afterOp? "=" (yieldOrStarExpressions L)
    let isName := match first with | .name _ => true | _ => false
    return .annotated first typeHint value (isName && !opened)
  else
    match augmentedOps.find? fun (s, _) => kind == .op s with
    | some (_, o) =>
      guard (isSingleTarget first)
      let _ ← next
      return .augmented first o (← yieldOrStarExpressions L)
    | none => return .expression first

/-- Names with dots between them. -/
def dottedName : Parser String := do
  let first ← name
  let rest ← manyWhile (acceptOp ".") name
  return ".".intercalate (first :: rest)

/-- The modules of an import. -/
def importNames : Parser Simple := do
  word "import"
  let (names, trailing) ← commaList do
    let n ← dottedName
    return { name := n, as? := ← afterWord? "as" name : Alias }
  guard !trailing
  return .importNames names

/-- One name imported from a module. -/
def importedName : Parser Alias := do
  let n ← name
  return { name := n, as? := ← afterWord? "as" name }

/-- The names imported from a module. -/
def importedNames : Parser (List Alias) := do
  if ← acceptOp "*" then return [{ name := "*" }]
  else if ← acceptOp "(" then
    let (names, _) ← commaList importedName
    op ")"
    return names
  else
    let (names, trailing) ← commaList importedName
    guard !trailing
    return names

/-- The dots before the name of a module. -/
def leadingDots : Parser Nat :=
  repeatWhile (fun n => do
    if ← acceptOp "." then return some (n + 1)
    else if ← acceptOp "..." then return some (n + 3)
    else return none) 0

/-- An import of names from a module. -/
def importFrom : Parser Simple := do
  word "from"
  let level ← leadingDots
  let module ← if level > 0 && (← isWord "import") then pure none else some <$> dottedName
  word "import"
  return .importFrom level module (← importedNames)

/-- Names with commas between them. -/
def nameList : Parser (List String) := do
  let (names, trailing) ← commaList name
  guard !trailing
  return names

/-- Whether a simple statement ends here. -/
def isEnd : Parser Bool := do return (← isOp ";") || (← isNext .newline)

/-- The targets of a deletion. -/
def deletion : Parser Simple := do
  word "del"
  let (targets, _) ← commaList do
    let e ← L.primary
    guard (isDeletable e)
    return e
  guard (← isEnd)
  return .delete targets

/-- A simple statement, for the lines it stands on. -/
def simpleBody : Parser (Span → Stmt) := do
  match (← peek).kind with
  | .word "return" =>
    let _ ← next
    let value ← if ← isEnd then pure none else some <$> starExpressions L
    return (.ret · value)
  | .word "raise" =>
    let _ ← next
    if ← isEnd then return (.raise · none none)
    let e ← L.expression
    let cause ← afterWord? "from" L.expression
    return (.raise · (some e) cause)
  | .word "break" =>
    let _ ← next
    return .exit
  | .word "continue" =>
    let _ ← next
    return .again
  | .word "pass" =>
    let _ ← next
    return (.simple · .pass)
  | .word "assert" =>
    let _ ← next
    let test ← L.expression
    let message ← afterOp? "," L.expression
    return (.simple · (.assertion test message))
  | .word "import" =>
    let s ← importNames
    return (.simple · s)
  | .word "from" =>
    let s ← importFrom
    return (.simple · s)
  | .word "global" =>
    let _ ← next
    let names ← nameList
    return (.simple · (.global names))
  | .word "nonlocal" =>
    let _ ← next
    let names ← nameList
    return (.simple · (.nonlocal names))
  | .word "del" =>
    let s ← deletion L
    return (.simple · s)
  | _ =>
    let s ← assignmentOrExpression L
    return (.simple · s)

/-- A simple statement. -/
def simpleStatement : Parser Stmt := do
  let first ← line
  let make ← simpleBody L
  return make ⟨first, ← lastLine⟩

/-- The simple statements of one line. -/
def simpleLine : Parser (List Stmt) := do
  let first ← simpleStatement L
  let rest ← repeatWhile (fun done => do
    if ← acceptOp ";" then
      if ← isNext .newline then return none
      return some ((← simpleStatement L) :: done)
    else return none) [first]
  expect .newline
  return rest.reverse

end Simple

/-! ### Compound statements -/

/-- The line on which statements end. -/
def endOf (body : List Stmt) (otherwise : Nat) : Nat :=
  (body.getLast?.map (·.span.last)).getD otherwise

/-- The line on which the last of some lists of statements that is not empty ends. -/
def endOfLast (first : Nat) (bodies : List (List Stmt)) : Nat :=
  bodies.foldl (fun last body => endOf body last) first

section Compound

variable (L : Level) (pattern : Parser Pattern) (block : Parser (List Stmt))

/-- A block after a colon. -/
def suite : Parser (List Stmt) := do
  op ":"
  block

/-- A block after a word and a colon, if the word is there. -/
def suiteAfter? (s : String) : Parser (List Stmt) := do
  if ← acceptWord s then suite block else return []

/-- The arms of an `if` and its alternative, from the last arm on. -/
def arms : List (Nat × Expr × List Stmt) → List Stmt → List Stmt
  | [], orelse => orelse
  | (first, test, body) :: rest, orelse =>
    let orelse := arms rest orelse
    [.branch ⟨first, endOfLast first [body, orelse]⟩ test body orelse]

/-- One arm of an `if`, after the word that starts it. -/
def arm : Parser (Nat × Expr × List Stmt) := do
  let first ← line
  let _ ← next
  let test ← namedExpression L
  return (first, test, ← suite block)

/-- An `if` with its arms. -/
def ifStatement : Parser (List Stmt) := do
  let first ← arm L block
  let rest ← manyWhile (isWord "elif") (arm L block)
  return arms (first :: rest) (← suiteAfter? block "else")

/-- A loop with a condition. -/
def whileStatement (first : Nat) : Parser Stmt := do
  word "while"
  let test ← namedExpression L
  let body ← suite block
  let orelse ← suiteAfter? block "else"
  return .whileLoop ⟨first, endOfLast first [body, orelse]⟩ test body orelse

/-- A loop over items. -/
def forStatement (first : Nat) : Parser Stmt := do
  word "for"
  let target ← targets L
  word "in"
  let iter ← starExpressions L
  let body ← suite block
  let orelse ← suiteAfter? block "else"
  return .forLoop ⟨first, endOfLast first [body, orelse]⟩ target iter body orelse

/-- A context and its target. -/
def withItem : Parser WithItem := do
  let context ← L.expression
  let target ← afterWord? "as" (starTarget L)
  return { context, target }

/-- The contexts of a `with`: in parentheses, if they can be read so. -/
def withItems : Parser (List WithItem) :=
  (do
    op "("
    let (items, _) ← commaList (withItem L)
    op ")"
    guard (← isOp ":")
    return items) <|>
  (do
    let (items, trailing) ← commaList (withItem L)
    guard !trailing
    return items)

/-- A block run in contexts. -/
def withStatement (first : Nat) : Parser Stmt := do
  word "with"
  let items ← withItems L
  let body ← suite block
  return .within ⟨first, endOf body first⟩ items body

/-- A handler; `group` says whether it handles groups of exceptions. -/
def handler (group : Bool) : Parser Handler := do
  let first ← line
  word "except"
  if group then op "*"
  if !group && (← isOp ":") then return .mk first none (← suite block)
  let e ← L.expression
  let _ ← afterWord? "as" name
  return .mk first (some e) (← suite block)

/-- The statements of a handler. -/
def handlerBody : Handler → List Stmt
  | .mk _ _ body => body

/-- A block with handlers. -/
def tryStatement (first : Nat) : Parser Stmt := do
  word "try"
  let body ← suite block
  let group := (← peekSecond) == .op "*"
  let handlers ← manyWhile (isWord "except") (handler L block group)
  let orelse ← if handlers.isEmpty then pure [] else suiteAfter? block "else"
  let final ← suiteAfter? block "finally"
  guard (!handlers.isEmpty || !final.isEmpty)
  let last := endOfLast first ([body] ++ handlers.map handlerBody ++ [orelse, final])
  return .attempt ⟨first, last⟩ body handlers orelse final

/-- The subject of a match. -/
def subject : Parser Expr := do
  let e ← starNamed L
  if ← isOp "," then return .tuple (← moreItems L e)
  else
    guard !(isStarred e)
    return e

/-- A case. -/
def caseBlock : Parser Case := do
  word "case"
  let p ← casePatterns pattern
  let guard' ← afterWord? "if" (namedExpression L)
  return .mk p guard' (← suite block)

/-- The statements of a case. -/
def caseBody : Case → List Stmt
  | .mk _ _ body => body

/-- A match. -/
def matchStatement (first : Nat) : Parser Stmt := do
  word "match"
  let e ← subject L
  op ":"
  expect .newline
  expect .indent
  let cases ← manyWhile (isWord "case") (caseBlock L pattern block)
  guard !cases.isEmpty
  expect .dedent
  return .select ⟨first, endOfLast first (cases.map caseBody)⟩ e cases

/-- A function definition from its `def` on. -/
def functionDef (first : Nat) (isAsync : Bool) (decorators : List Expr) : Parser Stmt := do
  word "def"
  let n ← name
  op "("
  let ps ← params L true ")"
  op ")"
  let returns ← afterOp? "->" L.expression
  let body ← suite block
  return .functionDef ⟨first, endOf body first⟩ isAsync decorators n ps returns body

/-- A class definition. -/
def classDef (first : Nat) (decorators : List Expr) : Parser Stmt := do
  word "class"
  let n ← name
  let (bases, keywords) ← if ← acceptOp "(" then arguments L else pure ([], [])
  let body ← suite block
  return .classDef ⟨first, endOf body first⟩ decorators n bases keywords body

/-- Decorators, one a line. -/
def decorators : Parser (List Expr) :=
  manyWhile (isOp "@") do
    op "@"
    let e ← namedExpression L
    expect .newline
    return e

/-- A definition after its decorators. -/
def definition (decorators : List Expr) : Parser Stmt := do
  let first ← line
  if ← isWord "class" then classDef L block first decorators
  else functionDef L block first (← acceptWord "async") decorators

/-- A statement that starts with `async`. -/
def asyncStatement (first : Nat) : Parser Stmt := do
  match ← peekSecond with
  | .word "def" => definition L block []
  | .word "for" =>
    word "async"
    forStatement L block first
  | .word "with" =>
    word "async"
    withStatement L block first
  | _ => failure

/-- One statement, or the simple statements of one line. -/
def statement : Parser (List Stmt) := do
  let t ← peek
  let one (p : Parser Stmt) : Parser (List Stmt) := do return [← p]
  match t.kind with
  | .op "@" => one do definition L block (← decorators L)
  | .word "def" => one (definition L block [])
  | .word "class" => one (definition L block [])
  | .word "async" => one (asyncStatement L block t.line)
  | .word "if" => ifStatement L block
  | .word "while" => one (whileStatement L block t.line)
  | .word "for" => one (forStatement L block t.line)
  | .word "with" => one (withStatement L block t.line)
  | .word "try" => one (tryStatement L block t.line)
  | .word "match" => one (matchStatement L pattern block t.line) <|> simpleLine L
  | _ => simpleLine L

/-- Statements up to the end of their block. -/
def statements : Parser (List Stmt) := do
  let parts ← manyWhile (do return !((← isNext .dedent) || (← isNext .stop)))
    (statement L pattern block)
  return parts.flatten

end Compound

/-- A block nested to a depth, after its colon. -/
def blockOfDepth (L : Level) (pattern : Parser Pattern) : Nat → Parser (List Stmt)
  | 0 => failure
  | depth + 1 => do
    if ← accept .newline then
      expect .indent
      let body ← statements L pattern (blockOfDepth L pattern depth)
      guard !body.isEmpty
      expect .dedent
      return body
    else simpleLine L

/-- The statements of a whole text, in which nothing is nested deeper than the given depth. -/
def program (host : Host) (depth : Nat) : Parser (List Stmt) := do
  let L := Level.ofDepth host depth
  let pattern := patternOfDepth L depth
  let body ← statements L pattern (blockOfDepth L pattern depth)
  expect .stop
  return body

end Parser

/-- The statements of source text. -/
def parse (host : Host) (text : String) : Option (List Stmt) := do
  let tokens ← Token.scan host text
  let depth := tokens.foldl (fun depth t => depth + t.depth) 1
  let (body, _) ← (Parser.program host depth).run tokens
  return body

end CallReach.Source
