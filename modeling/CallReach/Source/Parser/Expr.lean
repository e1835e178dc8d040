import CallReach.Source.Formatted
import CallReach.Source.Parser.Basic

/-!
# Reading expressions

The parsers of this module follow the grammar from atoms to whole expressions.  What is nested inside
an expression is read by the parsers of a `Level`, which are those of this module for a smaller
nesting; `Level.ofDepth` ties the knot.  The expressions in formatted strings are texts of their own,
which are cut into tokens when their string is read.
-/

namespace CallReach.Source

namespace Parser

/-- Parsers for what is nested in an expression. -/
structure Level where
  expression : Parser Expr
  disjunction : Parser Expr
  inversion : Parser Expr
  bitOr : Parser Expr
  factor : Parser Expr
  primary : Parser Expr
  /-- The pieces of a formatted string, which starts on a line and may be raw. -/
  formatted : Nat → Bool → List Char → Option (List Piece)

/-! ### Targets -/

mutual

/-- Whether an expression can be assigned to. -/
def isTarget : Expr → Bool
  | .name _ => true
  | .attribute _ _ => true
  | .subscript _ _ => true
  | .starred e => isTarget e
  | .tuple items => areTargets items
  | .list items => areTargets items
  | _ => false

/-- Whether all expressions can be assigned to. -/
def areTargets : List Expr → Bool
  | [] => true
  | e :: rest => isTarget e && areTargets rest

end

/-- Whether an expression is a name, an attribute or an item. -/
def isSingleTarget : Expr → Bool
  | .name _ => true
  | .attribute _ _ => true
  | .subscript _ _ => true
  | _ => false

mutual

/-- Whether an expression can be deleted. -/
def isDeletable : Expr → Bool
  | .tuple items => areDeletable items
  | .list items => areDeletable items
  | e => isSingleTarget e

/-- Whether all expressions can be deleted. -/
def areDeletable : List Expr → Bool
  | [] => true
  | e :: rest => isDeletable e && areDeletable rest

end

/-- Whether an expression is starred. -/
def isStarred : Expr → Bool
  | .starred _ => true
  | _ => false

/-- The expression that items with commas make: a single one without a comma is itself. -/
def tupleOf : List Expr × Bool → Expr
  | ([e], false) => e
  | (items, _) => .tuple items

section Nested

variable (L : Level)

/-- A target, which may be starred. -/
def starTarget : Parser Expr := do
  let e ← if ← acceptOp "*" then Expr.starred <$> L.primary else L.primary
  guard (isTarget e)
  return e

/-- Targets with commas between them. -/
def targets : Parser Expr := tupleOf <$> commaList (starTarget L)

/-! ### Expressions with names, stars and commas -/

/-- An expression, or a name with a value. -/
def namedExpression : Parser Expr := do
  match ← nameBefore? ":=" with
  | some w =>
    let _ ← next
    let _ ← next
    return .named (.name w) (← L.expression)
  | none =>
    let e ← L.expression
    guard !(← isOp ":=")
    return e

/-- An expression or a starred one. -/
def starExpression : Parser Expr := do
  if ← acceptOp "*" then return .starred (← L.bitOr) else L.expression

/-- Expressions with commas between them. -/
def starExpressions : Parser Expr := tupleOf <$> commaList (starExpression L)

/-- An expression, a name with a value or a starred expression. -/
def starNamed : Parser Expr := do
  if ← acceptOp "*" then return .starred (← L.bitOr) else namedExpression L

/-- The rest of a display after its first item. -/
def moreItems (first : Expr) : Parser (List Expr) := do
  if ← acceptOp "," then
    match ← optional (commaList (starNamed L)) with
    | some (rest, _) => return first :: rest
    | none => return [first]
  else return [first]

/-- A yield. -/
def yieldExpression : Parser Expr := do
  word "yield"
  if ← acceptWord "from" then return .yieldFrom (← L.expression)
  else return .yield (← optional (starExpressions L))

/-- A yield, or expressions with commas between them. -/
def yieldOrStarExpressions : Parser Expr := do
  if ← isWord "yield" then yieldExpression L else starExpressions L

/-! ### Comprehensions -/

/-- Whether a clause of a comprehension comes next. -/
def isClause : Parser Bool := do
  if ← isWord "for" then return true
  else if ← isWord "async" then return (← peekSecond) == .word "for"
  else return false

/-- A clause of a comprehension. -/
def clause : Parser Clause := do
  let isAsync ← acceptWord "async"
  word "for"
  let target ← targets L
  word "in"
  let iter ← L.disjunction
  let conditions ← manyWhile (isWord "if") do
    word "if"
    L.disjunction
  return .mk isAsync target iter conditions

/-- The clauses of a comprehension. -/
def clauses : Parser (List Clause) := manyWhile isClause (clause L)

/-! ### Arguments -/

/-- An argument of a call. -/
inductive Argument where
  | positional (value : Expr)
  | starred (value : Expr)
  | keyword (name : String) (value : Expr)
  | mapping (value : Expr)

/-- One argument. -/
def argument : Parser Argument := do
  if ← acceptOp "**" then return .mapping (← L.expression)
  else if ← acceptOp "*" then return .starred (← L.expression)
  else
    match ← nameBefore? "=" with
    | some w =>
      let _ ← next
      let _ ← next
      return .keyword w (← L.expression)
    | none => return .positional (← namedExpression L)

/-- Which arguments may follow: all, no plain ones after a keyword, and only keywords and mappings
after a mapping. -/
inductive ArgumentPhase where
  | all | keywords | mappings
  deriving DecidableEq

/-- Arguments in order as positional ones and keywords. -/
def arrangeArguments : ArgumentPhase → List Argument → Option (List Expr × List Keyword)
  | _, [] => some ([], [])
  | phase, .positional e :: rest =>
    if phase = .all then (arrangeArguments .all rest).map fun (es, ks) => (e :: es, ks) else none
  | phase, .starred e :: rest =>
    if phase = .mappings then none
    else (arrangeArguments phase rest).map fun (es, ks) => (.starred e :: es, ks)
  | phase, .keyword w e :: rest =>
    (arrangeArguments (if phase = .all then .keywords else phase) rest).map
      fun (es, ks) => (es, .mk (some w) e :: ks)
  | _, .mapping e :: rest =>
    (arrangeArguments .mappings rest).map fun (es, ks) => (es, .mk none e :: ks)

/-- Arguments up to the closing parenthesis, the first of which has been read. -/
def argumentsAfter (first : Argument) : Parser (List Expr × List Keyword) := do
  let rest ← if ← acceptOp "," then optional (commaList (argument L)) else pure none
  op ")"
  match arrangeArguments .all (first :: (rest.map (·.1)).getD []) with
  | some result => return result
  | none => failure

/-- Arguments up to the closing parenthesis. -/
def arguments : Parser (List Expr × List Keyword) := do
  if ← acceptOp ")" then return ([], [])
  argumentsAfter L (← argument L)

/-- Arguments of a call up to the closing parenthesis: a single generator needs no parentheses of
its own. -/
def callArguments : Parser (List Expr × List Keyword) := do
  if ← acceptOp ")" then return ([], [])
  let first ← argument L
  match first with
  | .positional e =>
    if ← isClause then
      let cs ← clauses L
      op ")"
      return ([.comprehension .generator e cs], [])
    else argumentsAfter L first
  | first => argumentsAfter L first

/-! ### Subscripts -/

/-- A part of a slice, unless a token that ends it comes next. -/
def slicePart : Parser (Option Expr) := do
  if (← isOp ":") || (← isOp ",") || (← isOp "]") then return none
  else return some (← L.expression)

/-- The parts of a slice from its first colon on. -/
def sliceFrom (lower : Option Expr) : Parser Expr := do
  op ":"
  let upper ← slicePart L
  let step ← if ← acceptOp ":" then slicePart L else pure none
  return .slice lower upper step

/-- A slice or an index. -/
def sliceItem : Parser Expr := do
  if ← acceptOp "*" then return .starred (← L.expression)
  else if ← isOp ":" then sliceFrom L none
  else if (← nameBefore? ":=").isSome then namedExpression L
  else
    let e ← L.expression
    if ← isOp ":" then sliceFrom L (some e)
    else
      guard !(← isOp ":=")
      return e

/-- What stands between the brackets of a subscript. -/
def slices : Parser Expr := do
  match ← commaList (sliceItem L) with
  | ([e], false) => return if isStarred e then .tuple [e] else e
  | (items, _) => return .tuple items

/-! ### Parameters -/

/-- An item of a list of parameters. -/
inductive ParamItem where
  | plain (param : Param)
  | slash
  | star
  | others (param : Param)
  | otherKeywords (param : Param)

/-- A type hint, when hints are allowed. -/
def typeHint (annotated : Bool) (p : Parser Expr) : Parser (Option Expr) := do
  if annotated then afterOp? ":" p else return none

/-- One item of a list of parameters. -/
def paramItem (annotated : Bool) : Parser ParamItem := do
  if ← acceptOp "/" then return .slash
  else if ← acceptOp "**" then
    let w ← name
    return .otherKeywords (.mk w (← typeHint annotated L.expression) none)
  else if ← acceptOp "*" then
    if ← isOp "," then return .star
    let w ← name
    return .others (.mk w (← typeHint annotated (starExpression L)) none)
  else
    let w ← name
    let a ← typeHint annotated L.expression
    return .plain (.mk w a (← afterOp? "=" L.expression))

/-- The plain parameters at the start, and what follows them. -/
def plainItems : List ParamItem → List Param × List ParamItem
  | .plain p :: rest => ((p :: (plainItems rest).1), (plainItems rest).2)
  | items => ([], items)

/-- Whether a parameter has a default. -/
def Param.hasDefault : Param → Bool
  | .mk _ _ default => default.isSome

/-- Whether no parameter without a default follows one with a default. -/
def defaultsLast : List Param → Bool
  | [] => true
  | p :: rest => defaultsLast rest && (!Param.hasDefault p || rest.all Param.hasDefault)

/-- The parameters after those that can be given by position. -/
def arrangeRest (positionalOnly regular : List Param) : List ParamItem → Option Params
  | [] => some (.mk positionalOnly regular none [] none)
  | [.otherKeywords k] => some (.mk positionalOnly regular none [] (some k))
  | .star :: items =>
    match plainItems items with
    | ([], _) => none
    | (ps, []) => some (.mk positionalOnly regular none ps none)
    | (ps, [.otherKeywords k]) => some (.mk positionalOnly regular none ps (some k))
    | _ => none
  | .others o :: items =>
    match plainItems items with
    | (ps, []) => some (.mk positionalOnly regular (some o) ps none)
    | (ps, [.otherKeywords k]) => some (.mk positionalOnly regular (some o) ps (some k))
    | _ => none
  | _ => none

/-- Items in order as parameters. -/
def arrangeParams (items : List ParamItem) : Option Params :=
  match plainItems items with
  | (first, .slash :: rest) =>
    let (second, rest) := plainItems rest
    if first.isEmpty || !defaultsLast (first ++ second) then none
    else arrangeRest first second rest
  | (first, rest) => if defaultsLast first then arrangeRest [] first rest else none

/-- Parameters up to an operator, which is left where it is. -/
def params (annotated : Bool) (stop : String) : Parser Params := do
  if ← isOp stop then return .mk [] [] none [] none
  let (items, _) ← commaList (paramItem L annotated)
  guard (← isOp stop)
  match arrangeParams items with
  | some ps => return ps
  | none => failure

/-! ### Atoms -/

/-- The strings that follow a string, all of its kind, joined to it.  One that is formatted makes
the whole formatted. -/
def joinStrings (first : Expr) : Parser Expr :=
  repeatWhile (fun e => do
    let t ← peek
    match e, t.kind with
    | .constant (.text m xs), .literal (.text _ ys) =>
      let _ ← next
      return some (.constant (.text m (xs ++ ys)))
    | .constant (.text _ xs), .formatted raw body =>
      let _ ← next
      let ps ← found (L.formatted t.line raw body)
      return some (.joined (Formatted.merge (.text xs :: ps)))
    | .joined ps, .literal (.text _ ys) =>
      let _ ← next
      return some (.joined (Formatted.merge (ps ++ [.text ys])))
    | .joined ps, .formatted raw body =>
      let _ ← next
      let qs ← found (L.formatted t.line raw body)
      return some (.joined (Formatted.merge (ps ++ qs)))
    | .constant (.bytes xs), .literal (.bytes ys) =>
      let _ ← next
      return some (.constant (.bytes (xs ++ ys)))
    | _, _ => return none) first

/-- A literal; adjacent strings make one. -/
def literal : Parser Expr := do
  let t ← next
  match t.kind with
  | .literal c => joinStrings L (.constant c)
  | .formatted raw body =>
    let ps ← found (L.formatted t.line raw body)
    joinStrings L (.joined ps)
  | _ => failure

/-- A tuple, a generator or an expression between parentheses, the first of which has been read. -/
def parenthesized : Parser Expr := do
  if ← acceptOp ")" then return .tuple []
  else if ← isWord "yield" then
    let e ← yieldExpression L
    op ")"
    return e
  else
    let first ← starNamed L
    if ← isClause then
      guard !(isStarred first)
      let cs ← clauses L
      op ")"
      return .comprehension .generator first cs
    else if ← isOp "," then
      let items ← moreItems L first
      op ")"
      return .tuple items
    else
      guard !(isStarred first)
      op ")"
      return first

/-- A list display after its bracket. -/
def listDisplay : Parser Expr := do
  if ← acceptOp "]" then return .list []
  let first ← starNamed L
  if ← isClause then
    guard !(isStarred first)
    let cs ← clauses L
    op "]"
    return .comprehension .list first cs
  else
    let items ← moreItems L first
    op "]"
    return .list items

/-- An item of a dictionary display. -/
def dictItem : Parser DictItem := do
  if ← acceptOp "**" then return .unpack (← L.bitOr)
  else
    let key ← L.expression
    op ":"
    return .pair key (← L.expression)

/-- A dictionary display from its first item, which has been read, on. -/
def dictFrom (first : DictItem) : Parser Expr := do
  let rest ← if ← acceptOp "," then optional (commaList (dictItem L)) else pure none
  op "\x7d"
  return .dict (first :: (rest.map (·.1)).getD [])

/-- A set display from its first item, which has been read, on. -/
def setFrom (first : Expr) : Parser Expr := do
  if ← isClause then
    guard !(isStarred first)
    let cs ← clauses L
    op "\x7d"
    return .comprehension .set first cs
  else
    let items ← moreItems L first
    op "\x7d"
    return .set items

/-- A dictionary or a set display after its brace. -/
def braces : Parser Expr := do
  if ← acceptOp "\x7d" then return .dict []
  else if ← isOp "**" then dictFrom L (← dictItem L)
  else if (← isOp "*") || (← nameBefore? ":=").isSome then setFrom L (← starNamed L)
  else
    let first ← L.expression
    if ← acceptOp ":" then
      let value ← L.expression
      if ← isClause then
        let cs ← clauses L
        op "\x7d"
        return .dictComprehension first value cs
      else dictFrom L (.pair first value)
    else
      guard !(← isOp ":=")
      setFrom L first

/-- An atom. -/
def atom : Parser Expr := do
  match (← peek).kind with
  | .literal _ => literal L
  | .formatted _ _ => literal L
  | .name w =>
    let _ ← next
    return .name w
  | .word w =>
    let _ ← next
    if w == "None" then return .constant .none
    else if w == "True" then return .constant (.bool true)
    else if w == "False" then return .constant (.bool false)
    else if keywords.contains w then failure
    else return .name w
  | .op o =>
    let _ ← next
    if o == "(" then parenthesized L
    else if o == "[" then listDisplay L
    else if o == "\x7b" then braces L
    else if o == "..." then return .constant .ellipsis
    else failure
  | _ => failure

/-! ### Operators -/

/-- One step of what follows an atom: an attribute, a call or a subscript. -/
def postfixStep (line : Nat) (e : Expr) : Parser (Option Expr) := do
  if ← acceptOp "." then return some (.attribute e (← name))
  else if ← acceptOp "(" then
    let (args, keywords) ← callArguments L
    return some (.call line e args keywords)
  else if ← acceptOp "[" then
    let index ← slices L
    op "]"
    return some (.subscript e index)
  else return none

/-- An atom with its attributes, calls and subscripts. -/
def primary : Parser Expr := do
  let start ← line
  repeatWhile (postfixStep L start) (← atom L)

/-- A primary that may be awaited. -/
def awaited : Parser Expr := do
  if ← acceptWord "await" then return .await (← primary L) else primary L

/-- A power. -/
def power : Parser Expr := do
  let base ← awaited L
  if ← acceptOp "**" then return .binary .pow base (← L.factor) else return base

/-- A power with signs before it. -/
def factor : Parser Expr := do
  if ← acceptOp "+" then return .unary .plus (← L.factor)
  else if ← acceptOp "-" then return .unary .minus (← L.factor)
  else if ← acceptOp "~" then return .unary .invert (← L.factor)
  else power L

/-- Operands with operators of one precedence between them, grouped from the left. -/
def chain (ops : List (String × BinaryOp)) (operand : Parser Expr) : Parser Expr := do
  repeatWhile (fun e => do
    let kind := (← peek).kind
    match ops.find? fun (s, _) => kind == .op s with
    | some (_, o) =>
      let _ ← next
      return some (.binary o e (← operand))
    | none => return none) (← operand)

/-- A product. -/
def term : Parser Expr :=
  chain [("*", .mul), ("/", .div), ("//", .floorDiv), ("%", .mod), ("@", .matMul)] (factor L)

/-- A sum. -/
def sum : Parser Expr := chain [("+", .add), ("-", .sub)] (term L)

/-- A shift. -/
def shift : Parser Expr := chain [("<<", .shiftLeft), (">>", .shiftRight)] (sum L)

/-- A conjunction of bits. -/
def bitAnd : Parser Expr := chain [("&", .bitAnd)] (shift L)

/-- An exclusive disjunction of bits. -/
def bitXor : Parser Expr := chain [("^", .bitXor)] (bitAnd L)

/-- A disjunction of bits. -/
def bitOr : Parser Expr := chain [("|", .bitOr)] (bitXor L)

/-- The comparisons that are operators. -/
def compareOps : List (String × CompareOp) :=
  [("==", .eq), ("!=", .ne), ("<", .lt), ("<=", .le), (">", .gt), (">=", .ge)]

/-- A comparison operator, if one comes next. -/
def compareOp? : Parser (Option CompareOp) := do
  let kind := (← peek).kind
  match compareOps.find? fun (s, _) => kind == .op s with
  | some (_, o) =>
    let _ ← next
    return some o
  | none =>
    if ← acceptWord "in" then return some .isIn
    else if ← acceptWord "is" then
      if ← acceptWord "not" then return some .notSame else return some .same
    else if (← isWord "not") && (← peekSecond) == .word "in" then
      let _ ← next
      let _ ← next
      return some .notIn
    else return none

/-- Operands with comparisons between them. -/
def comparison : Parser Expr := do
  let first ← bitOr L
  let rest ← repeatWhile (fun done => do
    match ← compareOp? with
    | some o => return some (Comparison.mk o (← bitOr L) :: done)
    | none => return none) []
  return if rest.isEmpty then first else .compare first rest.reverse

/-- A comparison with negations before it. -/
def inversion : Parser Expr := do
  if ← acceptWord "not" then return .unary .not (← L.inversion) else comparison L

/-- Operands with one word between them. -/
def joined (word : String) (o : BoolOp) (operand : Parser Expr) : Parser Expr := do
  let first ← operand
  let rest ← manyWhile (acceptWord word) operand
  return if rest.isEmpty then first else .boolean o (first :: rest)

/-- Inversions with `and` between them. -/
def conjunction : Parser Expr := joined "and" .and (inversion L)

/-- Conjunctions with `or` between them. -/
def disjunction : Parser Expr := joined "or" .or (conjunction L)

/-- A function without a name. -/
def lambda : Parser Expr := do
  word "lambda"
  let ps ← params L false ":"
  op ":"
  return .lambda ps (← L.expression)

/-- The condition and the alternative of a conditional expression. -/
def conditionAndElse : Parser (Expr × Expr) := do
  word "if"
  let test ← L.disjunction
  word "else"
  return (test, ← L.expression)

/-- An expression. -/
def expression : Parser Expr := do
  if ← isWord "lambda" then lambda L
  else
    let e ← disjunction L
    if ← isWord "if" then
      match ← optional (conditionAndElse L) with
      | some (test, orelse) => return .conditional test e orelse
      | none => return e
    else return e

end Nested

/-- The expression of a field, between parentheses of its own. -/
def fieldExpression (host : Host) (L : Level) (line : Nat) (code : List Char) : Option Expr := do
  let tokens ← Token.scanAt host line ('(' :: code ++ [')'])
  let (e, _) ← (starExpressions L).run tokens
  return e

/-- The parsers for expressions nested to a depth. -/
def Level.ofDepth (host : Host) : Nat → Level
  | 0 => ⟨failure, failure, failure, failure, failure, failure, fun _ _ _ => none⟩
  | depth + 1 =>
    let L := Level.ofDepth host depth
    { expression := Parser.expression L
      disjunction := Parser.disjunction L
      inversion := Parser.inversion L
      bitOr := Parser.bitOr L
      factor := Parser.factor L
      primary := Parser.primary L
      formatted := Formatted.read host (fieldExpression host L) }

end Parser

end CallReach.Source
