import CallReach.Source.Parser.Expr

/-!
# Reading patterns

A pattern is read only to know where it ends, whether it matches everything, and which literals are in
it.
-/

namespace CallReach.Source

namespace Parser

/-- Whether one of some operators comes next. -/
def isAnyOp (ops : List String) : Parser Bool := do
  match (← peek).kind with
  | .op o => return ops.contains o
  | _ => return false

/-- A name that a pattern binds. -/
def captureName : Parser String := do
  guard !(← isWord "_")
  let w ← name
  guard !(← isAnyOp [".", "(", "="])
  return w

/-- A number literal. -/
def numberLiteral : Parser Constant := do
  match (← next).kind with
  | .literal (.int n) => return .int n
  | .literal (.float x) => return .float x
  | .literal (.imaginary x) => return .imaginary x
  | _ => failure

/-- Whether a constant is an imaginary number. -/
def isImaginary : Constant → Bool
  | .imaginary _ => true
  | _ => false

/-- A number that may have a sign, or the sum of a real and an imaginary number: the numbers in
it. -/
def signedNumber : Parser (List Expr) := do
  let _ ← acceptOp "-"
  let c ← numberLiteral
  if (← acceptOp "+") || (← acceptOp "-") then
    guard !(isImaginary c)
    let d ← numberLiteral
    guard (isImaginary d)
    return [.constant c, .constant d]
  else return [.constant c]

/-- A literal in a pattern: the strings and numbers in it. -/
def literalPattern (L : Level) : Parser (List Expr) := do
  match (← peek).kind with
  | .literal (.text _ _) => return [← literal L]
  | .literal (.bytes _) => return [← literal L]
  | .formatted _ _ => return [← literal L]
  | .word w =>
    let _ ← next
    guard (["None", "True", "False"].contains w)
    return []
  | _ => signedNumber

/-- Names with dots between them: whether there is a dot. -/
def dottedPattern : Parser Bool := do
  let _ ← name
  let rest ← manyWhile (acceptOp ".") name
  return !rest.isEmpty

section Nested

variable (L : Level) (pattern : Parser Pattern)

/-- A pattern in a sequence: whether it is starred, and the pattern. -/
def sequenceItem : Parser (Bool × Pattern) := do
  if ← acceptOp "*" then
    if ← acceptWord "_" then return (true, .refutable [])
    let _ ← captureName
    return (true, .refutable [])
  else return (false, ← pattern)

/-- A sequence after its bracket.  One pattern in parentheses without a comma is that pattern. -/
def sequenceFrom (closing : String) (group : Bool) : Parser Pattern := do
  if ← acceptOp closing then return .refutable []
  match ← commaList (sequenceItem pattern) with
  | ([(isStarred, p)], false) =>
    op closing
    if group then
      guard !isStarred
      return p
    else return .refutable p.literals
  | (items, _) =>
    op closing
    return .refutable (items.flatMap (·.2.literals))

/-- A key of a mapping pattern: the literals in it. -/
def patternKey : Parser (List Expr) := do
  match nameOf? (← peek) with
  | some _ =>
    guard (← dottedPattern)
    return []
  | none => literalPattern L

/-- An item of a mapping pattern: whether it takes the other keys, and the literals in it. -/
def mappingItem : Parser (Bool × List Expr) := do
  if ← acceptOp "**" then
    let _ ← captureName
    return (true, [])
  else
    let key ← patternKey L
    op ":"
    let p ← pattern
    return (false, key ++ p.literals)

/-- A mapping pattern after its brace: only the last item may take the other keys. -/
def mappingFrom : Parser Pattern := do
  if ← acceptOp "\x7d" then return .refutable []
  let (items, _) ← commaList (mappingItem L pattern)
  guard (items.dropLast.all (!·.1))
  op "\x7d"
  return .refutable (items.flatMap (·.2))

/-- An argument of a class pattern: whether it has a keyword, and the pattern. -/
def classItem : Parser (Bool × Pattern) := do
  match ← nameBefore? "=" with
  | some _ =>
    let _ ← next
    let _ ← next
    return (true, ← pattern)
  | none => return (false, ← pattern)

/-- The arguments of a class pattern after its parenthesis: those with keywords come last. -/
def classFrom : Parser Pattern := do
  if ← acceptOp ")" then return .refutable []
  let (items, _) ← commaList (classItem pattern)
  guard ((items.dropWhile (!·.1)).all (·.1))
  op ")"
  return .refutable (items.flatMap (·.2.literals))

/-- A pattern that starts with a name. -/
def namePattern (w : String) : Parser Pattern := do
  if ← acceptWord "_" then return .any none
  let isDotted ← dottedPattern
  if ← acceptOp "(" then classFrom pattern
  else
    guard !(← isOp "=")
    return if isDotted then .refutable [] else .any (some w)

/-- A pattern without alternatives. -/
def closedPattern : Parser Pattern := do
  let t ← peek
  match nameOf? t with
  | some w => namePattern pattern w
  | none =>
    match t.kind with
    | .op "(" =>
      let _ ← next
      sequenceFrom pattern ")" true
    | .op "[" =>
      let _ ← next
      sequenceFrom pattern "]" false
    | .op "\x7b" =>
      let _ ← next
      mappingFrom L pattern
    | _ => return .refutable (← literalPattern L)

/-- Patterns with bars between them, and a name for what they match. -/
def wholePattern : Parser Pattern := do
  let first ← closedPattern L pattern
  let rest ← manyWhile (acceptOp "|") (closedPattern L pattern)
  let p := if rest.isEmpty then first else .refutable ((first :: rest).flatMap Pattern.literals)
  if ← acceptWord "as" then
    let _ ← captureName
    return .refutable p.literals
  else return p

/-- The patterns of a case, which may be a sequence without brackets. -/
def casePatterns : Parser Pattern := do
  match ← commaList (sequenceItem pattern) with
  | ([(isStarred, p)], false) =>
    guard !isStarred
    return p
  | (items, _) => return .refutable (items.flatMap (·.2.literals))

end Nested

/-- A pattern nested to a depth. -/
def patternOfDepth (L : Level) : Nat → Parser Pattern
  | 0 => failure
  | depth + 1 => wholePattern L (patternOfDepth L depth)

end Parser

end CallReach.Source
