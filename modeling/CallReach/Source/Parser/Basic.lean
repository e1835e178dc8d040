import CallReach.Source.Token

/-!
# Reading tokens

A parser takes tokens from the front of a list and may fail.  Of two alternatives the second is tried
when the first fails, from the same tokens on.
-/

namespace CallReach.Source

/-- A reader of tokens. -/
abbrev Parser (α : Type) := StateT (List Token) Option α

namespace Parser

variable {α : Type}

/-- The words that are no names. -/
def keywords : List String :=
  ["False", "None", "True", "and", "as", "assert", "async", "await", "break", "class", "continue",
    "def", "del", "elif", "else", "except", "finally", "for", "from", "global", "if", "import", "in",
    "is", "lambda", "nonlocal", "not", "or", "pass", "raise", "return", "try", "while", "with",
    "yield"]

/-- The next token, which is left where it is. -/
def peek : Parser Token := fun ts =>
  match ts with
  | t :: _ => some (t, ts)
  | [] => none

/-- The kind of the token after the next one. -/
def peekSecond : Parser TokenKind := fun ts =>
  match ts with
  | _ :: t :: _ => some (t.kind, ts)
  | _ => some (.stop, ts)

/-- The next token. -/
def next : Parser Token := fun ts =>
  match ts with
  | t :: rest => some (t, rest)
  | [] => none

/-- The line the next token starts on. -/
def line : Parser Nat := do return (← peek).line

/-- The line on which the last token that was read ends. -/
def lastLine : Parser Nat := do return (← peek).before

/-- What has been found apart from the tokens, if it has been found. -/
def found : Option α → Parser α
  | some a => pure a
  | none => failure

/-- Whether the next token is of a kind. -/
def isNext (kind : TokenKind) : Parser Bool := do return (← peek).kind == kind

/-- Whether the next token is an operator. -/
def isOp (op : String) : Parser Bool := isNext (.op op)

/-- Whether the next token is a word. -/
def isWord (word : String) : Parser Bool := isNext (.word word)

/-- Takes a token of a kind. -/
def expect (kind : TokenKind) : Parser Unit := do
  let t ← next
  guard (t.kind == kind)

/-- Takes an operator. -/
def op (s : String) : Parser Unit := expect (.op s)

/-- Takes a word. -/
def word (s : String) : Parser Unit := expect (.word s)

/-- Takes a token of a kind if it is next, and says whether it was. -/
def accept (kind : TokenKind) : Parser Bool := do
  if ← isNext kind then
    let _ ← next
    return true
  else return false

/-- Takes an operator if it is next. -/
def acceptOp (s : String) : Parser Bool := accept (.op s)

/-- Takes a word if it is next. -/
def acceptWord (s : String) : Parser Bool := accept (.word s)

/-- The name that a token is. -/
def nameOf? (t : Token) : Option String :=
  match t.kind with
  | .word w => if keywords.contains w then none else some w
  | .name w => some w
  | _ => none

/-- A name. -/
def name : Parser String := do
  match nameOf? (← next) with
  | some w => return w
  | none => failure

/-- The name that comes next when a given operator follows it. -/
def nameBefore? (op : String) : Parser (Option String) := do
  match nameOf? (← peek) with
  | none => return none
  | some w =>
    if (← peekSecond) == .op op then return some w else return none

/-- What comes next, if it can be read. -/
def optional (p : Parser α) : Parser (Option α) := (some <$> p) <|> pure none

/-- What follows an operator that may be absent. -/
def afterOp? (s : String) (p : Parser α) : Parser (Option α) := do
  if ← acceptOp s then some <$> p else return none

/-- What follows a word that may be absent. -/
def afterWord? (s : String) (p : Parser α) : Parser (Option α) := do
  if ← acceptWord s then some <$> p else return none

/-- Repeats a step that changes a value until it gives none, at most `fuel` times. -/
def repeatFor (step : α → Parser (Option α)) : Nat → α → Parser α
  | 0, a => pure a
  | fuel + 1, a => do
    match ← step a with
    | some b => repeatFor step fuel b
    | none => return a

/-- Repeats a step that changes a value until it gives none.  Each step takes a token, so there are
no more steps than tokens. -/
def repeatWhile (step : α → Parser (Option α)) (a : α) : Parser α := do
  repeatFor step (← get).length a

/-- Items as long as a condition on the next token holds. -/
def manyWhile (more : Parser Bool) (p : Parser α) : Parser (List α) := do
  let items ← repeatWhile (fun done => do
    if ← more then
      let a ← p
      return some (a :: done)
    else return none) []
  return items.reverse

/-- Items with commas between them, and whether a comma follows the last. -/
def commaList (p : Parser α) : Parser (List α × Bool) := do
  let first ← p
  let step : List α × Bool → Parser (Option (List α × Bool)) := fun (done, ended) => do
    if ended then return none
    else if ← acceptOp "," then
      match ← optional p with
      | some a => return some (a :: done, false)
      | none => return some (done, true)
    else return none
  let (items, trailing) ← repeatWhile step ([first], false)
  return (items.reverse, trailing)

end Parser

end CallReach.Source
