import CallReach.Source.Constant

/-!
# Trees of source text

Expressions and statements.  A call knows the line its callee starts on, and a statement the lines it
starts and ends on.  A formatted string is put together from pieces of text and fields, whose
expressions are parts of it.  Patterns are kept only as far as control flow needs them, whether one
matches everything, and with the literals in them, which have to be written.
-/

namespace CallReach.Source

/-- Operators with two operands. -/
inductive BinaryOp where
  | add | sub | mul | matMul | div | mod | pow | shiftLeft | shiftRight | bitOr | bitXor | bitAnd
  | floorDiv
  deriving DecidableEq, Repr, Inhabited

/-- Operators with one operand. -/
inductive UnaryOp where
  | not | plus | minus | invert
  deriving DecidableEq, Repr, Inhabited

/-- Operators that join truth values. -/
inductive BoolOp where
  | and | or
  deriving DecidableEq, Repr, Inhabited

/-- Comparisons. -/
inductive CompareOp where
  | eq | ne | lt | le | gt | ge | same | notSame | isIn | notIn
  deriving DecidableEq, Repr, Inhabited

/-- What a comprehension makes. -/
inductive Collection where
  | list | set | generator
  deriving DecidableEq, Repr, Inhabited

/-- How the value of a field becomes text. -/
inductive Conversion where
  | str | repr | ascii
  deriving DecidableEq, Repr, Inhabited

mutual

/-- An expression. -/
inductive Expr where
  | name (id : String)
  | constant (value : Constant)
  | attribute (value : Expr) (name : String)
  | subscript (value index : Expr)
  | call (line : Nat) (callee : Expr) (args : List Expr) (keywords : List Keyword)
  | starred (value : Expr)
  | tuple (items : List Expr)
  | list (items : List Expr)
  | set (items : List Expr)
  | dict (items : List DictItem)
  | unary (op : UnaryOp) (operand : Expr)
  | binary (op : BinaryOp) (left right : Expr)
  | boolean (op : BoolOp) (operands : List Expr)
  | compare (first : Expr) (rest : List Comparison)
  | conditional (test body orelse : Expr)
  | lambda (params : Params) (body : Expr)
  | named (target value : Expr)
  | yield (value : Option Expr)
  | yieldFrom (value : Expr)
  | await (value : Expr)
  | slice (lower upper step : Option Expr)
  | comprehension (kind : Collection) (element : Expr) (clauses : List Clause)
  | dictComprehension (key value : Expr) (clauses : List Clause)
  /-- A formatted string. -/
  | joined (pieces : List Piece)

/-- A piece of a formatted string: text, or a field with the format of its value. -/
inductive Piece where
  | text (codes : List Nat)
  | field (value : Expr) (conversion : Option Conversion) (format : Option (List Piece))

/-- A keyword argument; without a name it is a mapping of arguments. -/
inductive Keyword where
  | mk (name : Option String) (value : Expr)

/-- An item of a dictionary display. -/
inductive DictItem where
  | pair (key value : Expr)
  | unpack (value : Expr)

/-- A comparison with the operand before it. -/
inductive Comparison where
  | mk (op : CompareOp) (operand : Expr)

/-- A clause of a comprehension. -/
inductive Clause where
  | mk (isAsync : Bool) (target iter : Expr) (conditions : List Expr)

/-- A parameter. -/
inductive Param where
  | mk (name : String) (typeHint default : Option Expr)

/-- The parameters of a function. -/
inductive Params where
  | mk (positionalOnly regular : List Param) (others : Option Param) (keywordOnly : List Param)
      (otherKeywords : Option Param)

end

instance : Inhabited Expr := ⟨.name ""⟩

/-- A name that is imported, and the name it gets. -/
structure Alias where
  name : String
  as? : Option String := none
  deriving DecidableEq, Repr, Inhabited

/-- A statement that is one step of its block. -/
inductive Simple where
  | expression (value : Expr)
  | assign (targets : List Expr) (value : Expr)
  | augmented (target : Expr) (op : BinaryOp) (value : Expr)
  /-- `bare` says that the target is a name without parentheses. -/
  | annotated (target typeHint : Expr) (value : Option Expr) (bare : Bool)
  | delete (targets : List Expr)
  | assertion (test : Expr) (message : Option Expr)
  | pass
  | importNames (names : List Alias)
  | importFrom (level : Nat) (module : Option String) (names : List Alias)
  | global (names : List String)
  | nonlocal (names : List String)

/-- The lines a statement starts and ends on. -/
structure Span where
  first : Nat
  last : Nat
  deriving DecidableEq, Repr, Inhabited

/-- A pattern: a name or a wildcard, which match everything, or any other with its literals. -/
inductive Pattern where
  | any (name : Option String)
  | refutable (literals : List Expr)

/-- The literals in a pattern. -/
def Pattern.literals : Pattern → List Expr
  | .any _ => []
  | .refutable literals => literals

/-- A context that a block is run in, and the target it is bound to. -/
structure WithItem where
  context : Expr
  target : Option Expr

mutual

/-- A statement. -/
inductive Stmt where
  | simple (span : Span) (statement : Simple)
  | ret (span : Span) (value : Option Expr)
  | raise (span : Span) (exception cause : Option Expr)
  | exit (span : Span)
  | again (span : Span)
  | branch (span : Span) (test : Expr) (body orelse : List Stmt)
  | whileLoop (span : Span) (test : Expr) (body orelse : List Stmt)
  | forLoop (span : Span) (target iter : Expr) (body orelse : List Stmt)
  | within (span : Span) (items : List WithItem) (body : List Stmt)
  | attempt (span : Span) (body : List Stmt) (handlers : List Handler) (orelse final : List Stmt)
  | select (span : Span) (subject : Expr) (cases : List Case)
  | functionDef (span : Span) (isAsync : Bool) (decorators : List Expr) (name : String)
      (params : Params) (returns : Option Expr) (body : List Stmt)
  | classDef (span : Span) (decorators : List Expr) (name : String) (bases : List Expr)
      (keywords : List Keyword) (body : List Stmt)

/-- A handler of exceptions. -/
inductive Handler where
  | mk (line : Nat) (exception : Option Expr) (body : List Stmt)

/-- A case of a match. -/
inductive Case where
  | mk (pattern : Pattern) (guard : Option Expr) (body : List Stmt)

end

instance : Inhabited Stmt := ⟨.exit default⟩

/-- The lines of a statement. -/
def Stmt.span : Stmt → Span
  | .simple s _ => s
  | .ret s _ => s
  | .raise s _ _ => s
  | .exit s => s
  | .again s => s
  | .branch s _ _ _ => s
  | .whileLoop s _ _ _ => s
  | .forLoop s _ _ _ _ => s
  | .within s _ _ => s
  | .attempt s _ _ _ _ => s
  | .select s _ _ => s
  | .functionDef s _ _ _ _ _ _ => s
  | .classDef s _ _ _ _ _ => s

end CallReach.Source
