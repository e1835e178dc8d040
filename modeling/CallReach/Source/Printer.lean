import CallReach.Source.Tree
import CallReach.Text.Integer
import CallReach.Text.Lines
import CallReach.Text.Literal

/-!
# The text of source trees

Expressions are written with the parentheses that their place requires: every place has a required
precedence, and an expression of a lower precedence is put in parentheses.  Everything is shown by
the first line of its text.

Inside the fields of formatted strings no backslash may be written, so strings are put there between
quotes that need none, if there are any.

Not every tree can be written: an integer has at most `Text.maxDigits` digits, and a field is written
without backslashes or not at all.
-/

namespace CallReach.Source

/-- How strongly an expression holds together. -/
abbrev Precedence := Nat

namespace Precedence

/-- A name with a value. -/
def named : Precedence := 0
/-- Items with commas between them. -/
def tuple : Precedence := 1
/-- A yield. -/
def yield : Precedence := 2
/-- A conditional or a function without a name; what most places require. -/
def test : Precedence := 3
/-- Operands joined by `or`. -/
def or : Precedence := 4
/-- Operands joined by `and`. -/
def and : Precedence := 5
/-- A negation. -/
def not : Precedence := 6
/-- A comparison. -/
def compare : Precedence := 7
/-- A disjunction of bits. -/
def bitOr : Precedence := 8
/-- An exclusive disjunction of bits. -/
def bitXor : Precedence := 9
/-- A conjunction of bits. -/
def bitAnd : Precedence := 10
/-- A shift. -/
def shift : Precedence := 11
/-- A sum. -/
def sum : Precedence := 12
/-- A product. -/
def term : Precedence := 13
/-- A sign. -/
def factor : Precedence := 14
/-- A power. -/
def power : Precedence := 15
/-- An awaited expression. -/
def await : Precedence := 16
/-- An atom. -/
def atom : Precedence := 17

/-- The next stronger precedence. -/
def next (p : Precedence) : Precedence := min (p + 1) atom

end Precedence

/-- The text and the precedence of an operator with two operands. -/
def BinaryOp.info : BinaryOp → String × Precedence
  | .add => ("+", .sum)
  | .sub => ("-", .sum)
  | .mul => ("*", .term)
  | .matMul => ("@", .term)
  | .div => ("/", .term)
  | .mod => ("%", .term)
  | .floorDiv => ("//", .term)
  | .shiftLeft => ("<<", .shift)
  | .shiftRight => (">>", .shift)
  | .bitOr => ("|", .bitOr)
  | .bitXor => ("^", .bitXor)
  | .bitAnd => ("&", .bitAnd)
  | .pow => ("**", .power)

/-- The text of an operator with two operands. -/
def BinaryOp.text (o : BinaryOp) : String := o.info.1

/-- The text and the precedence of an operator with one operand. -/
def UnaryOp.info : UnaryOp → String × Precedence
  | .not => ("not ", .not)
  | .plus => ("+", .factor)
  | .minus => ("-", .factor)
  | .invert => ("~", .factor)

/-- The text and the precedence of an operator that joins truth values. -/
def BoolOp.info : BoolOp → String × Precedence
  | .and => ("and", .and)
  | .or => ("or", .or)

/-- The text of a comparison. -/
def CompareOp.text : CompareOp → String
  | .eq => "=="
  | .ne => "!="
  | .lt => "<"
  | .le => "<="
  | .gt => ">"
  | .ge => ">="
  | .same => "is"
  | .notSame => "is not"
  | .isIn => "in"
  | .notIn => "not in"

/-- A text in parentheses if a condition holds. -/
def parensIf (condition : Bool) (s : String) : String := if condition then "(" ++ s ++ ")" else s

/-- Items with commas between them; a single one is followed by a comma. -/
def itemsText : List String → String
  | [s] => s ++ ","
  | items => ", ".intercalate items

/-- The text between the brackets of a collection. -/
def Collection.surround (kind : Collection) (s : String) : String :=
  match kind with
  | .list => "[" ++ s ++ "]"
  | .set => "\x7b" ++ s ++ "\x7d"
  | .generator => "(" ++ s ++ ")"

/-- Whether an expression is a whole number, after which a dot needs a blank. -/
def isWholeConstant : Expr → Bool
  | .constant c => c.isWhole
  | _ => false

/-- The sign of a conversion. -/
def Conversion.sign : Conversion → String
  | .str => "!s"
  | .repr => "!r"
  | .ascii => "!a"

/-- The text of a constant in a field of a formatted string, or elsewhere. -/
def Constant.renderIn (plain : Bool) : Constant → String
  | .text marked codes =>
    if plain then (if marked then "u" else "") ++ String.ofList (Text.plainlyQuoted codes)
    else (Constant.text marked codes).render
  | c => c.render

/-- Text between fields: braces are doubled. -/
def doubleBraces (codes : List Nat) : List Nat :=
  codes.flatMap fun n => if n == '{'.toNat || n == '}'.toNat then [n, n] else [n]

/-- The text of a field from those of its value and its format. -/
def fieldText (value : String) (conversion : Option Conversion) (format : Option (List Nat)) :
    List Nat :=
  let start := if value.startsWith "\x7b" then "\x7b " else "\x7b"
  let sign := (conversion.map Conversion.sign).getD ""
  (start ++ value ++ sign).toList.map Char.toNat ++ (format.map (':'.toNat :: ·)).getD [] ++
    ['}'.toNat]

/-- A formatted string from the texts of its pieces, each with a mark for text between fields. -/
def joinedText (plain : Bool) (parts : List (List Nat × Bool)) : String :=
  "f" ++ String.ofList (if plain then Text.plainlyQuoted (parts.flatMap (·.1))
    else Text.jointlyQuoted parts)

mutual

/-- The text of an expression in a place that requires a precedence; `plain` says that it stands in
a field of a formatted string. -/
def Expr.render (plain : Bool) (required : Precedence) : Expr → String
  | .name id => id
  | .constant c => c.renderIn plain
  | .attribute value name =>
    value.render plain .atom ++ (if isWholeConstant value then " ." else ".") ++ name
  | .subscript value index =>
    value.render plain .atom ++ "[" ++
      (match index with
        | .tuple items =>
          if items.isEmpty then "()" else itemsText (renderAll plain .test items)
        | e => e.render plain .test) ++ "]"
  | .call _ callee args keywords =>
    callee.render plain .atom ++ "(" ++
      ", ".intercalate (renderAll plain .test args ++ renderKeywords plain keywords) ++ ")"
  | .starred value => "*" ++ value.render plain .bitOr
  | .tuple items =>
    parensIf (items.isEmpty || required > .tuple) (itemsText (renderAll plain .test items))
  | .list items => "[" ++ ", ".intercalate (renderAll plain .test items) ++ "]"
  | .set items => "\x7b" ++ ", ".intercalate (renderAll plain .test items) ++ "\x7d"
  | .dict items => "\x7b" ++ ", ".intercalate (renderDict plain items) ++ "\x7d"
  | .unary op operand =>
    let (s, own) := op.info
    parensIf (required > own) (s ++ operand.render plain own)
  | .binary op left right =>
    let (s, own) := op.info
    let (l, r) := if op = .pow then (own.next, own) else (own, own.next)
    parensIf (required > own) (left.render plain l ++ " " ++ s ++ " " ++ right.render plain r)
  | .boolean op operands =>
    let (s, own) := op.info
    parensIf (required > own) ((" " ++ s ++ " ").intercalate (renderRising plain own operands))
  | .compare first rest =>
    parensIf (required > .compare)
      (first.render plain Precedence.compare.next ++ renderComparisons plain rest)
  | .conditional test body orelse =>
    parensIf (required > .test)
      (body.render plain .or ++ " if " ++ test.render plain .or ++ " else " ++
        orelse.render plain .test)
  | .lambda params body =>
    let ps := params.render plain
    parensIf (required > .test)
      ("lambda" ++ (if ps.isEmpty then "" else " " ++ ps) ++ ": " ++ body.render plain .test)
  | .named target value =>
    parensIf (required > .named) (target.render plain .atom ++ " := " ++ value.render plain .atom)
  | .yield value =>
    parensIf (required > .yield) ("yield" ++ renderAfter plain " " .atom value)
  | .yieldFrom value => parensIf (required > .yield) ("yield from " ++ value.render plain .atom)
  | .await value => parensIf (required > .await) ("await " ++ value.render plain .atom)
  | .slice lower upper step =>
    renderAfter plain "" .test lower ++ ":" ++ renderAfter plain "" .test upper ++
      renderAfter plain ":" .test step
  | .comprehension kind element clauses =>
    kind.surround (element.render plain .test ++ renderClauses plain clauses)
  | .dictComprehension key value clauses =>
    "\x7b" ++ key.render plain .test ++ ": " ++ value.render plain .test ++
      renderClauses plain clauses ++ "\x7d"
  | .joined pieces => joinedText plain (renderPieces pieces)

/-- The texts of expressions in places that require the same precedence. -/
def renderAll (plain : Bool) (required : Precedence) : List Expr → List String
  | [] => []
  | e :: rest => e.render plain required :: renderAll plain required rest

/-- The texts of operands, each in a place that requires more than the one before. -/
def renderRising (plain : Bool) (level : Precedence) : List Expr → List String
  | [] => []
  | e :: rest => e.render plain level.next :: renderRising plain level.next rest

/-- The text of an expression after a text, or nothing. -/
def renderAfter (plain : Bool) (before : String) (required : Precedence) : Option Expr → String
  | none => ""
  | some e => before ++ e.render plain required

/-- The texts of keyword arguments. -/
def renderKeywords (plain : Bool) : List Keyword → List String
  | [] => []
  | .mk none value :: rest => ("**" ++ value.render plain .test) :: renderKeywords plain rest
  | .mk (some name) value :: rest =>
    (name ++ "=" ++ value.render plain .test) :: renderKeywords plain rest

/-- The texts of the items of a dictionary. -/
def renderDict (plain : Bool) : List DictItem → List String
  | [] => []
  | .pair key value :: rest =>
    (key.render plain .test ++ ": " ++ value.render plain .test) :: renderDict plain rest
  | .unpack value :: rest => ("**" ++ value.render plain .bitOr) :: renderDict plain rest

/-- The text of comparisons with their operands. -/
def renderComparisons (plain : Bool) : List Comparison → String
  | [] => ""
  | .mk op operand :: rest =>
    " " ++ op.text ++ " " ++ operand.render plain Precedence.compare.next ++
      renderComparisons plain rest

/-- The text of the clauses of a comprehension. -/
def renderClauses (plain : Bool) : List Clause → String
  | [] => ""
  | .mk isAsync target iter conditions :: rest =>
    (if isAsync then " async for " else " for ") ++ target.render plain .tuple ++ " in " ++
      iter.render plain .or ++ String.join ((renderAll plain .or conditions).map (" if " ++ ·)) ++
      renderClauses plain rest

/-- The text of a parameter. -/
def Param.render (plain : Bool) : Param → String
  | .mk name typeHint default =>
    name ++ renderAfter plain ": " .test typeHint ++ renderAfter plain "=" .test default

/-- The texts of parameters. -/
def renderParams (plain : Bool) : List Param → List String
  | [] => []
  | p :: rest => p.render plain :: renderParams plain rest

/-- The text of a parameter after a mark, if it is there. -/
def renderMarked (plain : Bool) (mark : String) : Option Param → List String
  | none => []
  | some p => [mark ++ p.render plain]

/-- The text of the parameters of a function. -/
def Params.render (plain : Bool) : Params → String
  | .mk positionalOnly regular others keywordOnly otherKeywords =>
    let starred := renderMarked plain "*" others
    let starred := if starred.isEmpty && !keywordOnly.isEmpty then ["*"] else starred
    ", ".intercalate (
      renderParams plain positionalOnly ++ (if positionalOnly.isEmpty then [] else ["/"]) ++
      renderParams plain regular ++ starred ++ renderParams plain keywordOnly ++
      renderMarked plain "**" otherKeywords)

/-- The texts of the pieces of a formatted string, each with a mark for text between fields. -/
def renderPieces : List Piece → List (List Nat × Bool)
  | [] => []
  | .text codes :: rest => (doubleBraces codes, true) :: renderPieces rest
  | .field value conversion format :: rest =>
    (fieldText (value.render true .or) conversion (renderFormat format), false) ::
      renderPieces rest

/-- The text of the format of a field. -/
def renderFormat : Option (List Piece) → Option (List Nat)
  | none => none
  | some pieces => some ((renderPieces pieces).flatMap (·.1))

end

/-! ### What can be written -/

/-- Whether a constant can be written. -/
def Constant.writable : Constant → Bool
  | .int n => (Nat.toDigits 10 n).length ≤ Text.maxDigits
  | _ => true

mutual

/-- Whether an expression can be written. -/
def Expr.writable : Expr → Bool
  | .name _ => true
  | .constant c => c.writable
  | .attribute value _ => value.writable
  | .subscript value index => value.writable && index.writable
  | .call _ callee args keywords =>
    callee.writable && allWritable args && keywordsWritable keywords
  | .starred value => value.writable
  | .tuple items => allWritable items
  | .list items => allWritable items
  | .set items => allWritable items
  | .dict items => itemsWritable items
  | .unary _ operand => operand.writable
  | .binary _ left right => left.writable && right.writable
  | .boolean _ operands => allWritable operands
  | .compare first rest => first.writable && comparisonsWritable rest
  | .conditional test body orelse => test.writable && body.writable && orelse.writable
  | .lambda params body => params.writable && body.writable
  | .named target value => target.writable && value.writable
  | .yield value => optionWritable value
  | .yieldFrom value => value.writable
  | .await value => value.writable
  | .slice lower upper step =>
    optionWritable lower && optionWritable upper && optionWritable step
  | .comprehension _ element clauses => element.writable && clausesWritable clauses
  | .dictComprehension key value clauses =>
    key.writable && value.writable && clausesWritable clauses
  | .joined pieces => piecesWritable pieces

/-- Whether all expressions can be written. -/
def allWritable : List Expr → Bool
  | [] => true
  | e :: rest => e.writable && allWritable rest

/-- Whether an expression can be written, if it is there. -/
def optionWritable : Option Expr → Bool
  | none => true
  | some e => e.writable

/-- Whether keyword arguments can be written. -/
def keywordsWritable : List Keyword → Bool
  | [] => true
  | .mk _ value :: rest => value.writable && keywordsWritable rest

/-- Whether the items of a dictionary can be written. -/
def itemsWritable : List DictItem → Bool
  | [] => true
  | .pair key value :: rest => key.writable && value.writable && itemsWritable rest
  | .unpack value :: rest => value.writable && itemsWritable rest

/-- Whether comparisons can be written. -/
def comparisonsWritable : List Comparison → Bool
  | [] => true
  | .mk _ operand :: rest => operand.writable && comparisonsWritable rest

/-- Whether the clauses of a comprehension can be written. -/
def clausesWritable : List Clause → Bool
  | [] => true
  | .mk _ target iter conditions :: rest =>
    target.writable && iter.writable && allWritable conditions && clausesWritable rest

/-- Whether a parameter can be written. -/
def Param.writable : Param → Bool
  | .mk _ typeHint default => optionWritable typeHint && optionWritable default

/-- Whether parameters can be written. -/
def paramsWritable : List Param → Bool
  | [] => true
  | p :: rest => p.writable && paramsWritable rest

/-- Whether a parameter can be written, if it is there. -/
def paramWritable : Option Param → Bool
  | none => true
  | some p => p.writable

/-- Whether the parameters of a function can be written. -/
def Params.writable : Params → Bool
  | .mk positionalOnly regular others keywordOnly otherKeywords =>
    paramsWritable positionalOnly && paramsWritable regular && paramWritable others &&
      paramsWritable keywordOnly && paramWritable otherKeywords

/-- Whether the pieces of a formatted string can be written: no value needs a backslash. -/
def piecesWritable : List Piece → Bool
  | [] => true
  | .text _ :: rest => piecesWritable rest
  | .field value _ format :: rest =>
    value.writable && !(value.render true .or).toList.contains '\\' && formatWritable format &&
      piecesWritable rest

/-- Whether the format of a field can be written. -/
def formatWritable : Option (List Piece) → Bool
  | none => true
  | some pieces => piecesWritable pieces

end

/-! ### Statements -/

/-- The text of an expression on its own. -/
def Expr.text (e : Expr) : String := Text.firstLine (e.render false .test)

/-- The text of an imported name. -/
def Alias.render (a : Alias) : String :=
  match a.as? with
  | some n => a.name ++ " as " ++ n
  | none => a.name

/-- The whole text of a simple statement. -/
def Simple.render : Simple → String
  | .expression value => value.render false .yield
  | .assign targets value =>
    String.join ((renderAll false .tuple targets).map (· ++ " = ")) ++ value.render false .test
  | .augmented target op value =>
    target.render false .test ++ " " ++ op.text ++ "= " ++ value.render false .test
  | .annotated target typeHint value bare =>
    let isName := match target with | .name _ => true | _ => false
    parensIf (isName && !bare) (target.render false .test) ++ ": " ++
      typeHint.render false .test ++ renderAfter false " = " .test value
  | .delete targets => "del " ++ ", ".intercalate (renderAll false .test targets)
  | .assertion test message =>
    "assert " ++ test.render false .test ++ renderAfter false ", " .test message
  | .pass => "pass"
  | .importNames names => "import " ++ ", ".intercalate (names.map Alias.render)
  | .importFrom level module names =>
    "from " ++ "".pushn '.' level ++ module.getD "" ++ " import " ++
      ", ".intercalate (names.map Alias.render)
  | .global names => "global " ++ ", ".intercalate names
  | .nonlocal names => "nonlocal " ++ ", ".intercalate names

/-- The text of a simple statement. -/
def Simple.text (s : Simple) : String := Text.firstLine s.render

/-- The text of a return. -/
def returnText (value : Option Expr) : String :=
  Text.firstLine ("return" ++ renderAfter false " " .test value)

/-- The text of a raise. -/
def raiseText (exception cause : Option Expr) : String :=
  Text.firstLine ("raise" ++ renderAfter false " " .test exception ++
    renderAfter false " from " .test cause)

/-- The text of a context with its target. -/
def WithItem.text (item : WithItem) : String :=
  Text.firstLine (item.context.render false .test ++ renderAfter false " as " .test item.target)

/-- The text of a definition: its first decorator, or else its head. -/
def definitionText (decorators : List Expr) (head : String) : String :=
  Text.firstLine (match decorators with
    | d :: _ => "@" ++ d.render false .test
    | [] => head)

/-- The head of a function definition. -/
def functionHead (isAsync : Bool) (name : String) (params : Params) (returns : Option Expr) :
    String :=
  (if isAsync then "async def " else "def ") ++ name ++ "(" ++ params.render false ++ ")" ++
    renderAfter false " -> " .test returns ++ ":"

/-- The head of a class definition. -/
def classHead (name : String) (bases : List Expr) (keywords : List Keyword) : String :=
  let args := renderAll false .test bases ++ renderKeywords false keywords
  "class " ++ name ++ (if args.isEmpty then "" else "(" ++ ", ".intercalate args ++ ")") ++ ":"

/-- Whether a simple statement can be written. -/
def Simple.writable : Simple → Bool
  | .expression value => value.writable
  | .assign targets value => allWritable targets && value.writable
  | .augmented target _ value => target.writable && value.writable
  | .annotated target typeHint value _ =>
    target.writable && typeHint.writable && optionWritable value
  | .delete targets => allWritable targets
  | .assertion test message => test.writable && optionWritable message
  | _ => true

/-- Whether a context and its target can be written. -/
def WithItem.writable (item : WithItem) : Bool :=
  item.context.writable && optionWritable item.target

mutual

/-- Whether a statement can be written with all that is in it.  Only definitions are written as
wholes, although their first lines are all that is shown. -/
def Stmt.writable : Stmt → Bool
  | .simple _ s => s.writable
  | .ret _ value => optionWritable value
  | .raise _ exception cause => optionWritable exception && optionWritable cause
  | .exit _ => true
  | .again _ => true
  | .branch _ test body orelse => test.writable && bodyWritable body && bodyWritable orelse
  | .whileLoop _ test body orelse => test.writable && bodyWritable body && bodyWritable orelse
  | .forLoop _ target iter body orelse =>
    target.writable && iter.writable && bodyWritable body && bodyWritable orelse
  | .within _ items body => items.all WithItem.writable && bodyWritable body
  | .attempt _ body handlers orelse final =>
    bodyWritable body && handlersWritable handlers && bodyWritable orelse && bodyWritable final
  | .select _ subject cases => subject.writable && casesWritable cases
  | .functionDef _ _ decorators _ params returns body =>
    allWritable decorators && params.writable && optionWritable returns && bodyWritable body
  | .classDef _ decorators _ bases keywords body =>
    allWritable decorators && allWritable bases && keywordsWritable keywords && bodyWritable body

/-- Whether statements can be written. -/
def bodyWritable : List Stmt → Bool
  | [] => true
  | s :: rest => s.writable && bodyWritable rest

/-- Whether handlers can be written. -/
def handlersWritable : List Handler → Bool
  | [] => true
  | .mk _ exception body :: rest =>
    optionWritable exception && bodyWritable body && handlersWritable rest

/-- Whether cases can be written. -/
def casesWritable : List Case → Bool
  | [] => true
  | .mk pattern guard' body :: rest =>
    allWritable pattern.literals && optionWritable guard' && bodyWritable body &&
      casesWritable rest

end

end CallReach.Source
