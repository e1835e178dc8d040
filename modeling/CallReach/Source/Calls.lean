import CallReach.Source.Tree

/-!
# Calls in expressions

The calls of an expression in the order in which they are made: a call comes after the calls in its
callee and its arguments.  The fields of a formatted string and those of their formats are evaluated
with it, one after the other.  The body of a function without a name is not run where it stands, so
its calls do not count.
-/

namespace CallReach.Source

/-- A call: the line its callee starts on, and the callee. -/
structure CallSite where
  line : Nat
  callee : Expr

mutual

/-- The calls of an expression. -/
def Expr.calls : Expr → List CallSite
  | .name _ => []
  | .constant _ => []
  | .attribute value _ => value.calls
  | .subscript value index => value.calls ++ index.calls
  | .call line callee args keywords =>
    callee.calls ++ callsOfAll args ++ callsOfKeywords keywords ++ [⟨line, callee⟩]
  | .starred value => value.calls
  | .tuple items => callsOfAll items
  | .list items => callsOfAll items
  | .set items => callsOfAll items
  | .dict items => callsOfKeys items ++ callsOfValues items
  | .unary _ operand => operand.calls
  | .binary _ left right => left.calls ++ right.calls
  | .boolean _ operands => callsOfAll operands
  | .compare first rest => first.calls ++ callsOfComparisons rest
  | .conditional test body orelse => test.calls ++ body.calls ++ orelse.calls
  | .lambda _ _ => []
  | .named target value => target.calls ++ value.calls
  | .yield value => callsOfOption value
  | .yieldFrom value => value.calls
  | .await value => value.calls
  | .slice lower upper step => callsOfOption lower ++ callsOfOption upper ++ callsOfOption step
  | .comprehension _ element clauses => element.calls ++ callsOfClauses clauses
  | .dictComprehension key value clauses => key.calls ++ value.calls ++ callsOfClauses clauses
  | .joined pieces => callsOfPieces pieces

/-- The calls of expressions in order. -/
def callsOfAll : List Expr → List CallSite
  | [] => []
  | e :: rest => e.calls ++ callsOfAll rest

/-- The calls of an expression that may be absent. -/
def callsOfOption : Option Expr → List CallSite
  | none => []
  | some e => e.calls

/-- The calls of keyword arguments. -/
def callsOfKeywords : List Keyword → List CallSite
  | [] => []
  | .mk _ value :: rest => value.calls ++ callsOfKeywords rest

/-- The calls of the keys of a dictionary. -/
def callsOfKeys : List DictItem → List CallSite
  | [] => []
  | .pair key _ :: rest => key.calls ++ callsOfKeys rest
  | .unpack _ :: rest => callsOfKeys rest

/-- The calls of the values of a dictionary. -/
def callsOfValues : List DictItem → List CallSite
  | [] => []
  | .pair _ value :: rest => value.calls ++ callsOfValues rest
  | .unpack value :: rest => value.calls ++ callsOfValues rest

/-- The calls of compared operands. -/
def callsOfComparisons : List Comparison → List CallSite
  | [] => []
  | .mk _ operand :: rest => operand.calls ++ callsOfComparisons rest

/-- The calls in the fields of a formatted string. -/
def callsOfPieces : List Piece → List CallSite
  | [] => []
  | .text _ :: rest => callsOfPieces rest
  | .field value _ format :: rest => value.calls ++ callsOfFormat format ++ callsOfPieces rest

/-- The calls in the format of a field. -/
def callsOfFormat : Option (List Piece) → List CallSite
  | none => []
  | some pieces => callsOfPieces pieces

/-- The calls of the clauses of a comprehension. -/
def callsOfClauses : List Clause → List CallSite
  | [] => []
  | .mk _ target iter conditions :: rest =>
    target.calls ++ iter.calls ++ callsOfAll conditions ++ callsOfClauses rest

end

/-- The calls of a simple statement. -/
def Simple.calls : Simple → List CallSite
  | .expression value => value.calls
  | .assign targets value => callsOfAll targets ++ value.calls
  | .augmented target _ value => target.calls ++ value.calls
  | .annotated target typeHint value _ =>
    target.calls ++ typeHint.calls ++ callsOfOption value
  | .delete targets => callsOfAll targets
  | .assertion test message => test.calls ++ callsOfOption message
  | _ => []

end CallReach.Source
