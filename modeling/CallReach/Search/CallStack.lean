import CallReach.Graph.Basic
import CallReach.Text.Quoted

/-!
# Call stacks

The calls that have been entered and not returned from.  A stack is a value: pushing and popping
give new stacks.  It is stored with the innermost call first; `calls` lists the outermost first.
-/

namespace CallReach

/-- Pending calls, the innermost first. -/
structure CallStack (P : Type) where
  innermostFirst : List P := []
  deriving DecidableEq, Repr, Inhabited

namespace CallStack

variable {P B F : Type}

/-- The stack without calls. -/
def empty : CallStack P := {}

/-- A stack from its calls, the outermost first. -/
def ofCalls (calls : List P) : CallStack P := ⟨calls.reverse⟩

/-- The calls, the outermost first. -/
def calls (s : CallStack P) : List P := s.innermostFirst.reverse

/-- The number of calls. -/
def size (s : CallStack P) : Nat := s.innermostFirst.length

/-- Whether there is no call. -/
def isEmpty (s : CallStack P) : Bool := s.innermostFirst.isEmpty

/-- The innermost call. -/
def top? (s : CallStack P) : Option P := s.innermostFirst.head?

/-- The stack with one more call inside. -/
def push (s : CallStack P) (call : P) : CallStack P := ⟨call :: s.innermostFirst⟩

/-- The innermost call and the stack without it. -/
def pop (s : CallStack P) : Except Fault (P × CallStack P) :=
  match s.innermostFirst with
  | [] => .error .emptyStack
  | call :: rest => .ok (call, ⟨rest⟩)

/-- The text of a stack in messages. -/
def describe (G : Graph P B F) (s : CallStack P) : String :=
  "CallStack(" ++ Text.bracketed (s.calls.map G.describe) ++ ")"

/-- Where the calls return to, the outermost first; the first one without an answer is the fault. -/
def returns (G : Graph P B F) (s : CallStack P) : Except Fault (List (Option P)) :=
  s.calls.mapM G.nextOf

/-- Whether some call on the stack calls the function that `call` calls. -/
def isRecursive [DecidableEq F] (G : Graph P B F) (s : CallStack P) (call : P) : Bool :=
  s.innermostFirst.any fun c => (G.calleeOf c).function = (G.calleeOf call).function

end CallStack

end CallReach
