import CallReach.Decimal.Shortest
import CallReach.Text.Quoted

/-!
# Constants of source text

The values that literals stand for, and their text.  A string is a list of code points, because an
escape can name one that is no character.
-/

namespace CallReach.Source

open CallReach.Decimal (Double Layout)

/-- The value of a literal. -/
inductive Constant where
  | none
  | bool (b : Bool)
  | ellipsis
  | int (n : Nat)
  | float (x : Double)
  | imaginary (x : Double)
  /-- A string; `marked` says that it was written with the mark `u`. -/
  | text (marked : Bool) (codes : List Nat)
  | bytes (bytes : List UInt8)
  deriving DecidableEq, Inhabited

namespace Constant

/-- Floating-point literals are laid out as values are shown; one that is too large for a value is
written as a literal that is too large as well. -/
def numberLayout : Layout := { Decimal.plainLayout with infinity := "1e309" }

/-- Imaginary literals have no fraction when it is zero. -/
def imaginaryLayout : Layout := { numberLayout with pointZero := false }

/-- The text of a constant. -/
def render : Constant → String
  | .none => "None"
  | .bool b => if b then "True" else "False"
  | .ellipsis => "..."
  | .int n => toString n
  | .float x => numberLayout.write x
  | .imaginary x => imaginaryLayout.write x ++ "j"
  | .text marked codes => (if marked then "u" else "") ++ Text.quotedCodes codes
  | .bytes bs => Text.quotedBytes bs

/-- Whether a constant counts as true. -/
def truthy : Constant → Bool
  | .none => false
  | .bool b => b
  | .ellipsis => true
  | .int n => n != 0
  | .float x => !x.isZero
  | .imaginary x => !x.isZero
  | .text _ codes => !codes.isEmpty
  | .bytes bs => !bs.isEmpty

/-- Whether a constant is a whole number or a truth value. -/
def isWhole : Constant → Bool
  | .int _ => true
  | .bool _ => true
  | _ => false

end Constant

end CallReach.Source
