import CallReach.Text.Blank
import CallReach.Text.Digit

/-!
# Integers in text

The decimal notation of integers: blanks around it other than the information separators, a sign,
decimal digits of any script, and single underscores between digits are allowed, and at most 4300
digits.
-/

namespace CallReach.Text

/-- The most digits an integer may be written with. -/
def maxDigits : Nat := 4300

/-- The digits of a number with single underscores between them.  `after` says whether the character
before was a digit, which an underscore and the end both need. -/
def digitsFrom (after : Bool) : List Char → Option (List Nat)
  | [] => if after then some [] else none
  | '_' :: rest => if after then digitsFrom false rest else none
  | c :: rest => (digit? c).bind fun d => (digitsFrom true rest).map (d :: ·)

/-- The number written by decimal digits, the first one the most significant. -/
def ofDigits (digits : List Nat) : Nat :=
  digits.foldl (fun n d => 10 * n + d) 0

/-- A natural number without sign or blanks. -/
def natural? (cs : List Char) : Option Nat :=
  (digitsFrom false cs).bind fun digits =>
    if digits.length ≤ maxDigits then some (ofDigits digits) else none

/-- The blanks that may stand around an integer. -/
def isEdgeBlank (c : Char) : Bool := isBlank c && !(0x1C ≤ c.toNat && c.toNat ≤ 0x1F)

/-- An integer in decimal notation. -/
def integer? (s : String) : Option Int :=
  match trimBy isEdgeBlank s.toList with
  | '-' :: rest => (natural? rest).map fun n => -(n : Int)
  | '+' :: rest => (natural? rest).map fun n => (n : Int)
  | cs => (natural? cs).map fun n => (n : Int)

end CallReach.Text
