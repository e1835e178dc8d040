/-!
# Sets of characters as tables of ranges

A property of characters is stored as an array of inclusive ranges of code points, in increasing
order.  Membership is found by halving, so a table of `n` ranges takes about `log₂ n` steps.
-/

namespace CallReach.Text

/-- Inclusive ranges of code points, in increasing order and disjoint. -/
abbrev Ranges := Array (Nat × Nat)

namespace Ranges

/-- Whether `n` lies in one of the ranges numbered `lo` to `lo + width - 1`, looking at most
`fuel` times. -/
def containsFrom (table : Ranges) (n : Nat) : (fuel lo width : Nat) → Bool
  | 0, _, _ => false
  | _, _, 0 => false
  | fuel + 1, lo, width + 1 =>
    let half := (width + 1) / 2
    match table[lo + half]? with
    | none => false
    | some (first, last) =>
      if n < first then containsFrom table n fuel lo half
      else if n ≤ last then true
      else containsFrom table n fuel (lo + half + 1) (width - half)

/-- Whether the code point `n` lies in one of the ranges. -/
def contains (table : Ranges) (n : Nat) : Bool :=
  containsFrom table n (table.size + 1) 0 table.size

end Ranges

end CallReach.Text
