import CallReach.Decimal.Double

/-!
# The shortest decimal that reads back

A double stands for all reals that round to it.  `shortest` finds the decimal with the fewest digits
among those reals and, of those, the one nearest to the double itself: for one digit, then two, and
so on up to seventeen it looks at the two neighbours of the double on that decimal grid.
-/

namespace CallReach.Decimal

/-- A positive decimal `digits · 10 ^ exponent`. -/
structure Scientific where
  digits : Nat
  exponent : Int
  deriving DecidableEq, Repr

/-- A non-negative rational as numerator and denominator. -/
structure Ratio where
  num : Nat
  den : Nat
  deriving DecidableEq, Repr

namespace Ratio

/-- `n · b ^ e`. -/
def ofPower (n b : Nat) (e : Int) : Ratio :=
  if 0 ≤ e then ⟨n * Nat.pow b e.toNat, 1⟩ else ⟨n, Nat.pow b (-e).toNat⟩

/-- Whether the first number is at most the second. -/
def le (a b : Ratio) : Bool := a.num * b.den ≤ b.num * a.den

/-- Whether the first number is less than the second. -/
def lt (a b : Ratio) : Bool := a.num * b.den < b.num * a.den

/-- The distance between two numbers. -/
def dist (a b : Ratio) : Ratio :=
  let x := a.num * b.den
  let y := b.num * a.den
  ⟨if x ≤ y then y - x else x - y, a.den * b.den⟩

end Ratio

/-- The number of zeros right after the point of a number below one. -/
def leadingZeros (x : Ratio) : Nat → Nat
  | 0 => 0
  | fuel + 1 => if x.num * 10 < x.den then leadingZeros ⟨x.num * 10, x.den⟩ fuel + 1 else 0

/-- The `k` with `10 ^ (k - 1) ≤ x < 10 ^ k`, for a positive `x`. -/
def magnitude (x : Ratio) : Int :=
  if x.den ≤ x.num then (Nat.toDigits 10 (x.num / x.den)).length
  else -(leadingZeros x 400 : Int)

/-- The reals that round to `m · 2 ^ e`, ends included when the mantissa is even. -/
structure Basin where
  low : Ratio
  high : Ratio
  closed : Bool

namespace Basin

/-- Below a power of two the neighbour is only half as far away. -/
def ofDouble (m : Nat) (e : Int) : Basin where
  low :=
    if m == Nat.pow 2 52 && e > Double.minExponent then Ratio.ofPower (4 * m - 1) 2 (e - 2)
    else Ratio.ofPower (2 * m - 1) 2 (e - 1)
  high := Ratio.ofPower (2 * m + 1) 2 (e - 1)
  closed := m % 2 == 0

/-- Whether a real rounds to the double. -/
def contains (b : Basin) (x : Ratio) : Bool :=
  if b.closed then b.low.le x && x.le b.high else b.low.lt x && x.lt b.high

end Basin

/-- The point of the grid with step `10 ^ exponent` next to `x` that lies in the basin, the nearer
of two. -/
def nearestOnGrid (b : Basin) (x : Ratio) (exponent : Int) : Option Nat :=
  let below :=
    if 0 ≤ exponent then x.num / (x.den * Nat.pow 10 exponent.toNat)
    else x.num * Nat.pow 10 (-exponent).toNat / x.den
  let value (n : Nat) := Ratio.ofPower n 10 exponent
  let hit (n : Nat) := 0 < n && b.contains (value n)
  match hit below, hit (below + 1) with
  | true, true =>
    let d := (value below).dist x
    let d' := (value (below + 1)).dist x
    some (if d.lt d' then below
      else if d'.lt d then below + 1
      else if below % 2 == 0 then below else below + 1)
  | true, false => some below
  | false, true => some (below + 1)
  | false, false => none

/-- Tries grids of `18 - fuel` and more digits. -/
def shortestFrom (b : Basin) (x : Ratio) (size : Int) : Nat → Scientific
  | 0 => ⟨0, 0⟩
  | fuel + 1 =>
    let exponent := size - (17 - fuel : Nat)
    match nearestOnGrid b x exponent with
    | some n => ⟨n, exponent⟩
    | none => shortestFrom b x size fuel

/-- The decimal with the fewest digits that rounds to `m · 2 ^ e`, for a positive `m`. -/
def shortest (m : Nat) (e : Int) : Scientific :=
  let x := Ratio.ofPower m 2 e
  shortestFrom (Basin.ofDouble m e) x (magnitude x) 17

/-- How a decimal is written. -/
structure Layout where
  /-- Numbers from `10 ^ (positionalFrom - 1)` on are written without an exponent. -/
  positionalFrom : Int
  /-- Numbers from `10 ^ positionalTo` on are written with an exponent. -/
  positionalTo : Int
  /-- Whether a whole number written without exponent ends in `.0`. -/
  pointZero : Bool
  /-- The text of an infinity. -/
  infinity : String
  /-- The text of what is not a number. -/
  notANumber : String

/-- At least two digits of an exponent, with its sign. -/
def exponentText (e : Int) : String :=
  let digits := toString e.natAbs
  (if e < 0 then "-" else "+") ++ (if digits.length < 2 then "0" ++ digits else digits)

/-- Digits without the zeros at their end. -/
def dropZeros (digits : List Char) : List Char :=
  (digits.reverse.dropWhile (· == '0')).reverse

/-- A positive decimal written by a layout. -/
def Layout.writePositive (layout : Layout) (x : Scientific) : String :=
  let all := Nat.toDigits 10 x.digits
  let digits := dropZeros all
  let point : Int := all.length + x.exponent
  if layout.positionalFrom ≤ point && point ≤ layout.positionalTo then
    if point ≤ 0 then
      "0." ++ String.ofList (List.replicate (-point).toNat '0' ++ digits)
    else
      let whole := digits.take point.toNat
      let whole := whole ++ List.replicate (point.toNat - whole.length) '0'
      let fraction := digits.drop point.toNat
      String.ofList whole ++
        (if fraction.isEmpty then if layout.pointZero then ".0" else ""
          else "." ++ String.ofList fraction)
  else
    let head := String.ofList (digits.take 1)
    let rest := digits.drop 1
    head ++ (if rest.isEmpty then "" else "." ++ String.ofList rest) ++ "e" ++
      exponentText (point - 1)

/-- A double written by a layout. -/
def Layout.write (layout : Layout) : Double → String
  | .nan => layout.notANumber
  | .infinite negative => (if negative then "-" else "") ++ layout.infinity
  | .finite negative m e =>
    (if negative then "-" else "") ++
      (if m == 0 then if layout.pointZero then "0.0" else "0"
        else layout.writePositive (shortest m e))

/-- Numbers as values are shown: without exponent from `0.0001` up to sixteen digits, whole numbers
with `.0`. -/
def plainLayout : Layout where
  positionalFrom := -3
  positionalTo := 16
  pointZero := true
  infinity := "inf"
  notANumber := "nan"

/-- A double as a value is shown. -/
def Double.text (x : Double) : String := plainLayout.write x

end CallReach.Decimal
