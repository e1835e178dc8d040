/-!
# Binary floating point with 53 bits

A `Double` is a number `± m · 2 ^ e` with `m < 2 ^ 53` and `-1074 ≤ e ≤ 971`, an infinity, or not a
number.  Rounding of a quotient to the nearest such number, a tie going to the even mantissa, is
exact arithmetic on naturals.
-/

namespace CallReach.Decimal

/-- A floating-point number. -/
inductive Double where
  /-- Not a number. -/
  | nan
  /-- An infinity. -/
  | infinite (negative : Bool)
  /-- The number `± mantissa · 2 ^ exponent`. -/
  | finite (negative : Bool) (mantissa : Nat) (exponent : Int)
  deriving DecidableEq, Repr, Inhabited

namespace Double

/-- The least exponent. -/
def minExponent : Int := -1074

/-- The greatest exponent. -/
def maxExponent : Int := 971

/-- `2 ^ 53`, which no mantissa reaches. -/
def mantissaBound : Nat := Nat.pow 2 53

/-- The natural number nearest to `num / den`, a tie going to the even one. -/
def roundDiv (num den : Nat) : Nat :=
  let q := num / den
  let twice := 2 * (num % den)
  if twice < den then q
  else if den < twice then q + 1
  else if q % 2 == 0 then q else q + 1

/-- `num / den` in units of `2 ^ e`, rounded. -/
def scaled (num den : Nat) (e : Int) : Nat :=
  if 0 ≤ e then roundDiv num (den * Nat.pow 2 e.toNat)
  else roundDiv (num * Nat.pow 2 (-e).toNat) den

/-- A mantissa that rounding took to the bound is halved; past the greatest exponent the number is
infinite. -/
def pack (negative : Bool) (m : Nat) (e : Int) : Double :=
  let (m, e) := if m ≥ mantissaBound then (m / 2, e + 1) else (m, e)
  if e > maxExponent then .infinite negative else .finite negative m e

/-- The exponent at which `num / den` has 53 binary digits, or one less than that. -/
def exponentFor (num den : Nat) : Int :=
  let guess : Int := (num.log2 : Int) - den.log2 - 53
  let fits (e : Int) : Bool :=
    if 0 ≤ e then num < den * mantissaBound * Nat.pow 2 e.toNat
    else num * Nat.pow 2 (-e).toNat < den * mantissaBound
  let e := if fits guess then guess else if fits (guess + 1) then guess + 1 else guess + 2
  max e minExponent

/-- The double nearest to `± num / den`, for `den` not zero. -/
def ofRatio (negative : Bool) (num den : Nat) : Double :=
  if num == 0 then .finite negative 0 minExponent
  else
    let e := exponentFor num den
    pack negative (scaled num den e) e

/-- The double nearest to `± digits · 10 ^ exponent`.  Exponents beyond every double are cut off
before the power of ten is computed. -/
def ofDecimal (negative : Bool) (digits : Nat) (exponent : Int) : Double :=
  if digits == 0 then .finite negative 0 minExponent
  else
    let size : Int := (digits.log2 : Int)
    if exponent > 400 then .infinite negative
    else if exponent + size < -1500 - 3 * size then .finite negative 0 minExponent
    else if 0 ≤ exponent then ofRatio negative (digits * Nat.pow 10 exponent.toNat) 1
    else ofRatio negative digits (Nat.pow 10 (-exponent).toNat)

/-- The double nearest to an integer. -/
def ofInt (n : Int) : Double :=
  ofRatio (n < 0) n.natAbs 1

/-- Whether the number is zero, of either sign. -/
def isZero : Double → Bool
  | .finite _ m _ => m == 0
  | _ => false

/-- The integer equal to the number, if there is one. -/
def toInt? : Double → Option Int
  | .finite negative m e =>
    let signed (n : Nat) : Int := if negative then -(n : Int) else n
    if 0 ≤ e then some (signed (m * Nat.pow 2 e.toNat))
    else
      let unit := Nat.pow 2 (-e).toNat
      if m % unit == 0 then some (signed (m / unit)) else none
  | _ => none

/-- The number with the opposite sign. -/
def neg : Double → Double
  | .nan => .nan
  | .infinite negative => .infinite !negative
  | .finite negative m e => .finite (!negative) m e

/-- A finite number as an integer multiple of `2 ^ e`, for an exponent `e` not above its own. -/
def inUnits (negative : Bool) (m : Nat) (exponent e : Int) : Int :=
  let n : Int := (m * Nat.pow 2 (exponent - e).toNat : Nat)
  if negative then -n else n

/-- The double nearest to `n · 2 ^ e`. -/
def ofUnits (n e : Int) : Double :=
  if 0 ≤ e then ofRatio (n < 0) (n.natAbs * Nat.pow 2 e.toNat) 1
  else ofRatio (n < 0) n.natAbs (Nat.pow 2 (-e).toNat)

/-- The rounded sum. -/
def add : Double → Double → Double
  | .finite s m e, .finite s' m' e' =>
    let low := min e e'
    let sum := inUnits s m e low + inUnits s' m' e' low
    if sum == 0 then .finite (s && s') 0 minExponent else ofUnits sum low
  | .infinite s, .infinite s' => if s == s' then .infinite s else .nan
  | .infinite s, .finite .. => .infinite s
  | .finite .., .infinite s => .infinite s
  | _, _ => .nan

/-- Whether the first number is less than the second. -/
def lt : Double → Double → Bool
  | .finite s m e, .finite s' m' e' =>
    let low := min e e'
    inUnits s m e low < inUnits s' m' e' low
  | .infinite s, .infinite s' => s && !s'
  | .infinite s, .finite .. => s
  | .finite .., .infinite s => !s
  | _, _ => false

end Double

end CallReach.Decimal
