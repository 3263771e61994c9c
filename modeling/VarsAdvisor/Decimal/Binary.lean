/-!
# Numbers of double precision

`Binary64` is a number with a 53-bit significand, kept as a whole number times a power of two, so
that it can be compared and printed in exact arithmetic. `ofRatio` rounds a ratio to the nearest
such number, a tie to the even significand.
-/

namespace VarsAdvisor.Decimal

/-- A number of double precision: `significand * 2 ^ exponent`, an infinity, or not a number. The
significand is below `2 ^ 53`, and at least `2 ^ 52` unless the exponent is the least one. -/
inductive Binary64 where
  | nan
  | infinite (negative : Bool)
  | finite (negative : Bool) (significand : Nat) (exponent : Int)
  deriving DecidableEq, Repr, Inhabited

namespace Binary64

/-- The least exponent. -/
def minExponent : Int := -1074

/-- The greatest exponent. -/
def maxExponent : Int := 971

/-- Zero with a sign. -/
def zero (negative : Bool) : Binary64 :=
  .finite negative 0 minExponent

/-- A quotient rounded to the nearest whole number, a tie to the even one. -/
def roundQuotient (num den : Nat) : Nat :=
  let q := num / den
  let twice := 2 * (num % den)
  if twice < den then q else if den < twice then q + 1 else q + q % 2

/-- Numerator and denominator of `num / den * 2 ^ (-exponent)`. -/
def scaled (num den : Nat) (exponent : Int) : Nat × Nat :=
  if 0 ≤ exponent then (num, den * Nat.pow 2 exponent.toNat)
  else (num * Nat.pow 2 (-exponent).toNat, den)

/-- The exponent at which the quotient has 53 bits, or the least one. -/
def fittingExponent (num den : Nat) : Int :=
  let q : Int := (num.log2 : Int) - den.log2 - 53
  let (n, d) := scaled num den q
  max minExponent (if n / d < Nat.pow 2 53 then q else q + 1)

/-- The number nearest to `num / den`. -/
def ofRatio (negative : Bool) (num den : Nat) : Binary64 :=
  if num = 0 then zero negative
  else
    let q := fittingExponent num den
    let (n, d) := scaled num den q
    let m := roundQuotient n d
    let (m, q) := if m = Nat.pow 2 53 then (Nat.pow 2 52, q + 1) else (m, q)
    if maxExponent < q then .infinite negative else .finite negative m q

/-- The number nearest to `significand * 10 ^ exponent`. Values far outside the range are
recognised by their number of digits. -/
def ofDecimal (negative : Bool) (significand : Nat) (exponent : Int) : Binary64 :=
  if significand = 0 then zero negative
  else
    let magnitude : Int := (Nat.toDigits 10 significand).length + exponent
    if 310 < magnitude then .infinite negative
    else if magnitude < -330 then zero negative
    else if 0 ≤ exponent then ofRatio negative (significand * Nat.pow 10 exponent.toNat) 1
    else ofRatio negative significand (Nat.pow 10 (-exponent).toNat)

/-- The number nearest to a whole number. -/
def ofInt (n : Int) : Binary64 :=
  ofRatio (n < 0) n.natAbs 1

/-- The whole number that this one is, if it is one. -/
def toInt? : Binary64 → Option Int
  | .finite negative m q =>
    let (n, d) := scaled m 1 (-q)
    if n % d = 0 then some (if negative then -(Int.ofNat (n / d)) else Int.ofNat (n / d)) else none
  | _ => none

/-- The first number is less than the second one. Nothing is less than what is not a number. -/
def isBelow : Binary64 → Binary64 → Bool
  | .nan, _ => false
  | _, .nan => false
  | .infinite negative, .infinite other => negative && !other
  | .infinite negative, .finite .. => negative
  | .finite .., .infinite negative => !negative
  | .finite s m q, .finite s' m' q' =>
    let least := min q q'
    let value (negative : Bool) (m : Nat) (q : Int) : Int :=
      let n := m * Nat.pow 2 (q - least).toNat
      if negative then -(Int.ofNat n) else Int.ofNat n
    decide (value s m q < value s' m' q')

/-- Neither infinite nor not a number. -/
def isFinite : Binary64 → Bool
  | .finite .. => true
  | _ => false

/-- A finite number as a ratio. -/
def toRatio (negative : Bool) (significand : Nat) (exponent : Int) : Int × Nat :=
  let (n, d) := scaled significand 1 (-exponent)
  (if negative then -(Int.ofNat n) else Int.ofNat n, d)

/-- The number with the other sign. -/
def negate : Binary64 → Binary64
  | .nan => .nan
  | .infinite negative => .infinite !negative
  | .finite negative m q => .finite (!negative) m q

/-- The number nearest to the sum. -/
def add : Binary64 → Binary64 → Binary64
  | .nan, _ => .nan
  | _, .nan => .nan
  | .infinite negative, .infinite other => if negative = other then .infinite negative else .nan
  | .infinite negative, .finite .. => .infinite negative
  | .finite .., .infinite negative => .infinite negative
  | .finite s m q, .finite s' m' q' =>
    let (n, d) := toRatio s m q
    let (n', d') := toRatio s' m' q'
    let sum := n * d' + n' * d
    ofRatio (sum < 0) sum.natAbs (d * d')

/-- The number nearest to the product with a whole number above zero, itself rounded first. -/
def scale (factor : Nat) : Binary64 → Binary64
  | .nan => .nan
  | .infinite negative => .infinite negative
  | .finite s m q => match ofInt factor with
    | .finite _ m' q' =>
      let (n, d) := toRatio s (m * m') (q + q')
      ofRatio s n.natAbs d
    | _ => .infinite s

/-- Zero of either sign. -/
def isZero : Binary64 → Bool
  | .finite _ m _ => m == 0
  | _ => false

end Binary64

end VarsAdvisor.Decimal
