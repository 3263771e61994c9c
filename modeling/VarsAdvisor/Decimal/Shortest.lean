import VarsAdvisor.Decimal.Binary

/-!
# Decimal digits of a number

`shortest` gives the fewest decimal digits that read back as the number, and of those the nearest.
`rounded` gives a fixed number of digits. Both work in exact arithmetic on the decimal grids.
-/

namespace VarsAdvisor.Decimal

/-- The number `significand * 10 ^ exponent`. -/
structure Scientific where
  significand : Nat
  exponent : Int
  deriving DecidableEq, Repr

/-- Zeros at the end of the digits moved into the exponent, at most `fuel` of them. -/
def Scientific.stripZeros : Nat → Scientific → Scientific
  | 0, s => s
  | fuel + 1, s =>
    if s.significand ≠ 0 ∧ s.significand % 10 = 0 then
      stripZeros fuel ⟨s.significand / 10, s.exponent + 1⟩
    else s

/-- The value `num / den` in units of `10 ^ exponent`, as a ratio. -/
def inUnits (num den : Nat) (exponent : Int) : Nat × Nat :=
  if 0 ≤ exponent then (num, den * Nat.pow 10 exponent.toNat)
  else (num * Nat.pow 10 (-exponent).toNat, den)

/-- The position of the first decimal digit of `num / den`: the greatest `p` with
`10 ^ p ≤ num / den`, searched upward from an estimate below it. -/
def leadingPosition (num den : Nat) : Int :=
  let lengthDifference : Int :=
    (Nat.toDigits 10 num).length - (Nat.toDigits 10 den).length
  let (n, d) := inUnits num den lengthDifference
  if d ≤ n then lengthDifference else lengthDifference - 1

/-- The reals that are nearest to a number: from `low` to `high`, in units of `1 / den`, with the
ends or without. -/
structure Neighbourhood where
  value : Nat
  low : Nat
  high : Nat
  den : Nat
  closed : Bool

/-- The reals that round to `m * 2 ^ q`. Below a power of two the next number is half as far. -/
def Neighbourhood.of (m : Nat) (q : Int) : Neighbourhood :=
  let up := Nat.pow 2 q.toNat
  let lowGap := if m = Nat.pow 2 52 ∧ Binary64.minExponent < q then 1 else 2
  ⟨4 * m * up, (4 * m - lowGap) * up, (4 * m + 2) * up, 4 * Nat.pow 2 (-q).toNat, m % 2 = 0⟩

/-- `k * 10 ^ exponent` lies in the neighbourhood. -/
def Neighbourhood.holds (b : Neighbourhood) (k : Nat) (exponent : Int) : Bool :=
  let (lowN, lowD) := inUnits b.low b.den exponent
  let (highN, highD) := inUnits b.high b.den exponent
  if b.closed then lowN ≤ k * lowD && k * highD ≤ highN
  else lowN < k * lowD && k * highD < highN

/-- The neighbourhood's value on the grid of `10 ^ exponent`, if one of the value's two neighbours
there reads back: the nearer of them, a tie to the even one. -/
def Neighbourhood.onGrid? (b : Neighbourhood) (exponent : Int) : Option Nat :=
  let (n, d) := inUnits b.value b.den exponent
  let below := n / d
  match b.holds below exponent, b.holds (below + 1) exponent with
  | true, true => some (Binary64.roundQuotient n d)
  | true, false => some below
  | false, true => some (below + 1)
  | false, false => none

/-- The first grid, from `digits` digits on, that has a number which reads back. -/
def Neighbourhood.search (b : Neighbourhood) (position : Int) : Nat → Nat → Scientific
  | 0, _ => ⟨b.value / b.den, 0⟩
  | fuel + 1, digits =>
    let exponent := position - digits + 1
    match b.onGrid? exponent with
    | some k => ⟨k, exponent⟩
    | none => b.search position fuel (digits + 1)

/-- The fewest digits that read back as `m * 2 ^ q`, the nearest of those. -/
def shortest (m : Nat) (q : Int) : Scientific :=
  if m = 0 then ⟨0, 0⟩
  else
    let b := Neighbourhood.of m q
    (b.search (leadingPosition b.value b.den) 17 1).stripZeros 400

/-- `m * 2 ^ q` rounded to `digits` significant digits. -/
def rounded (digits m : Nat) (q : Int) : Scientific :=
  if m = 0 then ⟨0, 0⟩
  else
    let b := Neighbourhood.of m q
    let exponent := leadingPosition b.value b.den - digits + 1
    let (n, d) := inUnits b.value b.den exponent
    Scientific.stripZeros 400 ⟨Binary64.roundQuotient n d, exponent⟩

end VarsAdvisor.Decimal
