import VarsAdvisor.Decimal.Shortest

/-!
# Layouts of numbers

A layout says where positional notation ends, whether a whole number keeps its point, and how
the special values are spelled. `exact` is the layout of numbers in answers and `brief` the one of
durations in messages.
-/

namespace VarsAdvisor.Decimal

/-- How digits are laid out. -/
structure Layout where
  /-- The first digit's position from which on scientific notation is used. -/
  positionalBelow : Int
  /-- The least position of the first digit in positional notation. -/
  positionalFrom : Int
  /-- Whole numbers end in `.0`. -/
  keepsPoint : Bool
  nan : String
  infinity : String

/-- `count` zeros. -/
def zeros (count : Int) : List Char :=
  List.replicate count.toNat '0'

/-- The exponent with a sign and at least two digits. -/
def exponentText (e : Int) : List Char :=
  let digits := Nat.toDigits 10 e.natAbs
  (if e < 0 then '-' else '+') :: (if digits.length < 2 then '0' :: digits else digits)

/-- The digits of a number laid out. -/
def Layout.digits (l : Layout) (s : Scientific) : List Char :=
  let ds := Nat.toDigits 10 s.significand
  let position : Int := if s.significand = 0 then 0 else ds.length + s.exponent - 1
  let whole := if l.keepsPoint then ['.', '0'] else []
  if l.positionalFrom ≤ position ∧ position < l.positionalBelow then
    if position < 0 then '0' :: '.' :: zeros (-position - 1) ++ ds
    else if s.exponent < 0 ∧ s.significand ≠ 0 then
      ds.take (position.toNat + 1) ++ '.' :: ds.drop (position.toNat + 1)
    else ds ++ zeros s.exponent ++ whole
  else
    ds.take 1 ++ (if ds.length = 1 then [] else '.' :: ds.drop 1) ++ 'e' :: exponentText position

/-- A number as text, its digits chosen by `choose`. -/
def Layout.render (l : Layout) (choose : Nat → Int → Scientific) : Binary64 → List Char
  | .nan => l.nan.toList
  | .infinite negative => (if negative then ['-'] else []) ++ l.infinity.toList
  | .finite negative m q => (if negative then ['-'] else []) ++ l.digits (choose m q)

/-- Positional from `1e-4` to below `1e16`, whole numbers with `.0`. -/
def exact : Layout := ⟨16, -4, true, "nan", "inf"⟩

/-- The same with the spellings that JSON readers take. -/
def exactJson : Layout := { exact with nan := "NaN", infinity := "Infinity" }

/-- Positional from `1e-4` to below `1e6`, without a point in whole numbers. -/
def brief : Layout := ⟨6, -4, false, "nan", "inf"⟩

/-- The shortest text that reads back. -/
def Binary64.text (x : Binary64) : String :=
  String.ofList (exact.render shortest x)

/-- The text with six significant digits. -/
def Binary64.briefText (x : Binary64) : String :=
  String.ofList (brief.render (rounded 6) x)

end VarsAdvisor.Decimal
