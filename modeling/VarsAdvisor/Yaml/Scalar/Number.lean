import VarsAdvisor.Yaml.Scalar.Atom
import VarsAdvisor.Yaml.Scalar.Resolution
import VarsAdvisor.Decimal.Reading
import VarsAdvisor.Text.Search

/-!
# Numbers and truth values

The values of scalars with the types of numbers and of truth values. A form that resolves to such a
type may still have no value: the digits of a number may all be underscores.
-/

namespace VarsAdvisor.Yaml

open VarsAdvisor.Text VarsAdvisor.Decimal

/-- Without underscores. -/
def dropGaps (cs : List Char) : List Char :=
  cs.filter (· != '_')

/-- The letter behind the zero in numbers to a base. -/
def baseLetter : Nat → Char
  | 2 => 'b'
  | 8 => 'o'
  | _ => 'x'

/-- The value of a hexadecimal letter. -/
def hexLetter (c : Char) : Nat :=
  if 97 ≤ c.toNat then c.toNat - 87 else c.toNat - 55

/-- The value of a digit to a base of at most sixteen. -/
def baseDigit? (c : Char) : Option Nat :=
  match digitValue? c with
  | some d => some d
  | none => if isHex c then some (hexLetter c) else none

/-- A number with a sign. -/
def withSign (negative : Bool) (n : Int) : Int :=
  if negative then -n else n

/-- A number to the base two, eight or sixteen; a sign and the base's own letter may precede its
digits. -/
def readBase (base : Nat) (cs : List Char) : Except Mishap Int :=
  let (negative, body) := splitSign (trimPadding cs)
  let digits := match body with
    | '0' :: c :: r => if lowerChar c = baseLetter base then r else body
    | _ => body
  if isAllOf (fun c => (baseDigit? c).any (· < base)) digits then
    .ok (withSign negative
      (digits.foldl (fun n c => n * base + (baseDigit? c).getD 0) 0 : Nat))
  else .error (.numeral (.malformed base (String.ofList cs)))

/-- A number to the base ten. -/
def readDecimal (cs : List Char) : Except Mishap Int :=
  match parseInt (String.ofList cs) with
  | .ok n => .ok n
  | .error e => .error (.numeral e)

/-- The digits of a number to the base sixty, the greatest first. -/
def sixtiesValue (digits : List Int) : Int :=
  digits.foldl (fun n d => n * 60 + d) 0

/-- A whole number. In the new version its digits must be there. -/
def readInt (oldVersion : Bool) (text : String) : Except Mishap Int := do
  let cs := dropGaps text.toList
  if cs.isEmpty then .error .noDigits
  else
    let (negative, body) := splitSign cs
    let inBase (base : Nat) (r : List Char) : Except Mishap Int :=
      if !oldVersion && r.isEmpty then .error .noDigits else readBase base r
    let n ← match body with
      | ['0'] => .ok 0
      | '0' :: 'b' :: r => inBase 2 r
      | '0' :: 'x' :: r => inBase 16 r
      | '0' :: 'o' :: r => inBase 8 r
      | [] => if oldVersion then readDecimal [] else .error .noDigits
      | _ =>
        if oldVersion && body.head? == some '0' then readBase 8 body
        else if oldVersion && body.contains ':' then do
          pure (sixtiesValue (← (splitOn ':' body).mapM readDecimal))
        else readDecimal body
    pure (withSign negative n)

/-- A number as `Decimal.readText?` reads it. -/
def readNumber (cs : List Char) : Except Mishap Binary64 :=
  match Decimal.readText? cs with
  | some x => .ok x
  | none => .error (.number (String.ofList cs))

/-- The sum of numbers, each sixty times the weight of the one before it. -/
def sumOfSixties (digits : List Binary64) : Binary64 :=
  (digits.foldl (fun (sum, weight) d => (sum.add (d.scale weight), weight * 60))
    (Binary64.zero false, 1)).1

/-- The text behind a mark, if there is exactly one such mark. -/
def behindOnly (mark : Char) (cs : List Char) : Option (List Char) :=
  if cs.count mark = 1 then some ((cs.dropWhile (· != mark)).drop 1) else none

/-- A number with an exponent; its mark stands exactly once in the text as it is written. -/
def readWithExponent (raw body : List Char) : Except Mishap Binary64 :=
  match (behindOnly 'e' raw).or (behindOnly 'E' raw) with
  | some [] => .error .noDigits
  | some _ => readNumber body
  | none => .error (.exponents (1 < raw.count 'E'))

/-- A number with a fraction or an exponent, from the node `own`. -/
def readFloat (oldVersion : Bool) (own : Nat) (text : String) : Except Mishap Atom := do
  let raw := text.toList
  let cs := lower (dropGaps raw)
  if cs.isEmpty then .error .noDigits
  else
    let (negative, body) := splitSign cs
    if body == ".nan".toList then pure .notANumber
    else
      let x ←
        if body == ".inf".toList then .ok (.infinite false)
        else if oldVersion && body.contains ':' then do
          pure (sumOfSixties (← (splitOn ':' body).mapM readNumber).reverse)
        else if body.contains 'e' then readWithExponent raw body
        else readNumber body
      pure (.ofBinary64 own (if negative then x.negate else x))

/-- A truth value, from its word in any case. -/
def readTruth (text : String) : Except Mishap Atom :=
  let word := lowered text
  if ["yes", "y", "true", "on"].contains word then .ok (.whole 1)
  else if ["no", "n", "false", "off"].contains word then .ok (.whole 0)
  else .error (.truth word)

end VarsAdvisor.Yaml
