import VarsAdvisor.Text.Blank
import VarsAdvisor.Text.Digit
import VarsAdvisor.Text.Lower
import VarsAdvisor.Decimal.Binary

/-!
# Reading decimal numbers

A decimal literal has digits with an optional point among them and an optional exponent. `readText?`
reads what a person writes into a form or a document: padding around it, a sign, the digits of any
script with single underscores between them, and the names of the special values.
-/

namespace VarsAdvisor.Decimal

open VarsAdvisor.Text

/-- The digits of a literal before and after the point, and the exponent. -/
structure Literal where
  whole : List Nat
  fraction : List Nat
  exponent : Int
  deriving DecidableEq, Repr

/-- The number nearest to the literal. -/
def Literal.toBinary64 (negative : Bool) (l : Literal) : Binary64 :=
  .ofDecimal negative ((l.whole ++ l.fraction).foldl (fun n d => n * 10 + d) 0)
    (l.exponent - l.fraction.length)

/-- The ASCII digits at the start of a text, and the rest. -/
def spanAscii (cs : List Char) : List Nat × List Char :=
  ((cs.takeWhile isAsciiDigit).map fun c => c.toNat - 48, cs.dropWhile isAsciiDigit)

/-- A sign and what follows it. -/
def signed : List Char → Bool × List Char
  | '-' :: r => (true, r)
  | '+' :: r => (false, r)
  | cs => (false, cs)

/-- An exponent, with its mark, at the start of a text; without one the text is left as it is. -/
def spanExponent : List Char → Int × List Char
  | [] => (0, [])
  | c :: r =>
    if c = 'e' ∨ c = 'E' then
      let (negative, body) := signed r
      let (ds, rest) := spanAscii body
      let n : Int := (ds.foldl (fun n d => n * 10 + d) 0 : Nat)
      if ds.isEmpty then (0, c :: r) else (if negative then -n else n, rest)
    else (0, c :: r)

/-- A whole text that is a literal: digits on at least one side of the point. -/
def readLiteral? (cs : List Char) : Option Literal :=
  let (whole, afterWhole) := spanAscii cs
  let (fraction, afterFraction) := match afterWhole with
    | '.' :: r => spanAscii r
    | r => ([], r)
  let (exponent, rest) := spanExponent afterFraction
  if rest.isEmpty && !(whole.isEmpty && fraction.isEmpty) then some ⟨whole, fraction, exponent⟩
  else none

/-- The special value of that name. -/
def special? (negative : Bool) (cs : List Char) : Option Binary64 :=
  let name := String.ofList (lower cs)
  if name = "inf" ∨ name = "infinity" then some (.infinite negative)
  else if name = "nan" then some .nan
  else none

/-- A signed literal or special value. -/
def readSigned? (cs : List Char) : Option Binary64 :=
  let (negative, body) := signed cs
  match special? negative body with
  | some x => some x
  | none => (readLiteral? body).map (·.toBinary64 negative)

/-- Each underscore stands between two digits; `afterDigit` tells whether a digit has just gone by. -/
def groupsDigits (afterDigit : Bool) : List Char → Bool
  | [] => true
  | '_' :: r => afterDigit && (r.head?.any isAsciiDigit) && groupsDigits false r
  | c :: r => groupsDigits (isAsciiDigit c) r

/-- Digits of any script as ASCII digits; anything else above ASCII can be in no number. -/
def asciiDigits (cs : List Char) : List Char :=
  cs.map fun c => match digitValue? c with
    | some d => Char.ofNat (48 + d)
    | none => c

/-- A number as a person writes it. -/
def readText? (cs : List Char) : Option Binary64 :=
  let body := asciiDigits (trimPadding cs)
  if groupsDigits false body then readSigned? (body.filter (· != '_')) else none

end VarsAdvisor.Decimal
