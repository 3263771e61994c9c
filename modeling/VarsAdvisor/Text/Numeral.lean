import VarsAdvisor.Text.Blank
import VarsAdvisor.Text.Digit
import VarsAdvisor.Text.Quoted

/-!
# Whole numbers in texts

A numeral may stand between spaces, carry a sign, use the digits of any script and group them with
single underscores. A numeral of more than 4300 digits is refused.
-/

namespace VarsAdvisor.Text

/-- Why a text is no numeral. -/
inductive NumeralError where
  | malformed (base : Nat) (text : String)
  | tooLong (digits : Nat)
  deriving DecidableEq, Repr

/-- The greatest number of digits that is read. -/
def maxNumeralDigits : Nat := 4300

/-- The wording of a refusal; a long text is quoted by its first characters only. -/
def NumeralError.message : NumeralError → String
  | .malformed base text =>
    s!"invalid literal for int() with base {base}: {String.ofList ((quote text.toList).take 200)}"
  | .tooLong digits =>
    s!"Exceeds the limit ({maxNumeralDigits} digits) for integer string conversion: value has {digits} digits; use sys.set_int_max_str_digits() to increase the limit"

/-- The value of decimal digits after `acc`. -/
def digitsValue (acc : Nat) (digits : List Nat) : Nat :=
  digits.foldl (fun n d => n * 10 + d) acc

/-- The digits at the start of a text, with single underscores between them, and the rest. A
second underscore in a row, or one that no digit follows, ends the numeral before the
underscore. -/
def spanDigits : List Char → List Nat × List Char
  | [] => ([], [])
  | '_' :: c :: r =>
    match digitValue? c with
    | some d => let (ds, rest) := spanDigits r; (d :: ds, rest)
    | none => ([], '_' :: c :: r)
  | c :: r =>
    match digitValue? c with
    | some d => let (ds, rest) := spanDigits r; (d :: ds, rest)
    | none => ([], c :: r)

/-- Digits that may be grouped, the first of them no underscore. -/
def leadingDigits (cs : List Char) : List Nat × List Char :=
  if cs.head? = some '_' then ([], cs) else spanDigits cs

/-- A sign and what follows it. -/
def splitSign : List Char → Bool × List Char
  | '-' :: r => (true, r)
  | '+' :: r => (false, r)
  | cs => (false, cs)

/-- The whole number that a text denotes. -/
def parseInt (text : String) : Except NumeralError Int :=
  let (negative, body) := splitSign (trimPadding text.toList)
  let (digits, rest) := leadingDigits body
  if digits.isEmpty || rest.head? = some '_' then .error (.malformed 10 text)
  else if maxNumeralDigits < digits.length then .error (.tooLong digits.length)
  else if !rest.isEmpty then .error (.malformed 10 text)
  else
    let n := digitsValue 0 digits
    .ok (if negative then -(Int.ofNat n) else Int.ofNat n)

/-- The number that a run of decimal digits denotes. -/
def parseDigits (digits : List Char) : Except NumeralError Nat :=
  if maxNumeralDigits < digits.length then .error (.tooLong digits.length)
  else .ok (digitsValue 0 (digits.map fun c => (digitValue? c).getD 0))

end VarsAdvisor.Text
