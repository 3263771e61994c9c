import VarsAdvisor.Yaml.Problem
import VarsAdvisor.Text.Base64

/-!
# Binary data

The value of a scalar with the type of binary data, which is written in base 64 and in ASCII.
-/

namespace VarsAdvisor.Yaml

open VarsAdvisor.Text

/-- A code point of ASCII. -/
def isAscii : CodePoint → Bool
  | .char c => c.toNat < 128
  | .surrogate _ => false

/-- The code points from the first that is not ASCII, and where they stand. -/
def firstForeign? (points : List CodePoint) : Option (Nat × List CodePoint) :=
  let before := points.takeWhile isAscii
  let run := (points.drop before.length).takeWhile fun p => !isAscii p
  if run.isEmpty then none else some (before.length, run)

/-- The code of a code point as an escape. -/
def codeEscape : CodePoint → String
  | .char c => String.ofList (
    if c.toNat < 0x100 then '\\' :: 'x' :: hexDigits 2 c.toNat
    else if c.toNat < 0x10000 then '\\' :: 'u' :: hexDigits 4 c.toNat
    else '\\' :: 'U' :: hexDigits 8 c.toNat)
  | .surrogate distance => String.ofList ('\\' :: 'u' :: hexDigits 4 (CodePoint.surrogateCode distance))

/-- What is said about code points that are not ASCII. -/
def foreignMessage (at_ : Nat) (run : List CodePoint) : String :=
  match run with
  | [p] =>
    s!"'ascii' codec can't encode character '{codeEscape p}' in position {at_}: ordinal not in range(128)"
  | _ =>
    s!"'ascii' codec can't encode characters in position {at_}-{at_ + run.length - 1}: ordinal not in range(128)"

/-- The bytes of binary data. -/
def readBinary (text : WideText) : Except Problem (List UInt8) :=
  match firstForeign? text.points with
  | some (at_, run) => .error (.notAscii (foreignMessage at_ run))
  | none => (Base64.decode text.faces).mapError fun flaw => .malformedBase64 flaw.message

end VarsAdvisor.Yaml
