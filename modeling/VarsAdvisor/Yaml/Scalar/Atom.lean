import VarsAdvisor.Decimal.Binary
import VarsAdvisor.Text.WideText

/-!
# Values without parts

Values of scalars as far as they are told apart when they are keys. Truth values are the numbers
zero and one, and a number that is whole is the same value in every notation.
-/

namespace VarsAdvisor.Yaml

open VarsAdvisor.Decimal VarsAdvisor.Text

/-- A value without parts. What has a type that is not known, or is not a number, is the same as
itself only: `own` holds the number of its node. -/
inductive Atom where
  | null
  | whole (n : Int)
  | fraction (x : Binary64)
  | notANumber
  | text (t : WideText)
  | bytes (bs : List UInt8)
  | day (year month day : Nat)
  | moment (microsecond : Int) (zoned : Bool)
  | own (number : Nat)
  deriving DecidableEq, Repr

/-- The value of a number with a fraction or an exponent, read from the node `own`. -/
def Atom.ofBinary64 (own : Nat) (x : Binary64) : Atom :=
  if x = .nan then .own own
  else match x.toInt? with
    | some n => .whole n
    | none => .fraction x

end VarsAdvisor.Yaml
