/-!
# Labels in ASCII

A label with other characters than ASCII is written as its ASCII characters, a hyphen, and a number
for each of the others: how many places and code points lie between it and the one before it. The
numbers are written with 36 digits, each digit's threshold following the size of the numbers before.
Main definitions: `Punycode.encode` and `Punycode.decode?`.
-/

namespace VarsAdvisor.Domain.Punycode

/-- A digit: letters for the first 26, then the decimal digits. -/
def digitChar (d : Nat) : Char :=
  if d < 26 then Char.ofNat (97 + d) else Char.ofNat (22 + d)

/-- The value of a digit. -/
def digitValue? (c : Char) : Option Nat :=
  if 'a' ≤ c ∧ c ≤ 'z' then some (c.toNat - 97)
  else if '0' ≤ c ∧ c ≤ '9' then some (c.toNat - 22)
  else none

/-- A digit below the threshold of its place is the last one of its number. -/
def threshold (place bias : Nat) : Nat :=
  min 26 (max 1 (36 * (place + 1) - bias))

/-- Divides until a number is small, and gives it with 36 for each division. -/
def shrink (delta bias : Nat) : Nat × Nat :=
  if 455 < delta then shrink (delta / 35) (bias + 36) else (delta, bias)
termination_by delta
decreasing_by exact Nat.div_lt_self (by omega) (by omega)

/-- The bias after a number, when there are `count` characters. -/
def adapt (delta count : Nat) (first : Bool) : Nat :=
  let delta := if first then delta / 700 else delta / 2
  let (delta, bias) := shrink (delta + delta / count) 0
  bias + 36 * delta / (delta + 38)

/-! ## Writing -/

/-- The digits of a number from a place on. -/
def digitsFrom (bias place n : Nat) : List Char :=
  let t := threshold place bias
  if n < t then [digitChar n]
  else digitChar (t + (n - t) % (36 - t)) :: digitsFrom bias (place + 1) ((n - t) / (36 - t))
termination_by n
decreasing_by
  have h : 1 ≤ threshold place bias := by unfold threshold; omega
  exact Nat.lt_of_le_of_lt (Nat.div_le_self _ _) (by omega)

/-- The state of writing: the digits so far, the characters passed since the last one that was
written, the bias, and how many characters are written, counting those of ASCII. -/
structure Writing where
  digits : List Char
  delta : Nat
  bias : Nat
  count : Nat

/-- Passes a character when those with the code point `n` are written. -/
def Writing.pass (ascii n : Nat) (w : Writing) (m : Nat) : Writing :=
  if m < n then { w with delta := w.delta + 1 }
  else if m = n then
    ⟨w.digits ++ digitsFrom w.bias 0 w.delta, 0, adapt w.delta (w.count + 1) (w.count == ascii),
      w.count + 1⟩
  else w

/-- The code points above ASCII in a label, in increasing order and each once. -/
def foreignCodes (codes : List Nat) : List Nat :=
  ((codes.filter (128 ≤ ·)).mergeSort).eraseDups

/-- A label without the mark that it is encoded. -/
def encode (label : List Char) : List Char :=
  let codes := label.map Char.toNat
  let ascii := label.filter fun c => c.toNat < 128
  let start : Writing := ⟨[], 0, 72, ascii.length⟩
  let (w, _) := (foreignCodes codes).foldl (fun (w, next) n =>
    let w := { w with delta := w.delta + (n - next) * (w.count + 1) }
    let w := codes.foldl (Writing.pass ascii.length n) w
    ({ w with delta := w.delta + 1 }, n + 1)) (start, 128)
  (if ascii.isEmpty then [] else ascii ++ ['-']) ++ w.digits

/-! ## Reading -/

/-- A number from a place on, each digit weighing `weight`, and the rest. -/
def readNumber? (bias place weight : Nat) : List Char → Option (Nat × List Char)
  | [] => none
  | c :: rest => do
    let d ← digitValue? c
    let t := threshold place bias
    if d < t then pure (d * weight, rest)
    else
      let (more, rest) ← readNumber? bias (place + 1) (weight * (36 - t)) rest
      pure (d * weight + more, rest)

/-- Puts the characters that digits stand for into a label. `place` is where the next one goes at
the earliest, `code` its least code point; there are at most as many numbers as digits. -/
def insertFrom? (label : List Char) (place code bias : Nat) (first : Bool) :
    Nat → List Char → Option (List Char)
  | _, [] => some label
  | 0, _ => none
  | fuel + 1, digits => do
    let (delta, rest) ← readNumber? bias 0 1 digits
    let count := label.length + 1
    let place := place + delta
    let code := code + place / count
    let c := Char.ofNat code
    if c.toNat != code then none
    else
      let place := place % count
      insertFrom? (label.take place ++ c :: label.drop place) (place + 1) code
        (adapt delta count first) false fuel rest

/-- The label that is written so. -/
def decode? (cs : List Char) : Option (List Char) :=
  let digits := (cs.reverse.takeWhile (· != '-')).reverse
  insertFrom? (cs.take (cs.length - digits.length - 1)) 0 128 72 true digits.length digits

end VarsAdvisor.Domain.Punycode
