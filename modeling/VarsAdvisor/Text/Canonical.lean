import VarsAdvisor.Text.CanonicalTable

/-!
# Canonical forms of texts

A text may write a character with a mark as one character or as two. In the canonical form marks
stand in a fixed order, and what can be one character is one. The data covers the characters that
host names are made of.
-/

namespace VarsAdvisor.Text

/-- The class by which a combining mark is ordered; zero for all other characters. -/
def combiningClass (n : Nat) : Nat :=
  ((combiningRows.find? fun (first, last, _) => first ≤ n && n ≤ last).map (·.2.2)).getD 0

/-! ## Apart -/

/-- A Hangul syllable as its letters. -/
def hangulParts? (n : Nat) : Option (List Nat) :=
  if 0xAC00 ≤ n ∧ n ≤ 0xD7A3 then
    let s := n - 0xAC00
    let open_ := [0x1100 + s / 588, 0x1161 + s % 588 / 28]
    some (if s % 28 = 0 then open_ else open_ ++ [0x11A7 + s % 28])
  else none

/-- A character as the characters that it is composed of, taken apart so many times. -/
def partsOf : Nat → Nat → List Nat
  | 0, n => [n]
  | times + 1, n => match compositions.find? fun (_, _, whole) => whole == n with
    | some (first, second, _) => partsOf times first ++ [second]
    | none => (hangulParts? n).getD [n]

/-- Puts a mark before the marks of greater classes at the end of a text, which is in reverse. -/
def insertMark (n : Nat) : List Nat → List Nat
  | [] => [n]
  | m :: rest =>
    if combiningClass n != 0 && combiningClass n < combiningClass m then m :: insertMark n rest
    else n :: m :: rest

/-- A text taken apart, with its marks in order. No character is composed more than four times. -/
def takenApart (ns : List Nat) : List Nat :=
  ((ns.flatMap (partsOf 4)).foldl (fun seen n => insertMark n seen) []).reverse

/-! ## Together -/

/-- The one character that two characters are. -/
def composed? (first second : Nat) : Option Nat :=
  if 0x1100 ≤ first && first ≤ 0x1112 && 0x1161 ≤ second && second ≤ 0x1175 then
    some (0xAC00 + ((first - 0x1100) * 21 + (second - 0x1161)) * 28)
  else if 0xAC00 ≤ first && first ≤ 0xD7A3 && (first - 0xAC00) % 28 == 0 && 0x11A8 ≤ second &&
      second ≤ 0x11C2 then
    some (first + (second - 0x11A7))
  else (compositions.find? fun (a, b, _) => a == first && b == second).map (·.2.2)

/-- Composes a text behind a base, whose marks so far are in reverse; a mark of the same class or a
greater one in between keeps a mark from its base. -/
def composeFrom (base : Nat) (marks : List Nat) : List Nat → List Nat
  | [] => base :: marks.reverse
  | n :: rest =>
    let free := match marks with
      | [] => true
      | m :: _ => combiningClass m < combiningClass n
    match if free then composed? base n else none with
    | some whole => composeFrom whole marks rest
    | none =>
      if combiningClass n = 0 then base :: marks.reverse ++ composeFrom n [] rest
      else composeFrom base (n :: marks) rest

/-- Composes a text that is taken apart. Marks at its start have no base. -/
def putTogether (ns : List Nat) : List Nat :=
  let marks := ns.takeWhile fun n => combiningClass n != 0
  match ns.drop marks.length with
  | [] => marks
  | base :: rest => marks ++ composeFrom base [] rest

/-- The text is in its canonical form. -/
def isCanonical (cs : List Char) : Bool :=
  let ns := cs.map Char.toNat
  putTogether (takenApart ns) == ns

end VarsAdvisor.Text
