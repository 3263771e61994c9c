import VarsAdvisor.Text.LowerTable

/-!
# Lower-casing

Every character has its own lower-case form, with two exceptions: the dotted capital I becomes an
`i` and a combining dot, and a capital sigma at the end of a word becomes a final sigma.
-/

namespace VarsAdvisor.Text

/-- The code point's lower-case form by the table's rows. -/
def lowerCode (n : Nat) : List (Nat × Nat × Nat × Int) → Nat
  | [] => n
  | (first, last, step, offset) :: rows =>
    if first ≤ n && n ≤ last && (n - first) % step == 0 then (Int.ofNat n + offset).toNat
    else lowerCode n rows

/-- The lower-case form of one character, the context apart. -/
def lowerChar (c : Char) : Char :=
  let n := c.toNat
  if n < 128 then
    if 65 ≤ n && n ≤ 90 then Char.ofNat (n + 32) else c
  else Char.ofNat (lowerCode n lowerRows)

/-- The next character that is not passed over is cased. -/
def nextIsCased (cs : List Char) : Bool :=
  match cs.dropWhile (fun c => inRanges c.toNat ignorableRanges) with
  | [] => false
  | c :: _ => inRanges c.toNat casedRanges

/-- Lower-casing with the text already read, in reverse, as the context of a sigma. -/
def lowerFrom (before : List Char) : List Char → List Char
  | [] => []
  | c :: r =>
    if c.toNat = 0x3A3 then
      (if nextIsCased before && !nextIsCased r then 'ς' else 'σ') :: lowerFrom (c :: before) r
    else if c.toNat = 0x130 then 'i' :: Char.ofNat 0x307 :: lowerFrom (c :: before) r
    else lowerChar c :: lowerFrom (c :: before) r

/-- The text in lower case. -/
def lower (cs : List Char) : List Char :=
  lowerFrom [] cs

/-- The string in lower case. -/
def lowered (s : String) : String :=
  String.ofList (lower s.toList)

end VarsAdvisor.Text
