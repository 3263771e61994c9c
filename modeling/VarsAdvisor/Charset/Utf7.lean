import VarsAdvisor.Text.Base64

/-!
# UTF-7

A text in ASCII in which a plus sign begins a section of base 64 with units of 16 bits; another
character ends the section, and a hyphen that does is passed over. `+-` is a plus sign.
-/

namespace VarsAdvisor.Text.Utf7

/-- What is open in a section: the bits that make no unit yet, their number, and the first half of
a pair. -/
structure Section where
  bits : Nat
  count : Nat
  half : Option Nat
  deriving DecidableEq, Repr

/-- A section that has just begun. -/
def Section.fresh : Section := ⟨0, 0, none⟩

/-- A unit behind what is open: the characters it completes, and the first half of a pair. The lone
half of a pair is replaced. -/
def takeUnit (half : Option Nat) (unit : Nat) : List Char × Option Nat :=
  match half with
  | some high =>
    if 0xDC00 ≤ unit ∧ unit ≤ 0xDFFF then
      ([Char.ofNat (0x10000 + (high - 0xD800) * 0x400 + (unit - 0xDC00))], none)
    else if 0xD800 ≤ unit ∧ unit < 0xDC00 then (['\uFFFD'], some unit)
    else (['\uFFFD', Char.ofNat unit], none)
  | none =>
    if 0xD800 ≤ unit ∧ unit < 0xDC00 then ([], some unit)
    else if 0xDC00 ≤ unit ∧ unit ≤ 0xDFFF then (['\uFFFD'], none)
    else ([Char.ofNat unit], none)

/-- Six more bits in a section. -/
def Section.push (s : Section) (sextet : Nat) : List Char × Section :=
  let bits := s.bits * 64 + sextet
  let count := s.count + 6
  if count < 16 then ([], ⟨bits, count, s.half⟩)
  else
    let left := count - 16
    let (chars, half) := takeUnit s.half (bits >>> left)
    (chars, ⟨bits % (1 <<< left), left, half⟩)

/-- Bits are open that can be no padding. -/
def Section.isPartial (s : Section) : Bool :=
  6 ≤ s.count || s.bits != 0

/-- A byte outside of sections. -/
def plainChar (b : UInt8) : Char :=
  if b < 0x80 then Char.ofNat b.toNat else '\uFFFD'

/-- What ends a section: a replacement character if a character is incomplete, else the byte itself,
if it is no hyphen. -/
def Section.close (s : Section) (b : UInt8) : List Char :=
  if s.isPartial then ['\uFFFD']
  else (if s.half.isSome && b < 0x80 then ['\uFFFD'] else []) ++
    (if b = 0x2D then [] else [plainChar b])

/-- The text of some bytes, in an open section or outside of sections. -/
def decodeFrom : Option Section → List UInt8 → List Char
  | none, [] => []
  | some s, [] => if s.half.isSome || s.isPartial then ['\uFFFD'] else []
  | some s, b :: r =>
    match Base64.sextet? (Char.ofNat b.toNat) with
    | some sextet =>
      let (chars, s) := s.push sextet
      chars ++ decodeFrom (some s) r
    | none => s.close b ++ decodeFrom none r
  | none, [b] => if b = 0x2B then [] else [plainChar b]
  | none, b :: c :: r =>
    if b = 0x2B then
      if c = 0x2D then '+' :: decodeFrom none r
      else if (Base64.sextet? (Char.ofNat c.toNat)).isSome then decodeFrom (some .fresh) (c :: r)
      else '\uFFFD' :: decodeFrom none r
    else plainChar b :: decodeFrom none (c :: r)

/-- The text of some bytes. -/
def decode (bs : List UInt8) : List Char :=
  decodeFrom none bs

end VarsAdvisor.Text.Utf7
