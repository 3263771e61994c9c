import VarsAdvisor.Text.WideText

/-!
# Texts in wider units

Texts as bytes in units of 16 or 32 bits, the more significant byte first or last. A surrogate that
is no half of a pair is kept.
-/

namespace VarsAdvisor.Text.Units

/-- The units of `size` bytes, if there is a whole number of them. -/
def group (bigEndian : Bool) (size : Nat) (fuel : Nat) (bytes : List UInt8) : Option (List Nat) :=
  match fuel, bytes with
  | _, [] => some []
  | 0, _ => none
  | fuel + 1, bytes =>
    let unit := bytes.take size
    if unit.length = size then
      let ordered := if bigEndian then unit else unit.reverse
      let value := ordered.foldl (fun n b => n * 256 + b.toNat) 0
      (group bigEndian size fuel (bytes.drop size)).map (value :: ·)
    else none

/-- Code points from units of 16 bits; a high and a low surrogate side by side make a character. -/
def join16 : List Nat → List CodePoint
  | high :: low :: rest =>
    if 0xD800 ≤ high ∧ high < 0xDC00 ∧ 0xDC00 ≤ low ∧ low < 0xE000 then
      .char (Char.ofNat (0x10000 + (high - 0xD800) * 0x400 + (low - 0xDC00))) :: join16 rest
    else .ofNat high :: join16 (low :: rest)
  | [last] => [.ofNat last]
  | [] => []

/-- The text in units of 16 bits. -/
def decode16 (bigEndian : Bool) (bytes : List UInt8) : Option (List CodePoint) :=
  (group bigEndian 2 bytes.length bytes).map join16

/-- The text in units of 32 bits. -/
def decode32 (bigEndian : Bool) (bytes : List UInt8) : Option (List CodePoint) :=
  (group bigEndian 4 bytes.length bytes).bind fun units =>
    if units.all (· < 0x110000) then some (units.map .ofNat) else none

end VarsAdvisor.Text.Units
