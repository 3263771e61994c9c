/-!
# Base 64

Bytes as characters of six bits each. `encode` pads the last group of four. `decode` passes over
characters that are not in the alphabet, and padding that completes a group ends the data.
-/

namespace VarsAdvisor.Text.Base64

/-- The alphabet, in the order of its values. -/
def alphabet : List Char :=
  "ABCDEFGHIJKLMNOPQRSTUVWXYZabcdefghijklmnopqrstuvwxyz0123456789+/".toList

/-- The character that stands for six bits. -/
def sextetChar (n : Nat) : Char :=
  alphabet.getD (n % 64) 'A'

/-- The six bits that a character stands for. -/
def sextet? (c : Char) : Option Nat :=
  alphabet.idxOf? c

/-! ## Writing -/

/-- Bytes, three of them in four characters. -/
def encode : List UInt8 → List Char
  | [] => []
  | [a] =>
    let n := a.toNat * 16
    [sextetChar (n / 64), sextetChar n, '=', '=']
  | [a, b] =>
    let n := (a.toNat * 256 + b.toNat) * 4
    [sextetChar (n / 4096), sextetChar (n / 64), sextetChar n, '=']
  | a :: b :: c :: r =>
    let n := (a.toNat * 256 + b.toNat) * 256 + c.toNat
    sextetChar (n / 262144) :: sextetChar (n / 4096) :: sextetChar (n / 64) :: sextetChar n ::
      encode r

/-! ## Reading -/

/-- The bytes that sextets hold; bits behind the last whole byte are dropped. -/
def bytesOf : List Nat → List UInt8
  | a :: b :: c :: d :: r =>
    UInt8.ofNat (a * 4 + b / 16) :: UInt8.ofNat (b % 16 * 16 + c / 4) ::
      UInt8.ofNat (c % 4 * 64 + d) :: bytesOf r
  | [a, b, c] => [UInt8.ofNat (a * 4 + b / 16), UInt8.ofNat (b % 16 * 16 + c / 4)]
  | [a, b] => [UInt8.ofNat (a * 4 + b / 16)]
  | _ => []

/-- Why a text is no data. -/
inductive Flaw where
  | loneCharacter (count : Nat)
  | padding
  deriving DecidableEq, Repr

/-- The wording. -/
def Flaw.message : Flaw → String
  | .loneCharacter count =>
    s!"Invalid base64-encoded string: number of data characters ({count}) cannot be 1 more than a multiple of 4"
  | .padding => "Incorrect padding"

/-- The data of a text, after the sextets `seen` in reverse order and so many padding characters. -/
def decodeFrom (seen : List Nat) (pads : Nat) : List Char → Except Flaw (List UInt8)
  | [] =>
    if seen.length % 4 = 0 then .ok (bytesOf seen.reverse)
    else if seen.length % 4 = 1 then .error (.loneCharacter seen.length)
    else .error .padding
  | c :: r =>
    let place := seen.length % 4
    if c = '=' then
      if 2 ≤ place ∧ 4 ≤ place + (pads + 1) then .ok (bytesOf seen.reverse)
      else decodeFrom seen (if 2 ≤ place then pads + 1 else pads) r
    else match sextet? c with
      | some s => decodeFrom (s :: seen) 0 r
      | none => decodeFrom seen pads r

/-- The data of a text. -/
def decode (cs : List Char) : Except Flaw (List UInt8) :=
  decodeFrom [] 0 cs

end VarsAdvisor.Text.Base64
