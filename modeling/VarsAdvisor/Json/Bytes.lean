import VarsAdvisor.Json.Decode
import VarsAdvisor.Text.Units
import VarsAdvisor.Text.Utf8

/-!
# JSON in bytes

Bytes that hold JSON may be in UTF-8, UTF-16 or UTF-32, with or without a byte-order mark. Which it
is shows in the first four bytes, since a JSON text starts with characters of ASCII. A surrogate may
stand among the characters, in UTF-8 with the three bytes that its number would have.
-/

namespace VarsAdvisor.Json

open VarsAdvisor.Text

/-- How a text is laid out in bytes. -/
inductive Encoding where
  | utf8
  | utf16 (bigEndian : Bool)
  | utf32 (bigEndian : Bool)
  deriving DecidableEq, Repr

/-- The surrogate whose number stands in three bytes like that of a character in UTF-8. -/
def surrogate? : List UInt8 → Option CodePoint
  | 0xED :: b :: c :: _ =>
    if 0xA0 ≤ b ∧ b < 0xC0 ∧ 0x80 ≤ c ∧ c < 0xC0 then
      some (.ofNat (0xD000 + (b.toNat - 0x80) * 0x40 + (c.toNat - 0x80)))
    else none
  | _ => none

/-- The code points that bytes hold in UTF-8 with surrogates. -/
def pointsOf? (bytes : List UInt8) : Option (List CodePoint) :=
  match bytes with
  | [] => some []
  | b :: rest =>
    match Utf8.decodeChar b rest with
    | .ok (c, more) => (pointsOf? (rest.drop more)).map (.char c :: ·)
    | .error _ => match surrogate? (b :: rest) with
      | some point => (pointsOf? (rest.drop 2)).map (point :: ·)
      | none => none
termination_by bytes.length
decreasing_by all_goals simp only [List.length_drop, List.length_cons]; omega

/-- The text that bytes hold. -/
def Encoding.decode : Encoding → List UInt8 → Option (List CodePoint)
  | .utf8, bytes => pointsOf? bytes
  | .utf16 bigEndian, bytes => Units.decode16 bigEndian bytes
  | .utf32 bigEndian, bytes => Units.decode32 bigEndian bytes

/-- The encoding that a byte-order mark stands for, and the length of the mark. -/
def markOf? : List UInt8 → Option (Encoding × Nat)
  | 0x00 :: 0x00 :: 0xFE :: 0xFF :: _ => some (.utf32 true, 4)
  | 0xFF :: 0xFE :: 0x00 :: 0x00 :: _ => some (.utf32 false, 4)
  | 0xFE :: 0xFF :: _ => some (.utf16 true, 2)
  | 0xFF :: 0xFE :: _ => some (.utf16 false, 2)
  | 0xEF :: 0xBB :: 0xBF :: _ => some (.utf8, 3)
  | _ => none

/-- The encoding of bytes without a mark, told by where zeros stand. -/
def guess : List UInt8 → Encoding
  | a :: b :: c :: d :: _ =>
    if a = 0 then (if b = 0 then .utf32 true else .utf16 true)
    else if b = 0 then (if c = 0 ∧ d = 0 then .utf32 false else .utf16 false)
    else .utf8
  | [a, b] => if a = 0 then .utf16 true else if b = 0 then .utf16 false else .utf8
  | _ => .utf8

/-- The text that bytes with JSON hold. -/
def textOf? (bytes : List UInt8) : Option (List CodePoint) :=
  match markOf? bytes with
  | some (encoding, length) => encoding.decode (bytes.drop length)
  | none => (guess bytes).decode bytes

/-- The JSON value in bytes; none if they hold no text. -/
def ofBytes (bytes : List UInt8) : Option (Except DecodeError Json) :=
  (textOf? bytes).map decodeAll

end VarsAdvisor.Json
