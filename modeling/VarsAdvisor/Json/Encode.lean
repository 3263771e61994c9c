import VarsAdvisor.Json.Basic
import VarsAdvisor.Decimal.Layout

/-!
# Writing JSON

`Json.encode` writes a value on one line in ASCII: `", "` between items, `": "` after a name, every
character outside `U+0020`…`U+007E` as an escape in UTF-16 units, and a surrogate as the unit that
it is.
-/

namespace VarsAdvisor.Json

open VarsAdvisor.Text (hexDigits CodePoint WideText)

/-- A UTF-16 unit as an escape. -/
def encodeUnit (n : Nat) : List Char :=
  '\\' :: 'u' :: hexDigits 4 n

/-- One character of a string. -/
def encodeChar (c : Char) : List Char :=
  if c = '"' then ['\\', '"']
  else if c = '\\' then ['\\', '\\']
  else if c = '\n' then ['\\', 'n']
  else if c = '\r' then ['\\', 'r']
  else if c = '\t' then ['\\', 't']
  else if c.toNat = 8 then ['\\', 'b']
  else if c.toNat = 12 then ['\\', 'f']
  else if 32 ≤ c.toNat ∧ c.toNat < 127 then [c]
  else if c.toNat < 0x10000 then encodeUnit c.toNat
  else
    encodeUnit (0xD800 + (c.toNat - 0x10000) / 0x400) ++
      encodeUnit (0xDC00 + (c.toNat - 0x10000) % 0x400)

/-- One code point of a string. -/
def encodePoint : CodePoint → List Char
  | .char c => encodeChar c
  | .surrogate distance => encodeUnit (CodePoint.surrogateCode distance)

/-- A string between quotation marks. -/
def encodeString (s : WideText) : List Char :=
  '"' :: s.points.flatMap encodePoint ++ ['"']

/-- A whole number. -/
def encodeInt (n : Int) : List Char :=
  (if n < 0 then ['-'] else []) ++ Nat.toDigits 10 n.natAbs

mutual

/-- A value as text. -/
def encode : Json → List Char
  | .null => ['n', 'u', 'l', 'l']
  | .bool true => ['t', 'r', 'u', 'e']
  | .bool false => ['f', 'a', 'l', 's', 'e']
  | .int n => encodeInt n
  | .real x => Decimal.exactJson.render Decimal.shortest x
  | .str s => encodeString s
  | .arr items => '[' :: encodeItems items ++ [']']
  | .obj members => '\x7b' :: encodeMembers members ++ ['\x7d']

/-- The items of an array. -/
def encodeItems : List Json → List Char
  | [] => []
  | [v] => encode v
  | v :: w :: rest => encode v ++ [',', ' '] ++ encodeItems (w :: rest)

/-- The members of an object. -/
def encodeMembers : List (WideText × Json) → List Char
  | [] => []
  | [(n, v)] => encodeString n ++ [':', ' '] ++ encode v
  | (n, v) :: w :: rest =>
    encodeString n ++ [':', ' '] ++ encode v ++ [',', ' '] ++ encodeMembers (w :: rest)

end

mutual

/-- The value can be sent as UTF-8: there are no surrogates in it, and no number is infinite or
undefined. -/
def isSendable : Json → Bool
  | .real x => x.isFinite
  | .str s => s.isString
  | .arr items => areSendable items
  | .obj members => membersSendable members
  | _ => true

/-- The values can be sent. -/
def areSendable : List Json → Bool
  | [] => true
  | v :: rest => v.isSendable && areSendable rest

/-- The members of an object can be sent. -/
def membersSendable : List (WideText × Json) → Bool
  | [] => true
  | (name, v) :: rest => name.isString && v.isSendable && membersSendable rest

end

/-- A value as a string. -/
def text (v : Json) : String :=
  String.ofList v.encode

end VarsAdvisor.Json
