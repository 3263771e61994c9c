import VarsAdvisor.Text.Quoted

/-!
# UTF-8

`encode` writes a text as bytes. `decode` reads bytes back and names the first place where they
are no UTF-8; `decodeLossy` puts a replacement character there and goes on. An ill-formed sequence
is the longest start of a well-formed one.
-/

namespace VarsAdvisor.Text.Utf8

/-- The bytes of one character. -/
def encodeChar (c : Char) : List UInt8 :=
  let n := c.toNat
  if n < 0x80 then [UInt8.ofNat n]
  else if n < 0x800 then [UInt8.ofNat (0xC0 + n / 0x40), UInt8.ofNat (0x80 + n % 0x40)]
  else if n < 0x10000 then
    [UInt8.ofNat (0xE0 + n / 0x1000), UInt8.ofNat (0x80 + n / 0x40 % 0x40),
      UInt8.ofNat (0x80 + n % 0x40)]
  else
    [UInt8.ofNat (0xF0 + n / 0x40000), UInt8.ofNat (0x80 + n / 0x1000 % 0x40),
      UInt8.ofNat (0x80 + n / 0x40 % 0x40), UInt8.ofNat (0x80 + n % 0x40)]

/-- The bytes of a text. -/
def encode (cs : List Char) : List UInt8 :=
  cs.flatMap encodeChar

/-- Why bytes are no UTF-8. -/
inductive Flaw where
  | startByte
  | continuationByte
  | unexpectedEnd
  deriving DecidableEq, Repr

/-- The words for a flaw. -/
def Flaw.message : Flaw → String
  | .startByte => "invalid start byte"
  | .continuationByte => "invalid continuation byte"
  | .unexpectedEnd => "unexpected end of data"

/-- What a sequence that starts with this byte needs: the value its lead byte carries, how many
bytes follow, and the range of the first of them. -/
structure Lead where
  value : Nat
  more : Nat
  low : Nat
  high : Nat

/-- The lead bytes of UTF-8. The second byte's range leaves out overlong forms, surrogates and
values above `U+10FFFF`. -/
def lead? (b : Nat) : Option Lead :=
  if b < 0x80 then some ⟨b, 0, 0, 0⟩
  else if b < 0xC2 then none
  else if b < 0xE0 then some ⟨b - 0xC0, 1, 0x80, 0xBF⟩
  else if b < 0xF0 then
    some ⟨b - 0xE0, 2, if b = 0xE0 then 0xA0 else 0x80, if b = 0xED then 0x9F else 0xBF⟩
  else if b < 0xF5 then
    some ⟨b - 0xF0, 3, if b = 0xF0 then 0x90 else 0x80, if b = 0xF4 then 0x8F else 0xBF⟩
  else none

/-- The value of a sequence whose lead carries `value`, or the flaw and how many bytes after the
lead were good. -/
def continuation (value : Nat) : Nat → Nat → Nat → Nat → List UInt8 → Except (Flaw × Nat) Nat
  | 0, _, _, _, _ => .ok value
  | _ + 1, _, _, good, [] => .error (.unexpectedEnd, good)
  | more + 1, low, high, good, b :: r =>
    let n := b.toNat
    if low ≤ n && n ≤ high then
      continuation (value * 0x40 + (n - 0x80)) more 0x80 0xBF (good + 1) r
    else .error (.continuationByte, good)

/-- One character and the number of bytes after its lead, or the flaw and the number of bytes
after the lead that belong to it. -/
def decodeChar (b : UInt8) (rest : List UInt8) : Except (Flaw × Nat) (Char × Nat) :=
  match lead? b.toNat with
  | none => .error (.startByte, 0)
  | some l =>
    match continuation l.value l.more l.low l.high 0 rest with
    | .error e => .error e
    | .ok n => .ok (Char.ofNat n, l.more)

/-- The first ill-formed sequence of some bytes: where it starts, its bytes, and what is wrong. -/
structure Malformed where
  start : Nat
  bytes : List UInt8
  flaw : Flaw
  deriving DecidableEq, Repr

/-- A byte with two hexadecimal digits. -/
def hexByte (b : UInt8) : String :=
  String.ofList (hexDigits 2 b.toNat)

/-- The message about an ill-formed sequence: its byte if it is one, else its extent. -/
def Malformed.message (e : Malformed) : String :=
  match e.bytes with
  | [b] => s!"'utf-8' codec can't decode byte 0x{hexByte b} in position {e.start}: {e.flaw.message}"
  | bs => s!"'utf-8' codec can't decode bytes in position {e.start}-{e.start + bs.length - 1}: {e.flaw.message}"

/-- Reads bytes from offset `at`. -/
def decodeFrom (offset : Nat) (bytes : List UInt8) : Except Malformed (List Char) :=
  match bytes with
  | [] => .ok []
  | b :: rest =>
    match decodeChar b rest with
    | .error (flaw, good) => .error ⟨offset, (b :: rest).take (good + 1), flaw⟩
    | .ok (c, more) =>
      match decodeFrom (offset + more + 1) (rest.drop more) with
      | .error e => .error e
      | .ok cs => .ok (c :: cs)
termination_by bytes.length
decreasing_by simp only [List.length_drop, List.length_cons]; omega

/-- The text that the bytes encode. -/
def decode (bytes : List UInt8) : Except Malformed (List Char) :=
  decodeFrom 0 bytes

/-- The text that the bytes encode, with a replacement character for each ill-formed sequence. -/
def decodeLossy (bytes : List UInt8) : List Char :=
  match bytes with
  | [] => []
  | b :: rest =>
    match decodeChar b rest with
    | .error (_, good) => Char.ofNat 0xFFFD :: decodeLossy (rest.drop good)
    | .ok (c, more) => c :: decodeLossy (rest.drop more)
termination_by bytes.length
decreasing_by all_goals simp only [List.length_drop, List.length_cons]; omega

/-- `encode` on strings. -/
def bytesOf (s : String) : List UInt8 :=
  encode s.toList

end VarsAdvisor.Text.Utf8
