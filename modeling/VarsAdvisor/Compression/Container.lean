import VarsAdvisor.Compression.Checksum
import VarsAdvisor.Compression.Inflate

/-!
# Compressed data with a header

Compressed blocks stand behind a header, and a checksum of what they hold stands behind them. Data
that ends early gives the bytes up to there, and bytes behind the end are passed over.
-/

namespace VarsAdvisor.Compression

/-- A number of so many bytes, the lowest first. -/
def takeBytes (n : Nat) : BitReader Nat :=
  takeNumber (8 * n)

/-- A number of four bytes, the highest first. -/
def takeBigWord : BitReader Nat := do
  let a ← takeNumber 8
  let b ← takeNumber 8
  let c ← takeNumber 8
  let d ← takeNumber 8
  pure (((a * 256 + b) * 256 + c) * 256 + d)

/-- What was read before the data ended. -/
def upToEnd {α : Type} (early : α) : Except Halt α → Except Flaw α
  | .ok v => .ok v
  | .error .short => .ok early
  | .error (.flawed f) => .error f

/-- Blocks behind a header, with `trailer` checking what stands behind them. -/
def unpackBehind (header : BitReader Unit) (trailer : List UInt8 → BitReader Unit)
    (bs : List UInt8) : Except Flaw (List UInt8) :=
  match header.run (.ofBytes bs) with
  | .error h => upToEnd [] (.error h)
  | .ok (_, s) =>
    let (out, rest) := unpack s.bytes
    let out := out.toList
    upToEnd out (rest.bind fun s => (trailer out).run { s with begun := [] } |>.map fun _ => out)

/-! ## With a name and a time -/

/-- Passes over a text that ends with a zero; it is shorter than the limit. -/
def skipText : Nat → BitReader Unit
  | 0 => throw .short
  | limit + 1 => do
    let b ← takeBytes 1
    if b = 0 then pure () else skipText limit

/-- Passes over so many bytes. -/
def skipBytes (n : Nat) : BitReader Unit := fun s =>
  if n ≤ s.bytes.length then .ok ((), { s with bytes := s.bytes.drop n }) else .error .short

/-- The header: a mark, the method, flags, a time and a system, and what the flags say is there.
The last may be a checksum of the header. -/
def gzipHeader : BitReader Unit := do
  let whole := (← get).bytes
  let mark ← takeBytes 2
  if mark ≠ 0x8B1F then stopAt .header
  let method ← takeBytes 1
  let flags ← takeBytes 1
  if method ≠ 8 then stopAt .method
  if 0x20 ≤ flags then stopAt .headerFlags
  skipBytes 6
  if flags.testBit 2 then skipBytes (← takeBytes 2)
  if flags.testBit 3 then skipText (whole.length + 1)
  if flags.testBit 4 then skipText (whole.length + 1)
  if flags.testBit 1 then
    let seen := whole.take (whole.length - (← get).bytes.length)
    let given ← takeBytes 2
    if given ≠ (crc seen).toNat % 0x10000 then stopAt .headerChecksum

/-- The checksum and the length of the data. -/
def gzipTrailer (out : List UInt8) : BitReader Unit := do
  let sum ← takeBytes 4
  if sum ≠ (crc out).toNat then stopAt .checksum
  let length ← takeBytes 4
  if length ≠ out.length % 0x100000000 then stopAt .length

/-- Unpacks data with a name and a time. -/
def gunzip (bs : List UInt8) : Except Flaw (List UInt8) :=
  unpackBehind gzipHeader gzipTrailer bs

/-! ## With a short header, or with none -/

/-- The header: the method, how far back repeated bytes may stand, and flags that make it a multiple
of 31. It may ask for a dictionary. -/
def zlibHeader : BitReader Unit := do
  let first ← takeBytes 1
  let flags ← takeBytes 1
  if (first * 256 + flags) % 31 ≠ 0 then stopAt .header
  if first % 16 ≠ 8 then stopAt .method
  if 0x80 ≤ first then stopAt .window
  if flags.testBit 5 then
    let _ ← takeBytes 4
    stopAt .dictionary

/-- The checksum of the data. -/
def zlibTrailer (out : List UInt8) : BitReader Unit := do
  let sum ← takeBigWord
  if sum ≠ adler out then stopAt .checksum

/-- Unpacks data with a short header, or the same bytes as data without a header if that fails. -/
def unzip (bs : List UInt8) : Except Flaw (List UInt8) :=
  match unpackBehind zlibHeader zlibTrailer bs with
  | .ok out => .ok out
  | .error _ => unpackBehind (pure ()) (fun _ => pure ()) bs

end VarsAdvisor.Compression
