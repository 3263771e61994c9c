/-!
# Bits

Bytes read bit by bit, the lowest bit of each byte first. A reading stops where the bytes end, or at
a flaw.
-/

namespace VarsAdvisor.Compression

/-- What is wrong with compressed data. -/
inductive Flaw where
  | header
  | method
  | window
  | headerFlags
  | headerChecksum
  | blockType
  | storedLength
  | codeCount
  | lengthCode
  | lengthRepeat
  | noEndCode
  | literalCode
  | distanceCode
  | literal
  | distance
  | tooFarBack
  | checksum
  | length
  | dictionary
  deriving DecidableEq, Repr

/-- The words for a flaw; there are none for a dictionary that is not there. -/
def Flaw.words : Flaw → String
  | .header => "incorrect header check"
  | .method => "unknown compression method"
  | .window => "invalid window size"
  | .headerFlags => "unknown header flags set"
  | .headerChecksum => "header crc mismatch"
  | .blockType => "invalid block type"
  | .storedLength => "invalid stored block lengths"
  | .codeCount => "too many length or distance symbols"
  | .lengthCode => "invalid code lengths set"
  | .lengthRepeat => "invalid bit length repeat"
  | .noEndCode => "invalid code -- missing end-of-block"
  | .literalCode => "invalid literal/lengths set"
  | .distanceCode => "invalid distances set"
  | .literal => "invalid literal/length code"
  | .distance => "invalid distance code"
  | .tooFarBack => "invalid distance too far back"
  | .checksum => "incorrect data check"
  | .length => "incorrect length check"
  | .dictionary => ""

/-- The message about a flaw. -/
def Flaw.message : Flaw → String
  | .dictionary => "Error 2 while decompressing data"
  | f => s!"Error -3 while decompressing data: {f.words}"

/-- Why a reading stops early: the bytes end, or they have a flaw. -/
inductive Halt where
  | short
  | flawed (f : Flaw)
  deriving DecidableEq, Repr

/-- What is left to read: the bits of a byte that was begun, and the bytes behind it. -/
structure Bits where
  begun : List Bool
  bytes : List UInt8
  deriving DecidableEq, Repr

/-- A reading of bits. -/
abbrev BitReader := StateT Bits (Except Halt)

/-- The bits of a byte, the lowest first. -/
def bitsOf (b : UInt8) : List Bool :=
  (List.range 8).map b.toNat.testBit

namespace Bits

/-- Bytes of which nothing was read. -/
def ofBytes (bs : List UInt8) : Bits := ⟨[], bs⟩

/-- How many bits are left. -/
def count (s : Bits) : Nat :=
  s.begun.length + 8 * s.bytes.length

/-- The next bit. -/
def next? (s : Bits) : Option (Bool × Bits) :=
  match s.begun, s.bytes with
  | b :: r, bs => some (b, ⟨r, bs⟩)
  | [], b :: bs => match bitsOf b with
    | first :: r => some (first, ⟨r, bs⟩)
    | [] => none
  | [], [] => none

end Bits

/-- Takes the next bit. -/
def takeBit : BitReader Bool := fun s =>
  match s.next? with
  | some taken => .ok taken
  | none => .error .short

/-- Takes a number of so many bits, the lowest first. -/
def takeNumber : Nat → BitReader Nat
  | 0 => pure 0
  | n + 1 => do
    let bit ← takeBit
    let rest ← takeNumber n
    pure (bit.toNat + 2 * rest)

/-- Passes over what is left of a byte that was begun. -/
def skipToByte : BitReader Unit :=
  modify fun s => { s with begun := [] }

/-- Stops at a flaw. -/
def stopAt {α : Type} (f : Flaw) : BitReader α :=
  throw (.flawed f)

end VarsAdvisor.Compression
