/-!
# Checksums

`crc` is the remainder of the bytes as a polynomial over bits, `adler` the sum of the bytes and the
sum of these sums, both modulo a prime.
-/

namespace VarsAdvisor.Compression

/-- The polynomial of the remainder, the highest power in the lowest bit. -/
def crcPolynomial : UInt32 := 0xEDB88320

/-- Divides so many bits. -/
def crcBits : Nat → UInt32 → UInt32
  | 0, c => c
  | n + 1, c => crcBits n (if c &&& 1 = 1 then (c >>> 1) ^^^ crcPolynomial else c >>> 1)

/-- The remainder with one more byte. -/
def crcByte (c : UInt32) (b : UInt8) : UInt32 :=
  crcBits 8 (c ^^^ b.toUInt32)

/-- The remainder of some bytes; it starts with ones and is inverted at the end. -/
def crc (bs : List UInt8) : UInt32 :=
  bs.foldl crcByte 0xFFFFFFFF ^^^ 0xFFFFFFFF

/-- The prime of the sums. -/
def adlerPrime : Nat := 65521

/-- The two sums of some bytes, the second in the upper half. -/
def adler (bs : List UInt8) : Nat :=
  let (first, second) := bs.foldl (fun (a, b) byte =>
    let a := (a + byte.toNat) % adlerPrime
    (a, (b + a) % adlerPrime)) (1, 0)
  second * 0x10000 + first

end VarsAdvisor.Compression
