import VarsAdvisor.Compression.Huffman

/-!
# Compressed blocks

Compressed data is a row of blocks. A block holds its bytes as they are, or as words of two prefix
codes: one for bytes, for the lengths of what is repeated and for the end of the block, and one for
how far back it stands. The codes are fixed, or given at the start of the block.
-/

namespace VarsAdvisor.Compression

/-! ## Codes -/

/-- The two codes of a block. -/
structure BlockCodes where
  literals : PrefixCode
  distances : PrefixCode
  deriving Repr

/-- The codes that need not be given. -/
def fixedCodes : BlockCodes where
  literals := .ofLengths (List.replicate 144 8 ++ List.replicate 112 9 ++ List.replicate 24 7 ++
    List.replicate 8 8)
  distances := .ofLengths (List.replicate 32 5)

/-- The order in which the lengths of the words for lengths are given. -/
def lengthOrder : List Nat :=
  [16, 17, 18, 0, 8, 7, 9, 6, 10, 5, 11, 4, 12, 3, 13, 2, 14, 1, 15]

/-- Takes so many numbers of three bits. -/
def takeTriples : Nat → BitReader (List Nat)
  | 0 => pure []
  | n + 1 => do
    let first ← takeNumber 3
    let rest ← takeTriples n
    pure (first :: rest)

/-- The code for lengths. -/
def takeLengthCode (count : Nat) : BitReader PrefixCode := do
  let given ← takeTriples count
  let code := PrefixCode.ofLengths ((List.range 19).map fun symbol =>
    ((lengthOrder.zip given).lookup symbol).getD 0)
  if code.isComplete || code.isEmpty then pure code else stopAt .lengthCode

/-- The symbol of the next word for a length. In a code without words each bit is a zero. -/
def takeLengthSymbol (code : PrefixCode) : BitReader Nat := do
  if code.isEmpty then
    let _ ← takeBit
    pure 0
  else code.take .lengthCode

/-- Takes `wanted` lengths, `taken` of which are there in reverse order. A symbol is a length, or
says how often the last one or a zero comes again. Each symbol counts against the limit. -/
def takeLengths (code : PrefixCode) (wanted : Nat) : Nat → List Nat → BitReader (List Nat)
  | 0, taken => pure taken.reverse
  | limit + 1, taken => do
    if wanted ≤ taken.length then pure taken.reverse
    else
      let symbol ← takeLengthSymbol code
      if symbol < 16 then takeLengths code wanted limit (symbol :: taken)
      else
        let (width, least) := if symbol = 16 then (2, 3) else if symbol = 17 then (3, 3) else (7, 11)
        let more ← takeNumber width
        let again? := if symbol = 16 then taken.head? else some 0
        match again? with
        | none => stopAt .lengthRepeat
        | some again =>
          if wanted < taken.length + least + more then stopAt .lengthRepeat
          else takeLengths code wanted limit (List.replicate (least + more) again ++ taken)

/-- The codes at the start of a block. -/
def takeCodes : BitReader BlockCodes := do
  let literalCount := 257 + (← takeNumber 5)
  let distanceCount := 1 + (← takeNumber 5)
  let lengthCount := 4 + (← takeNumber 4)
  if 286 < literalCount ∨ 30 < distanceCount then stopAt .codeCount
  else
    let code ← takeLengthCode lengthCount
    let wanted := literalCount + distanceCount
    let lengths ← takeLengths code wanted wanted []
    let literals := PrefixCode.ofLengths (lengths.take literalCount)
    let distances := PrefixCode.ofLengths (lengths.drop literalCount)
    if lengths.getD 256 0 = 0 then stopAt .noEndCode
    else if !literals.isUsable then stopAt .literalCode
    else if !distances.isUsable then stopAt .distanceCode
    else pure ⟨literals, distances⟩

/-! ## Items -/

/-- What a word stands for. -/
inductive Item where
  | byte (b : UInt8)
  | again (length distance : Nat)
  | done
  deriving DecidableEq, Repr

/-- The least length of each symbol behind the end of a block, and the bits that are added to it. -/
def lengthSteps : List (Nat × Nat) := [
  (3, 0), (4, 0), (5, 0), (6, 0), (7, 0), (8, 0), (9, 0), (10, 0), (11, 1), (13, 1), (15, 1),
  (17, 1), (19, 2), (23, 2), (27, 2), (31, 2), (35, 3), (43, 3), (51, 3), (59, 3), (67, 4), (83, 4),
  (99, 4), (115, 4), (131, 5), (163, 5), (195, 5), (227, 5), (258, 0)]

/-- The least distance of each symbol, and the bits that are added to it. -/
def distanceSteps : List (Nat × Nat) := [
  (1, 0), (2, 0), (3, 0), (4, 0), (5, 1), (7, 1), (9, 2), (13, 2), (17, 3), (25, 3), (33, 4),
  (49, 4), (65, 5), (97, 5), (129, 6), (193, 6), (257, 7), (385, 7), (513, 8), (769, 8), (1025, 9),
  (1537, 9), (2049, 10), (3073, 10), (4097, 11), (6145, 11), (8193, 12), (12289, 12), (16385, 13),
  (24577, 13)]

/-- The number that a symbol begins. -/
def takeStep (steps : List (Nat × Nat)) (flaw : Flaw) (symbol : Nat) : BitReader Nat :=
  match steps[symbol]? with
  | some (least, width) => do
    let more ← takeNumber width
    pure (least + more)
  | none => stopAt flaw

/-- The next item of a block. -/
def takeItem (codes : BlockCodes) : BitReader Item := do
  let symbol ← codes.literals.take .literal
  if symbol < 256 then pure (.byte (UInt8.ofNat symbol))
  else if symbol = 256 then pure .done
  else
    let length ← takeStep lengthSteps .literal (symbol - 257)
    let place ← codes.distances.take .distance
    let distance ← takeStep distanceSteps .distance place
    pure (.again length distance)

/-! ## Blocks -/

/-- The bytes so far, and what is left to read or why nothing more can be read. -/
abbrev Unpacked := Array UInt8 × Except Halt Bits

/-- So many bytes from a distance back, one after the other: they may repeat themselves. -/
def copyBack (distance : Nat) : Nat → Array UInt8 → Array UInt8
  | 0, out => out
  | n + 1, out => copyBack distance n (out.push (out.getD (out.size - distance) 0))

/-- The items of a block up to its end, at most as many as the limit. -/
def unpackItems (codes : BlockCodes) : Nat → Array UInt8 → Bits → Unpacked
  | 0, out, _ => (out, .error .short)
  | limit + 1, out, s =>
    match takeItem codes s with
    | .error h => (out, .error h)
    | .ok (.byte b, s) => unpackItems codes limit (out.push b) s
    | .ok (.done, s) => (out, .ok s)
    | .ok (.again length distance, s) =>
      if distance ≤ out.size then unpackItems codes limit (copyBack distance length out) s
      else (out, .error (.flawed .tooFarBack))

/-- The length of bytes that are held as they are; it is given twice, the second time inverted. -/
def takeStoredLength : BitReader Nat := do
  skipToByte
  let length ← takeNumber 16
  let inverted ← takeNumber 16
  if length + inverted = 0xFFFF then pure length else stopAt .storedLength

/-- Bytes that are held as they are. -/
def unpackStored (out : Array UInt8) (s : Bits) : Unpacked :=
  match takeStoredLength s with
  | .error h => (out, .error h)
  | .ok (length, s) =>
    (out ++ (s.bytes.take length).toArray,
      if length ≤ s.bytes.length then .ok ⟨[], s.bytes.drop length⟩ else .error .short)

/-- The start of a block: whether it is the last, and its type. -/
def takeBlockStart : BitReader (Bool × Nat) := do
  let isLast ← takeBit
  let type ← takeNumber 2
  pure (isLast, type)

/-- A block of a type. An item takes a bit at least. -/
def unpackBlock (type : Nat) (out : Array UInt8) (s : Bits) : Unpacked :=
  match type with
  | 0 => unpackStored out s
  | 1 => unpackItems fixedCodes (s.count + 1) out s
  | 2 => match takeCodes s with
    | .error h => (out, .error h)
    | .ok (codes, s) => unpackItems codes (s.count + 1) out s
  | _ => (out, .error (.flawed .blockType))

/-- The blocks up to the last, at most as many as the limit. -/
def unpackBlocks : Nat → Array UInt8 → Bits → Unpacked
  | 0, out, _ => (out, .error .short)
  | limit + 1, out, s =>
    match takeBlockStart s with
    | .error h => (out, .error h)
    | .ok ((isLast, type), s) =>
      match unpackBlock type out s with
      | (out, .ok s) => if isLast then (out, .ok s) else unpackBlocks limit out s
      | halted => halted

/-- Unpacks blocks. A block takes three bits at least. -/
def unpack (bs : List UInt8) : Unpacked :=
  unpackBlocks (8 * bs.length + 1) #[] (.ofBytes bs)

end VarsAdvisor.Compression
