import VarsAdvisor.Charset.BigFive
import VarsAdvisor.Charset.Guobiao
import VarsAdvisor.Charset.Japanese
import VarsAdvisor.Charset.Korean
import VarsAdvisor.Charset.Shift

/-!
# Charsets of several bytes for a character

A reading takes one character after the other. What stands for no character is replaced, and so is a
sequence whose end is not there. Some charsets change their tables as they are read: `Mode` says
which table is in use.
-/

namespace VarsAdvisor.Text

/-- The charsets of several bytes for a character. -/
inductive EastAsian where
  | gb2312
  | gbk
  | gb18030
  | hz
  | big5
  | codePage950
  | eucKr
  | codePage949
  | iso2022Kr
  | shiftJis
  | codePage932
  | eucJp
  | iso2022Jp (tables : List Nat)
  deriving DecidableEq, Repr

/-- What stands at the start of some bytes: characters in so many bytes, so many bytes that are no
character, or the start of a sequence whose end is not there. -/
inductive Sequence where
  | chars (cs : List Char) (size : Nat)
  | wrong (size : Nat)
  | short
  deriving DecidableEq, Repr

namespace EastAsian

/-- A character of so many bytes, or one byte that is wrong. -/
def charOr (size : Nat) : Option Char → Sequence
  | some c => .chars [c] size
  | none => .wrong 1

/-- A byte of ASCII, or what `pair` makes of two bytes. -/
def pairStep (pair : Nat → Nat → Option Char) : List UInt8 → Sequence
  | [] => .short
  | a :: r =>
    if a < 0x80 then .chars [Char.ofNat a.toNat] 1
    else match r with
      | [] => .short
      | b :: _ => charOr 2 (pair a.toNat b.toNat)

/-! ## Chinese -/

/-- A code that GBK has and the first standard has not, although its bytes are in the range of that
standard. -/
def isLaterGuobiao (code : Nat) : Bool :=
  [(0xA2A1, 0xA2AA), (0xA6E0, 0xA6EB), (0xA6EE, 0xA6F2), (0xA6F4, 0xA6F5), (0xA8BB, 0xA8BB),
    (0xA8BD, 0xA8BE), (0xA8C0, 0xA8C0)].any fun (first, last) => first ≤ code && code ≤ last

/-- A character of GBK. -/
def gbkPair (a b : Nat) : Option Char :=
  cellAt? guobiaoRows (a * 256 + b)

/-- A character of the first standard, by a code whose bytes have the highest bit set. -/
def gb2312Pair (a b : Nat) : Option Char :=
  let code := a * 256 + b
  if code = 0xA1A4 then some '・'
  else if code = 0xA1AA then some '―'
  else if 0xA1 ≤ a ∧ a ≤ 0xF7 ∧ 0xA1 ≤ b ∧ !isLaterGuobiao code then gbkPair a b
  else none

/-- A character of the latest standard with a code of two bytes. -/
def gb18030Pair (a b : Nat) : Option Char :=
  (gbkPair a b).or (runAt? guobiaoRuns (a * 256 + b))

/-- The character of a place among the sequences of four bytes for the first plane. -/
def fourByteChar (place : Nat) : Option Char :=
  (fourByteStarts.reverse.find? fun (start, _) => start ≤ place).map fun (start, first) =>
    Char.ofNat (first + (place - start))

/-- A character of four bytes: two digits stand between two lead bytes. -/
def gb18030Quad (a b c d : Nat) : Option Char :=
  if a < 0x81 ∨ 0xFE < a ∨ c < 0x81 ∨ 0xFE < c ∨ d < 0x30 ∨ 0x39 < d then none
  else
    let tail := (c - 0x81) * 10 + (d - 0x30)
    let digit := b - 0x30
    if a - 0x81 < 4 then
      let place := ((a - 0x81) * 10 + digit) * 1260 + tail
      if place < 39420 then fourByteChar place else none
    else if 15 ≤ a - 0x81 then
      let code := 0x10000 + ((a - 0x81 - 15) * 10 + digit) * 1260 + tail
      if code ≤ 0x10FFFF then some (Char.ofNat code) else none
    else none

/-- The next character of the latest standard. -/
def gb18030Step : List UInt8 → Sequence
  | a :: b :: r =>
    if 0x80 ≤ a ∧ 0x30 ≤ b ∧ b ≤ 0x39 then
      match r with
      | c :: d :: _ => charOr 4 (gb18030Quad a.toNat b.toNat c.toNat d.toNat)
      | _ => .short
    else pairStep gb18030Pair (a :: b :: r)
  | bs => pairStep gb18030Pair bs

/-- A character of the code page 950. -/
def codePage950Pair (a b : Nat) : Option Char :=
  cellAt? bigFiveRows (a * 256 + b)

/-- The characters of Big5 that the code page 950 has otherwise. -/
def bigFiveOwn : List (Nat × Char) := [
  (0xA145, '•'), (0xA14E, '､'), (0xA1C2, '‾'), (0xA1E3, '∼'), (0xA1F2, '♁'), (0xA1F3, '☉'),
  (0xA241, '／'), (0xA242, '＼'), (0xA244, '¥'), (0xA246, '¢'), (0xA247, '£')]

/-- A character of Big5. -/
def big5Pair (a b : Nat) : Option Char :=
  let code := a * 256 + b
  match bigFiveOwn.lookup code with
  | some c => some c
  | none => if code = 0xA3E1 ∨ (0xF9D6 ≤ code ∧ code ≤ 0xF9FE) then none else codePage950Pair a b

/-! ## Korean -/

/-- A character of the code page 949. -/
def codePage949Pair (a b : Nat) : Option Char :=
  cellAt? koreanRows (a * 256 + b)

/-- A character of the standard, by a code whose bytes have the highest bit set. -/
def koreanPair (a b : Nat) : Option Char :=
  if 0xA1 ≤ a ∧ 0xA1 ≤ b then codePage949Pair a b else none

/-- The places of the first consonants of a syllable among the letters from `0xA1` on. -/
def firstConsonants : List (Option Nat) := [
  some 0, some 1, none, some 2, none, none, some 3, some 4, some 5, none, none, none, none, none,
  none, none, some 6, some 7, some 8, none, some 9, some 10, some 11, some 12, some 13, some 14,
  some 15, some 16, some 17, some 18]

/-- The places of the last consonants of a syllable among the letters from `0xA1` on. -/
def lastConsonants : List (Option Nat) := [
  some 1, some 2, some 3, some 4, some 5, some 6, some 7, none, some 8, some 9, some 10, some 11,
  some 12, some 13, some 14, some 15, some 16, some 17, none, some 18, some 19, some 20, some 21,
  some 22, none, some 23, some 24, some 25, some 26, some 27]

/-- A syllable made of a consonant, a vowel, and a consonant or the filler. -/
def syllable? (first vowel last : Nat) : Option Char := do
  let first ← if first < 0xA1 then none else (firstConsonants[first - 0xA1]?).join
  let vowel ← if 0xBF ≤ vowel ∧ vowel ≤ 0xD3 then some (vowel - 0xBF) else none
  let last ← if last = 0xD4 then some 0
    else if last < 0xA1 then none else (lastConsonants[last - 0xA1]?).join
  pure (Char.ofNat (0xAC00 + first * 588 + vowel * 28 + last))

/-- The next character in Korean; the letters of a syllable may stand behind a filler. -/
def eucKrStep : List UInt8 → Sequence
  | 0xA4 :: 0xD4 :: r =>
    match r with
    | a :: first :: b :: vowel :: c :: last :: _ =>
      if a = 0xA4 ∧ b = 0xA4 ∧ c = 0xA4 then
        charOr 8 (syllable? first.toNat vowel.toNat last.toNat)
      else .wrong 1
    | _ => .short
  | bs => pairStep koreanPair bs

/-! ## Japanese -/

/-- The pair of bytes in the range of ASCII, as a code, of a pair in shifted rows. -/
def unshifted? (a b : Nat) : Option Nat :=
  if b < 0x40 ∨ b = 0x7F ∨ 0xFC < b then none
  else
    let row := if a < 0xE0 then a - 0x81 else a - 0xC1
    let cell := if b < 0x80 then b - 0x40 else b - 0x41
    if cell < 0x5E then some ((2 * row + 0x21) * 256 + (cell + 0x21))
    else some ((2 * row + 0x22) * 256 + (cell - 0x5E + 0x21))

/-- The first byte of two in shifted rows. -/
def isShiftLead (a : UInt8) : Bool :=
  (0x81 ≤ a && a ≤ 0x9F) || (0xE0 ≤ a && a ≤ 0xFC)

/-- A character in shifted rows. -/
def shiftPair (a b : Nat) : Option Char :=
  (unshifted? a b).bind fun code => cellAt? japaneseRows code

/-- A character of the code page 932; it has room for characters of one's own. -/
def codePage932Pair (a b : Nat) : Option Char :=
  match cellAt? shiftRows (a * 256 + b) with
  | some c => some c
  | none =>
    if 0xF0 ≤ a ∧ a ≤ 0xF9 then
      if b < 0x40 ∨ b = 0x7F ∨ 0xFC < b then none
      else some (Char.ofNat (0xE000 + 188 * (a - 0xF0) + (if b < 0x80 then b - 0x40 else b - 0x41)))
    else shiftPair a b

/-- The next character in shifted rows. -/
def shiftStep (pair : Nat → Nat → Option Char) : List UInt8 → Sequence
  | [] => .short
  | a :: r =>
    if a < 0x80 then .chars [Char.ofNat a.toNat] 1
    else if 0xA1 ≤ a ∧ a ≤ 0xDF then .chars [Char.ofNat (0xFEC0 + a.toNat)] 1
    else if isShiftLead a then
      match r with
      | [] => .short
      | b :: _ => charOr 2 (pair a.toNat b.toNat)
    else .wrong 1

/-- The bytes outside of the code page's pairs that are characters. -/
def codePage932Single : List (UInt8 × Char) := [
  (0x80, '\u0080'), (0xA0, '\uF8F0'), (0xFD, '\uF8F1'), (0xFE, '\uF8F2'), (0xFF, '\uF8F3')]

/-- The next character of the code page 932. -/
def codePage932Step (bs : List UInt8) : Sequence :=
  match bs.head?.bind fun a => codePage932Single.lookup a with
  | some c => .chars [c] 1
  | none => shiftStep codePage932Pair bs

/-- A character of the first table, by bytes with the highest bit set. -/
def eucPair (a b : Nat) : Option Char :=
  if 0x80 ≤ a ∧ 0x80 ≤ b then cellAt? japaneseRows ((a - 0x80) * 256 + (b - 0x80)) else none

/-- A character of the second table, by bytes with the highest bit set. -/
def eucMorePair (a b : Nat) : Option Char :=
  if 0x80 ≤ a ∧ 0x80 ≤ b then cellAt? japaneseMoreRows ((a - 0x80) * 256 + (b - 0x80)) else none

/-- The next character in Japanese; a byte before it may say that it is a narrow one or one of the
second table. -/
def eucJpStep : List UInt8 → Sequence
  | 0x8E :: b :: _ =>
    charOr 2 (if 0xA1 ≤ b ∧ b ≤ 0xDF then some (Char.ofNat (0xFEC0 + b.toNat)) else none)
  | 0x8F :: b :: c :: _ => charOr 3 (eucMorePair b.toNat c.toNat)
  | [0x8F, _] => .short
  | bs => pairStep eucPair bs

/-! ## Tables in use -/

/-- The tables that escape sequences put in use, with the byte that names them. Those of two bytes
come after `0x80`. -/
def tableAscii : Nat := 0x42

/-- What is in use: the two tables, whether the second one is, and whether an unknown escape sequence
is being read. -/
structure Mode where
  first : Nat
  second : Nat
  isShifted : Bool
  isEscape : Bool
  deriving DecidableEq, Repr

/-- At the start of a text. -/
def Mode.initial : Mode := ⟨tableAscii, tableAscii, false, false⟩

/-- The size of the characters of a table. -/
def tableWidth (table : Nat) : Nat :=
  if 0x80 ≤ table then 2 else 1

/-- The character of a byte or two in a table. -/
def tableChar (table a b : Nat) : Option Char :=
  if table = 0xC2 ∨ table = 0xC0 then cellAt? japaneseRows (a * 256 + b)
  else if table = 0xC4 then cellAt? japaneseMoreRows (a * 256 + b)
  else if table = 0xC3 then
    if a < 0x80 ∧ b < 0x80 then koreanPair (a + 0x80) (b + 0x80) else none
  else if table = 0x4A then
    if a = 0x5C then some '¥' else if a = 0x7E then some '‾' else some (Char.ofNat a)
  else if table = 0x49 then
    if 0x21 ≤ a ∧ a ≤ 0x5F then some (Char.ofNat (0xFF40 + a)) else none
  else none

/-- The end of an escape sequence. -/
def endsEscape (b : UInt8) : Bool :=
  (0x41 ≤ b && b ≤ 0x5A) || b == 0x40

/-- The length of the escape sequence at the start, if its end is among the next bytes; `none` if
there are not enough. A sequence may hold another one behind `&@`. -/
def escapeLength (nests : Bool) (bs : List UInt8) : Nat → Nat → Option (Option Nat)
  | 0, _ => some none
  | limit + 1, place =>
    if 16 ≤ place then some none
    else match bs[place]? with
      | none => none
      | some b =>
        if endsEscape b then some (some (place + 1))
        else if nests && b == 0x26 && bs[place + 1]? == some 0x40 then
          escapeLength nests bs limit (place + 3)
        else escapeLength nests bs limit (place + 1)

/-- The table that an escape sequence names, and whether it is the second one. -/
def escapeTable? (nests : Bool) : List UInt8 → Option (Nat × Bool)
  | [_, a, t] =>
    if a = 0x24 then some (t.toNat + 0x80, false)
    else if a = 0x28 then some (t.toNat, false)
    else if a = 0x29 then some (t.toNat, true)
    else none
  | [_, a, b, t] =>
    if a ≠ 0x24 then none
    else if b = 0x28 then some (t.toNat + 0x80, false)
    else if b = 0x29 then some (t.toNat + 0x80, true)
    else none
  | [_, _, _, a, b, t] =>
    if nests ∧ a = 0x1B ∧ b = 0x24 ∧ t = 0x42 then some (0xC2, false) else none
  | _ => none

/-- An escape sequence: it puts one of the charset's tables in use. -/
def escapeStep (tables : List Nat) (nests : Bool) (m : Mode) (bs : List UInt8) : Mode × Sequence :=
  match escapeLength nests bs 16 1 with
  | none => (m, .short)
  | some none => (m, .wrong 1)
  | some (some size) =>
    match escapeTable? nests (bs.take size) with
    | some (table, isSecond) =>
      if table = tableAscii ∨ tables.contains table then
        (if isSecond then { m with second := table } else { m with first := table },
          .chars [] size)
      else (m, .wrong size)
    | none => (m, .wrong size)

/-- A byte as the character of its number. -/
def byteStep (b : UInt8) : Sequence :=
  .chars [Char.ofNat b.toNat] 1

/-- The next character of a text with escape sequences, in the tables that a charset may use. -/
def modeStep (tables : List Nat) (shifts nests : Bool) (m : Mode) : List UInt8 → Mode × Sequence
  | [] => (m, .short)
  | b :: r =>
    if m.isEscape then ({ m with isEscape := !endsEscape b }, byteStep b)
    else if b = 0x1B then
      match r with
      | [] => (m, .short)
      | c :: _ =>
        if [0x28, 0x29, 0x24, 0x2E, 0x26].contains c then escapeStep tables nests m (b :: r)
        else ({ m with isEscape := true }, byteStep b)
    else if shifts && b == 0x0F then ({ m with isShifted := false }, .chars [] 1)
    else if shifts && b == 0x0E then ({ m with isShifted := true }, .chars [] 1)
    else if b = 0x0A then ({ m with isShifted := false }, byteStep b)
    else if b < 0x20 then (m, byteStep b)
    else if 0x80 ≤ b then (m, .wrong 1)
    else
      let table := if m.isShifted then m.second else m.first
      if table = tableAscii then (m, byteStep b)
      else
        let width := tableWidth table
        if width = 2 ∧ r = [] then (m, .short)
        else match tableChar table b.toNat ((r.head?.map UInt8.toNat).getD 0) with
          | some c => (m, .chars [c] width)
          | none => (m, .wrong width)

/-- The next character of a text with braces behind tildes; the first table of Chinese is in use
between them. -/
def hzStep (m : Mode) : List UInt8 → Mode × Sequence
  | [] => (m, .short)
  | 0x7E :: r =>
    match r with
    | [] => (m, .short)
    | b :: _ =>
      if b = 0x7E ∧ !m.isShifted then (m, .chars ['~'] 2)
      else if b = 0x7B ∧ !m.isShifted then ({ m with isShifted := true }, .chars [] 2)
      else if b = 0x0A ∧ !m.isShifted then (m, .chars [] 2)
      else if b = 0x7D ∧ m.isShifted then ({ m with isShifted := false }, .chars [] 2)
      else (m, .wrong 1)
  | b :: r =>
    if 0x80 ≤ b then (m, .wrong 1)
    else if !m.isShifted then (m, byteStep b)
    else match r with
      | [] => (m, .short)
      | c :: _ =>
        (m, charOr 2 (if c < 0x80 then gb2312Pair (b.toNat + 0x80) (c.toNat + 0x80) else none))

/-! ## Texts -/

/-- The next character of a charset. -/
def step (charset : EastAsian) (m : Mode) (bs : List UInt8) : Mode × Sequence :=
  match charset with
  | .gb2312 => (m, pairStep gb2312Pair bs)
  | .gbk => (m, pairStep gbkPair bs)
  | .gb18030 => (m, gb18030Step bs)
  | .hz => hzStep m bs
  | .big5 => (m, pairStep big5Pair bs)
  | .codePage950 => (m, pairStep codePage950Pair bs)
  | .eucKr => (m, eucKrStep bs)
  | .codePage949 => (m, pairStep codePage949Pair bs)
  | .iso2022Kr => modeStep [0xC3] true false m bs
  | .shiftJis => (m, shiftStep shiftPair bs)
  | .codePage932 => (m, codePage932Step bs)
  | .eucJp => (m, eucJpStep bs)
  | .iso2022Jp tables => modeStep tables false true m bs

/-- The characters of some bytes, at most as many sequences as the limit; `none` if more bytes are
left over at the end than a sequence may have. -/
def decodeFrom (charset : EastAsian) : Nat → Mode → List UInt8 → Option (List Char)
  | 0, _, _ => some []
  | _ + 1, _, [] => some []
  | limit + 1, m, bs =>
    match charset.step m bs with
    | (m, .chars cs size) => (decodeFrom charset limit m (bs.drop size)).map (cs ++ ·)
    | (m, .wrong size) => (decodeFrom charset limit m (bs.drop size)).map ('\uFFFD' :: ·)
    | (_, .short) => if bs.length ≤ 8 then some ['\uFFFD'] else none

/-- The characters of some bytes. A sequence takes a byte at least. -/
def decode (charset : EastAsian) (bs : List UInt8) : Option (List Char) :=
  decodeFrom charset bs.length .initial bs

end EastAsian

end VarsAdvisor.Text
