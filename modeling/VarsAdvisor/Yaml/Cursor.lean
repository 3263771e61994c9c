/-!
# Reading positions

A cursor is a position in a text together with what is left of the text, its line and its column.
A line ends at a line feed, or at a carriage return that no line feed follows. Behind the end the
text is read as `U+0000`, which no text holds. A text comes in pieces, and one with a character that
no text may hold is refused as soon as the piece with this character is needed.
-/

namespace VarsAdvisor.Yaml

/-- The character that stands for the end of the text. -/
def endMark : Char := '\x00'

/-- A position in a text. -/
structure Cursor where
  rest : List Char
  index : Nat
  line : Nat
  column : Nat
  deriving Repr

namespace Cursor

/-- The start of a text. -/
def start (text : List Char) : Cursor :=
  ⟨text, 0, 0, 0⟩

/-- Behind one more character. A byte-order mark takes no column. -/
def next (c : Cursor) : Cursor :=
  match c.rest with
  | [] => c
  | x :: r =>
    if x = '\n' ∨ (x = '\r' ∧ r.head? ≠ some '\n') then ⟨r, c.index + 1, c.line + 1, 0⟩
    else if x = '\uFEFF' then ⟨r, c.index + 1, c.line, c.column⟩
    else ⟨r, c.index + 1, c.line, c.column + 1⟩

/-- Behind `n` more characters. -/
def advance (c : Cursor) : Nat → Cursor
  | 0 => c
  | n + 1 => c.next.advance n

/-- The next character. -/
def peek (c : Cursor) : Char :=
  c.rest.headD endMark

/-- The character after `k` others. -/
def peekAt (c : Cursor) (k : Nat) : Char :=
  c.rest.getD k endMark

/-- The longest run of characters in a class from here on. -/
def span (c : Cursor) (p : Char → Bool) : List Char :=
  c.rest.takeWhile p

/-- Behind the longest run of characters in a class. -/
def skip (c : Cursor) (p : Char → Bool) : Cursor :=
  c.advance (c.span p).length

end Cursor

/-- Line and column, from zero, at an offset into a text. -/
def position (text : List Char) (offset : Nat) : Nat × Nat :=
  let c := (Cursor.start text).advance offset
  (c.line, c.column)

/-! ## Classes of characters -/

/-- A space or a tab. -/
def isSpaceOrTab (c : Char) : Bool :=
  c == ' ' || c == '\t'

/-- A line break, the line and paragraph separators included. -/
def isBreak (c : Char) : Bool :=
  c == '\n' || c == '\r' || c == '\x85' || c == '\u2028' || c == '\u2029'

/-- What a line break is read as. The line and paragraph separators stay what they are. -/
def breakChar (c : Char) : Char :=
  if c == '\u2028' || c == '\u2029' then c else '\n'

/-- The end of a line or of the text. -/
def isEnd (c : Char) : Bool :=
  isBreak c || c == endMark

/-- The end of a line or of the text, a space or a tab. -/
def isGap (c : Char) : Bool :=
  isEnd c || c == ' ' || c == '\t'

/-- One of the characters of a string. -/
def isOneOf (chars : String) (c : Char) : Bool :=
  chars.toList.contains c

/-- An ASCII letter or digit. -/
def isAlphanumeric (c : Char) : Bool :=
  ('0' ≤ c && c ≤ '9') || ('A' ≤ c && c ≤ 'Z') || ('a' ≤ c && c ≤ 'z')

/-- A digit of ASCII. -/
def isNumeric (c : Char) : Bool :=
  '0' ≤ c && c ≤ '9'

/-- A hexadecimal digit. -/
def isHex (c : Char) : Bool :=
  isNumeric c || ('A' ≤ c && c ≤ 'F') || ('a' ≤ c && c ≤ 'f')

/-- A character that a text may hold. -/
def isAcceptable (c : Char) : Bool :=
  let n := c.toNat
  n == 9 || n == 10 || n == 13 || (0x20 ≤ n && n ≤ 0x7E) || n == 0x85 ||
    (0xA0 ≤ n && n ≤ 0xD7FF) || (0xE000 ≤ n && n ≤ 0xFFFD) || 0x10000 ≤ n

/-- The length of a piece of text. -/
def pieceLength : Nat := 4096

/-- Where the piece with an offset starts. The first two pieces come together. -/
def pieceStart (offset : Nat) : Nat :=
  if offset < 2 * pieceLength then 0 else offset / pieceLength * pieceLength

/-- The first character that a text may not hold, and where its piece starts. -/
def intruder? (text : List Char) : Option (Nat × Char) :=
  let clean := text.takeWhile isAcceptable
  (text[clean.length]?).map fun c => (pieceStart clean.length, c)

/-- A character of the name of an anchor: visible, and no flow indicator. -/
def isAnchorChar (c : Char) : Bool :=
  let n := c.toNat
  !isOneOf ",[]\x7b\x7d" c &&
    ((0x21 ≤ n && n ≤ 0x7E) || (0xA0 ≤ n && n ≤ 0xD7FF) ||
      (0xE000 ≤ n && n ≤ 0xFFFD && n != 0xFEFF) || 0x10000 ≤ n)

namespace Cursor

/-- Three times the same character here, and a gap after it: a separator of documents. -/
def atSeparatorOf (c : Cursor) (mark : Char) : Bool :=
  c.peek == mark && c.peekAt 1 == mark && c.peekAt 2 == mark && isGap (c.peekAt 3)

/-- A document's start or end mark, wherever in the line. -/
def atSeparator (c : Cursor) : Bool :=
  c.atSeparatorOf '-' || c.atSeparatorOf '.'

/-- Behind one line break, if one is here. -/
def afterBreak? (c : Cursor) : Option Cursor :=
  if c.peek = '\r' ∧ c.peekAt 1 = '\n' then some (c.advance 2)
  else if isBreak c.peek then some c.next
  else none

/-- Behind one line break, or here. -/
def skipBreak (c : Cursor) : Cursor :=
  c.afterBreak?.getD c

end Cursor

end VarsAdvisor.Yaml
