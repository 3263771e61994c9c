/-!
# Lines of a text

A line ends at any of the Unicode line boundaries; a carriage return and a line feed in a row are
one break. `splitLines` cuts a text into its lines, and a break at the very end opens no further
line. `unifyBreaks` is what reading a file as text does: each `\r\n` and each `\r` becomes `\n`.
-/

namespace VarsAdvisor.Text

/-- Line feed, vertical tab, form feed, carriage return, file, group and record separator, next
line, line separator and paragraph separator. -/
def isLineBreak (c : Char) : Bool :=
  let n := c.toNat
  (10 ≤ n && n ≤ 13) || (28 ≤ n && n ≤ 30) || n == 0x85 || n == 0x2028 || n == 0x2029

/-- Puts a character in front of the first line. -/
def consToFirst (c : Char) : List (List Char) → List (List Char)
  | [] => [[c]]
  | l :: ls => (c :: l) :: ls

/-- The lines of a text, without their breaks. -/
def splitLines : List Char → List (List Char)
  | [] => []
  | '\r' :: '\n' :: r => [] :: splitLines r
  | c :: r => if isLineBreak c then [] :: splitLines r else consToFirst c (splitLines r)

/-- The lines of a string. -/
def lines (s : String) : List String :=
  (splitLines s.toList).map String.ofList

/-- Every `\r\n` and every `\r` read as `\n`. -/
def unifyBreaks : List Char → List Char
  | [] => []
  | '\r' :: '\n' :: r => '\n' :: unifyBreaks r
  | c :: r => (if c = '\r' then '\n' else c) :: unifyBreaks r

end VarsAdvisor.Text
