/-!
# Blank characters

`isBlank` is the Unicode notion of white space, the four separators `U+001C`…`U+001F` included;
the zero-width space and the byte-order mark are not blank. `trim` removes blanks at both ends.
-/

namespace VarsAdvisor.Text

/-- White space: tab to carriage return, the information separators, the space, next line, the
no-break space and the space separators of the higher planes. -/
def isBlank (c : Char) : Bool :=
  let n := c.toNat
  (9 ≤ n && n ≤ 13) || (28 ≤ n && n ≤ 32) || n == 0x85 || n == 0xA0 || n == 0x1680 ||
    (0x2000 ≤ n && n ≤ 0x200A) || n == 0x2028 || n == 0x2029 || n == 0x202F || n == 0x205F ||
    n == 0x3000

/-- Blank, and no information separator: what may stand around a number. -/
def isPadding (c : Char) : Bool :=
  isBlank c && !(28 ≤ c.toNat && c.toNat ≤ 31)

/-- Without the elements at the end that satisfy `p`. -/
def dropTrailing {α : Type} (p : α → Bool) (cs : List α) : List α :=
  (cs.reverse.dropWhile p).reverse

/-- Without leading blanks. -/
def trimStart (cs : List Char) : List Char :=
  cs.dropWhile isBlank

/-- Without trailing blanks. -/
def trimEnd (cs : List Char) : List Char :=
  dropTrailing isBlank cs

/-- Without leading and trailing blanks. -/
def trim (cs : List Char) : List Char :=
  trimEnd (trimStart cs)

/-- Without padding at both ends. -/
def trimPadding (cs : List Char) : List Char :=
  dropTrailing isPadding (cs.dropWhile isPadding)

/-- `trim` on strings. -/
def trimmed (s : String) : String :=
  String.ofList (trim s.toList)

/-- Nothing but blanks. -/
def isBlankText (s : String) : Bool :=
  s.toList.all isBlank

end VarsAdvisor.Text
