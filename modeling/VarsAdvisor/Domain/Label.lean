import VarsAdvisor.Domain.LabelTable
import VarsAdvisor.Domain.ScriptTable
import VarsAdvisor.Domain.Punycode
import VarsAdvisor.Text.Canonical
import VarsAdvisor.Text.Ranges

/-!
# Labels of host names

A label of an international host name is in canonical form, has its hyphens in the right places,
holds only characters that may stand where they stand, and reads in one direction. `isLabel` tells
whether it does; `Label.encode?` writes it in ASCII.
-/

namespace VarsAdvisor.Domain

open VarsAdvisor.Text

/-- The kind of a character of labels. -/
def kind? (c : Char) : Option CharKind :=
  labelRows.findSome? fun rows =>
    (rows.find? fun (first, last, _) => first ≤ c.toNat && c.toNat ≤ last).map (·.2.2)

/-- A character in the given ranges. -/
def isIn (ranges : List (Nat × Nat)) (c : Char) : Bool :=
  inRanges c.toNat ranges

/-! ## Context -/

/-- A mark that kills a vowel. -/
def isVirama (c : Char) : Bool :=
  combiningClass c.toNat == 9

/-- Characters on both sides of this one are joined. -/
def isJoinedThrough (c : Char) : Bool :=
  (kind? c == some .mark && !isIn notJoinedThrough c) || isIn joinedThrough c

/-- The first character that is not joined through is in one of the ranges. -/
def joins (ranges : List (List (Nat × Nat))) (cs : List Char) : Bool :=
  match cs.dropWhile isJoinedThrough with
  | [] => false
  | c :: _ => ranges.any fun r => isIn r c

/-- A digit of the Arabic script. -/
def isArabicDigit (c : Char) : Bool :=
  0x660 ≤ c.toNat && c.toNat ≤ 0x669

/-- A digit of the extended Arabic script. -/
def isExtendedDigit (c : Char) : Bool :=
  0x6F0 ≤ c.toNat && c.toNat ≤ 0x6F9

/-- A character may stand behind `before`, which is in reverse, and before `after`. -/
def fits (before : List Char) (c : Char) (after : List Char) : Bool :=
  let label := before.reverse ++ c :: after
  match c.toNat with
  | 0x200C => before.head?.any isVirama ||
      (joins [leftJoining, dualJoining] before && joins [rightJoining, dualJoining] after)
  | 0x200D => before.head?.any isVirama
  | 0xB7 => before.head? == some 'l' && after.head? == some 'l'
  | 0x375 => after.head?.any (isIn greek)
  | 0x5F3 => before.head?.any (isIn hebrew)
  | 0x5F4 => before.head?.any (isIn hebrew)
  | 0x30FB => label.any (isIn japanese)
  | _ =>
    if isArabicDigit c then !label.any isExtendedDigit
    else if isExtendedDigit c then !label.any isArabicDigit
    else (kind? c).isSome

/-- All characters may stand where they stand. -/
def allFit (before : List Char) : List Char → Bool
  | [] => true
  | c :: after => fits before c after && allFit (c :: before) after

/-! ## Direction -/

/-- A kind of characters that read from right to left. -/
def CharKind.isRightward : CharKind → Bool
  | .right | .arabic | .arabicNumber => true
  | _ => false

/-- A label that has characters from right to left starts with a letter of them and ends with one or
with a number, marks apart; it holds no letters from left to right and numbers of one kind only. -/
def hasOneDirection (kinds : List CharKind) : Bool :=
  if kinds.any CharKind.isRightward then
    let starts := kinds.head?.any fun k => k == .right || k == .arabic
    let ends := (kinds.reverse.dropWhile (· == .mark)).head?.any fun k =>
      k.isRightward || k == .number
    starts && ends && !kinds.contains .letter && !kinds.contains .spacing &&
      !(kinds.contains .number && kinds.contains .arabicNumber)
  else true

/-! ## Labels -/

/-- Hyphens stand neither at an end nor in the third and fourth place. -/
def hyphensFit (cs : List Char) : Bool :=
  cs.head? != some '-' && cs.getLast? != some '-' && (cs.drop 2).take 2 != ['-', '-']

/-- A text that can be a label. -/
def isLabel (cs : List Char) : Bool :=
  let kinds := cs.filterMap kind?
  !cs.isEmpty && isCanonical cs && hyphensFit cs &&
    kinds.head?.any (fun k => k != .mark && k != .spacing) && allFit [] cs && hasOneDirection kinds

/-- The mark of labels that are encoded. -/
def encodedMark : List Char := ['x', 'n', '-', '-']

/-- A label of ASCII that stands for itself or encodes a label. -/
def isAsciiLabel (cs : List Char) : Bool :=
  if encodedMark.isPrefixOf cs then
    let code := cs.drop 4
    !code.isEmpty && code.getLast? != some '-' && (Punycode.decode? code).any isLabel
  else isLabel cs

/-- A label in ASCII; at most 63 characters. -/
def encodeLabel? (cs : List Char) : Option (List Char) :=
  let isAscii := cs.all fun c => c.toNat < 128
  let encoded := if isAscii then cs else encodedMark ++ Punycode.encode cs
  if (if isAscii then isAsciiLabel cs else isLabel cs) && encoded.length ≤ 63 then some encoded
  else none

/-- A point between labels, in one of its widths. -/
def isLabelEnd (c : Char) : Bool :=
  c == '.' || c == '。' || c == '．' || c == '｡'

/-- The labels of a name; there is one more than points. -/
def labelsOf : List Char → List (List Char)
  | [] => [[]]
  | c :: rest =>
    if isLabelEnd c then [] :: labelsOf rest
    else match labelsOf rest with
      | label :: more => (c :: label) :: more
      | [] => [[c]]

/-- A name in ASCII: at most 253 characters before a point that may end it. -/
def encodeName? (name : List Char) : Option (List Char) := do
  let labels := labelsOf name
  let closed := 1 < labels.length && labels.getLast? == some []
  let encoded ← (if closed then labels.dropLast else labels).mapM encodeLabel?
  let text := ['.'].intercalate encoded
  if 253 < text.length then none
  else some (if closed then text ++ ['.'] else text)

end VarsAdvisor.Domain
