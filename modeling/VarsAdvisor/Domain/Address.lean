import VarsAdvisor.Text.Search

/-!
# Addresses in numbers

The forms of addresses: four numbers between points, or eight groups of hexadecimal digits between
colons, of which one run of zeros may be left out and the last two may be four numbers.
-/

namespace VarsAdvisor.Domain

open VarsAdvisor.Text

/-- Digits up to 255, without zeros in front. -/
def isOctet (p : List Char) : Bool :=
  !p.isEmpty && p.all Char.isDigit && p.length ≤ 3 && (p.length == 1 || p.head? != some '0') &&
    p.foldl (fun n c => n * 10 + (c.toNat - 48)) 0 ≤ 255

/-- Four numbers between points. -/
def isIPv4 (cs : List Char) : Bool :=
  let parts := splitOn '.' cs
  parts.length == 4 && parts.all isOctet

/-- A hexadecimal digit. -/
def isHexDigit (c : Char) : Bool :=
  c.isDigit || ('a' ≤ c && c ≤ 'f') || ('A' ≤ c && c ≤ 'F')

/-- Up to four hexadecimal digits. -/
def isGroup (p : List Char) : Bool :=
  !p.isEmpty && p.all isHexDigit && p.length ≤ 4

/-- Whether an end of an address is as it may be: digits, or nothing where the zeros that are left
out are at that end. -/
def endFits (groups : List (List Char)) : Bool :=
  groups == [[]] || groups.all isGroup

/-- Groups of an address. The groups before and behind the zeros that are left out are at most seven;
without such zeros there are eight. -/
def areGroups (groups : List (List Char)) : Bool :=
  let inner := (groups.drop 1).dropLast
  match inner.findIdx? List.isEmpty with
  | none => groups.length == 8 && groups.all isGroup
  | some place =>
    let before := groups.take (place + 1)
    let behind := groups.drop (place + 2)
    let count (part : List (List Char)) : Nat := if part == [[]] then 0 else part.length
    endFits before && endFits behind && count before + count behind ≤ 7

/-- Eight groups between colons, with a zone behind a percent sign. -/
def isIPv6 (cs : List Char) : Bool :=
  let (address, zone) := cs.span (· != '%')
  let groups := splitOn ':' address
  let last := groups.getLastD []
  let expanded :=
    if last.contains '.' then
      if isIPv4 last then groups.dropLast ++ [['0'], ['0']] else [['.']]
    else groups
  (zone.isEmpty || (1 < zone.length && !(zone.drop 1).contains '%')) &&
    !cs.contains '/' && 3 ≤ groups.length && expanded.length ≤ 9 && areGroups expanded

/-- Runs of digits between single characters that are no digits; none if there are two such
characters in a row or one at an end. -/
def digitRuns? (cs : List Char) : Option (List Nat) :=
  let runs := splitOn '.' (cs.map fun c => if c.isDigit then c else '.')
  if runs.all (!·.isEmpty) then some (runs.map List.length) else none

/-- Four numbers with any one character between them; it can be a digit too. -/
def looksLikeIPv4 (cs : List Char) : Bool :=
  match digitRuns? cs with
  | none => false
  | some runs =>
    let inner := (runs.map fun n => (n - 1) / 2).foldl (· + ·) 0
    runs.length ≤ 4 && 4 ≤ runs.length + inner

end VarsAdvisor.Domain
