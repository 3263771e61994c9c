/-!
# Tables of characters with codes of two bytes

The characters of consecutive codes are written one after the other. A table has a row for each first
byte, or more than one where there are long gaps.
-/

namespace VarsAdvisor.Text

/-- Characters of consecutive codes with the same first byte, from a code on. A replacement character
stands where a code has none. -/
structure CellRow where
  start : Nat
  cells : String
  deriving Repr

/-- Consecutive characters of consecutive codes: the first code, the first character, how many. -/
structure CellRun where
  start : Nat
  first : Nat
  count : Nat
  deriving Repr

/-- The character of a code in a row. -/
def CellRow.at? (row : CellRow) (code : Nat) : Option Char :=
  if row.start ≤ code ∧ row.start / 256 = code / 256 then
    match row.cells.toList[code - row.start]? with
    | some c => if c = '\uFFFD' then none else some c
    | none => none
  else none

/-- The character of a code. -/
def cellAt? (rows : List CellRow) (code : Nat) : Option Char :=
  rows.findSome? fun row => row.at? code

/-- The character of a code in runs. -/
def runAt? (runs : List CellRun) (code : Nat) : Option Char :=
  runs.findSome? fun run =>
    if run.start ≤ code ∧ code < run.start + run.count then
      some (Char.ofNat (run.first + (code - run.start)))
    else none

end VarsAdvisor.Text
