import VarsAdvisor.Text.PrintableTable

/-!
# Printable characters

A character is printable when it is shown as itself: no control, no format character, no
separator but the space, and assigned.
-/

namespace VarsAdvisor.Text

/-- Shown as itself. -/
def isPrintable (c : Char) : Bool :=
  let n := c.toNat
  if n < 128 then 32 ≤ n && n < 127 else !inRanges n hiddenRanges

end VarsAdvisor.Text
