import VarsAdvisor.Text.WordTable

/-!
# Word characters

A word is made of letters, digits and other numbers of any script, and of underscores.
-/

namespace VarsAdvisor.Text

/-- A letter, a number or the underscore. -/
def isWord (c : Char) : Bool :=
  let n := c.toNat
  if n < 128 then
    (48 ≤ n && n ≤ 57) || (65 ≤ n && n ≤ 90) || n == 95 || (97 ≤ n && n ≤ 122)
  else inRanges n wordRanges

/-- A word character or a hyphen, as in the name of a lint rule. -/
def isRuleChar (c : Char) : Bool :=
  isWord c || c == '-'

end VarsAdvisor.Text
