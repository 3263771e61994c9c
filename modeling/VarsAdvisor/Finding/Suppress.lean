import VarsAdvisor.Finding.Basic
import VarsAdvisor.Text.Lower
import VarsAdvisor.Text.Search

/-!
# Suppressed findings

A finding whose message mentions a suppressed keyword, in whatever case, is not shown.
-/

namespace VarsAdvisor.Finding

open VarsAdvisor.Text

/-- Keywords of findings about the layout of blanks, which an editor's formatter takes care of. -/
def layoutKeywords : List String := ["indent", "indented", "align"]

/-- The message mentions one of the keywords. -/
def mentions (keywords : List String) (f : Finding) : Bool :=
  keywords.any fun k => occurs (lower k.toList) (lower f.message.faces)

/-- The findings that are shown, and how many are not. -/
def suppress (keywords : List String) (fs : List Finding) : List Finding × Nat :=
  (fs.filter fun f => !f.mentions keywords, fs.countP fun f => f.mentions keywords)

end VarsAdvisor.Finding
