import VarsAdvisor.Text.Quoted
import VarsAdvisor.Text.Search

/-!
# Paths

A path is a list of components with or without a root. Empty components and single points are
dropped when a path is read; a double point is kept, since only resolving a path may remove it.
-/

namespace VarsAdvisor

open VarsAdvisor.Text

/-- A path to a file or directory. `root` is empty for a relative path. -/
structure Path where
  root : String
  parts : List String
  deriving DecidableEq, Repr

namespace Path

/-- Two slashes at the start, and no third, are a root of their own. -/
def rootOf : List Char → String
  | '/' :: '/' :: '/' :: _ => "/"
  | '/' :: '/' :: _ => "//"
  | '/' :: _ => "/"
  | _ => ""

/-- The components of a text. -/
def partsOf (cs : List Char) : List String :=
  ((splitOn '/' cs).filter fun p => p != [] && p != ['.']).map String.ofList

/-- Reads a path. -/
def ofText (s : String) : Path :=
  ⟨rootOf s.toList, partsOf s.toList⟩

/-- The path as text; the empty relative path is a point. -/
def text (p : Path) : String :=
  let body := p.root ++ joined "/" p.parts
  if body = "" then "." else body

/-- The wording of a path with a name that is too long. -/
def longNameMessage (p : Path) : String :=
  s!"[Errno 36] File name too long: {quoted p.text}"

/-- The path starts at the root. -/
def isAbsolute (p : Path) : Bool :=
  p.root != ""

/-- The last component. -/
def name (p : Path) : String :=
  p.parts.getLast?.getD ""

/-- The directory that holds the last component. -/
def parent (p : Path) : Path :=
  { p with parts := p.parts.dropLast }

/-- A name split before its last point, if that is neither the first nor the last character. -/
def splitName (s : String) : String × String :=
  match cutAtLast '.' s.toList with
  | some (stem, extension) =>
    if stem.isEmpty || extension.isEmpty then (s, "")
    else (String.ofList stem, String.ofList ('.' :: extension))
  | none => (s, "")

/-- The name's ending from its last point on. -/
def suffix (p : Path) : String :=
  (splitName p.name).2

/-- The name without its ending. -/
def stem (p : Path) : String :=
  (splitName p.name).1

/-- No file can have the path: there is a null character in it. -/
def isImpossible (p : Path) : Bool :=
  p.parts.any fun c => c.toList.contains '\x00'

/-- `q` as seen from `p`: an absolute path stays as it is. -/
def append (p q : Path) : Path :=
  if q.isAbsolute then q else { p with parts := p.parts ++ q.parts }

/-- A component below a path. -/
def child (p : Path) (name : String) : Path :=
  { p with parts := p.parts ++ [name] }

/-- Components with each double point removed together with the component before it. -/
def collapse (parts : List String) : List String :=
  (parts.foldl (fun acc p => if p = ".." then acc.drop 1 else p :: acc) []).reverse

/-- The absolute path without double points that a path means in a working directory. -/
def resolve (workingDirectory p : Path) : Path :=
  ⟨"/", collapse (workingDirectory.append p).parts⟩

end Path

end VarsAdvisor
