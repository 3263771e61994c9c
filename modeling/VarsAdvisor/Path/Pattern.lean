import VarsAdvisor.Path.Basic

/-!
# Patterns of paths

A pattern is a list of components. `**` stands for any number of directories, and in other
components `*` stands for any text, `?` for any character, and a bracketed set for one of its
characters, or for one of the others if the set starts with `!`. A bracket that is not closed stands
for itself. Main definition: `Pattern.ofText`, and `Glob.fits` for one component.
-/

namespace VarsAdvisor

open VarsAdvisor.Text

/-- A part of a component. `oneOf` stands for a character in one of the ranges, or in none of them
if `negated`. -/
inductive Glob where
  | star
  | any
  | literal (c : Char)
  | oneOf (negated : Bool) (ranges : List (Char × Char))
  deriving DecidableEq, Repr

namespace Glob

/-- The character is one of a range. -/
def inRange (c : Char) (range : Char × Char) : Bool :=
  range.1 ≤ c && c ≤ range.2

/-- All ends of a text, the longest first. -/
def endings {α : Type} : List α → List (List α)
  | [] => [[]]
  | x :: xs => (x :: xs) :: endings xs

/-- The parts stand for the text. -/
def fitsChars : List Glob → List Char → Bool
  | [], cs => cs.isEmpty
  | .star :: rest, cs => (endings cs).any (fitsChars rest)
  | .any :: rest, cs => match cs with
    | [] => false
    | _ :: r => fitsChars rest r
  | .literal x :: rest, cs => match cs with
    | [] => false
    | c :: r => c == x && fitsChars rest r
  | .oneOf negated ranges :: rest, cs => match cs with
    | [] => false
    | c :: r => (ranges.any (inRange c) != negated) && fitsChars rest r

/-! ## Sets -/

/-- The inside of a set is cut at hyphens that may stand for ranges: none at its start, and two
characters on between two of them. `held` are the characters since the last cut, latest first, and
`wait` is how many characters cannot be such a hyphen. -/
def cutHyphens (held : List Char) : Nat → List Char → List (List Char)
  | _, [] => [held.reverse]
  | wait, c :: r =>
    if wait = 0 ∧ c = '-' then held.reverse :: cutHyphens [] 2 r
    else cutHyphens (c :: held) (wait - 1) r

/-- A hyphen at the end of a set stands for itself. -/
def keepLastHyphen (chunks : List (List Char)) : List (List Char) :=
  match chunks.reverse with
  | [] :: last :: earlier => ((last ++ ['-']) :: earlier).reverse
  | _ => chunks

/-- Two chunks whose hyphen would stand for a range that runs backwards lose this range. -/
def joinBackwards : List (List Char) → List (List Char)
  | [] => []
  | chunk :: rest =>
    match joinBackwards rest with
    | [] => [chunk]
    | next :: more =>
      match chunk.getLast?, next.head? with
      | some low, some high =>
        if high < low then (chunk.dropLast ++ next.drop 1) :: more else chunk :: next :: more
      | _, _ => chunk :: next :: more

/-- Characters that stand for themselves. -/
def singles (cs : List Char) : List (Char × Char) :=
  cs.map fun c => (c, c)

/-- The ranges of chunks with a hyphen between two of them. -/
def rangesOf : List (List Char) → List (Char × Char)
  | [] => []
  | [chunk] => singles chunk
  | chunk :: next :: rest =>
    match chunk.getLast?, next.head? with
    | some low, some high => singles chunk ++ (low, high) :: rangesOf (next :: rest)
    | _, _ => singles chunk ++ rangesOf (next :: rest)

/-- The set with a given inside, which is not empty. -/
def ofSet (inside : List Char) : Glob :=
  let (negated, body) := match inside with
    | '!' :: r => (true, r)
    | r => (false, r)
  if body.contains '-' then
    .oneOf negated (rangesOf (joinBackwards (keepLastHyphen (cutHyphens [] 1 body))))
  else .oneOf negated (singles body)

/-- The inside of a set whose opening bracket has been read, and what follows its closing bracket.
A closing bracket at the start of the inside belongs to it. -/
def splitSet? (cs : List Char) : Option (List Char × List Char) :=
  let (mark, body) := match cs with
    | '!' :: r => (['!'], r)
    | r => ([], r)
  let (first, rest) := match body with
    | ']' :: r => ([']'], r)
    | r => ([], r)
  (cutAt [']'] rest).map fun (inside, after) => (mark ++ first ++ inside, after)

/-- The parts of a component, at most `fuel`. -/
def ofChars : Nat → List Char → List Glob
  | 0, _ => []
  | _, [] => []
  | fuel + 1, '*' :: r => .star :: ofChars fuel r
  | fuel + 1, '?' :: r => .any :: ofChars fuel r
  | fuel + 1, '[' :: r => match splitSet? r with
    | some (inside, after) => ofSet inside :: ofChars fuel after
    | none => .literal '[' :: ofChars fuel r
  | fuel + 1, c :: r => .literal c :: ofChars fuel r

/-- The parts of a component. -/
def ofText (component : String) : List Glob :=
  ofChars component.length component.toList

/-- The parts stand for a name. -/
def fits (parts : List Glob) (name : String) : Bool :=
  fitsChars parts name.toList

end Glob

/-- A component of a pattern. -/
inductive Component where
  | descend
  | up
  | name (text : String)
  | wildcard (parts : List Glob)
  deriving DecidableEq, Repr

/-- A pattern of paths. With `slashed`, it ends in a slash. -/
structure Pattern where
  components : List Component
  slashed : Bool
  deriving DecidableEq, Repr

/-- Why nothing can be searched with a text: two stars are in a component of more, or the search asks
for a name that is too long. -/
inductive PatternError where
  | misplacedStars
  | nameTooLong (p : Path)
  deriving DecidableEq, Repr

/-- The wording. -/
def PatternError.message : PatternError → String
  | .misplacedStars => "Invalid pattern: '**' can only be an entire path component"
  | .nameTooLong p => p.longNameMessage

namespace Pattern

/-- Reads a component. -/
def component (text : String) : Except PatternError Component :=
  if text = "**" then .ok .descend
  else if text = ".." then .ok .up
  else if occurs ['*', '*'] text.toList then .error .misplacedStars
  else if text.toList.any (fun c => c == '*' || c == '?' || c == '[') then
    .ok (.wildcard (Glob.ofText text))
  else .ok (.name text)

/-- Reads a relative pattern. Empty components and single points are dropped. -/
def ofText (text : String) : Except PatternError Pattern := do
  let components ← (Path.partsOf text.toList).mapM component
  pure ⟨components, text.toList.getLast? == some '/'⟩

end Pattern

end VarsAdvisor
