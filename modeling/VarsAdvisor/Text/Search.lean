/-!
# Searching and cutting texts

Occurrence of one text in another, cutting at the first occurrence of a separator, splitting at
every occurrence, and joining.
-/

namespace VarsAdvisor.Text

/-- `needle` stands somewhere in the text. -/
def occurs (needle : List Char) : List Char → Bool
  | [] => needle.isEmpty
  | c :: r => needle.isPrefixOf (c :: r) || occurs needle r

/-- `needle` stands somewhere in `s`. -/
def contains (s needle : String) : Bool :=
  occurs needle.toList s.toList

/-- What stands before and after the first occurrence of `sep`. -/
def cutAt {α : Type} [DecidableEq α] (sep : List α) : List α → Option (List α × List α)
  | [] => if sep.isEmpty then some ([], []) else none
  | c :: r =>
    if sep.isPrefixOf (c :: r) then some ([], (c :: r).drop sep.length)
    else (cutAt sep r).map fun (a, b) => (c :: a, b)

/-- The pieces between the occurrences of `sep`: one more than there are occurrences. -/
def splitOn (sep : Char) : List Char → List (List Char)
  | [] => [[]]
  | c :: r =>
    if c = sep then [] :: splitOn sep r
    else match splitOn sep r with
      | [] => [[c]]
      | piece :: pieces => (c :: piece) :: pieces

/-- The texts one after the other, with `sep` between two of them. -/
def join (sep : List Char) : List (List Char) → List Char
  | [] => []
  | [a] => a
  | a :: rest => a ++ sep ++ join sep rest

/-- `join` on strings. -/
def joined (sep : String) (parts : List String) : String :=
  String.ofList (join sep.toList (parts.map String.toList))

/-- The text up to and without the last `sep`, and what follows it. -/
def cutAtLast {α : Type} [DecidableEq α] (sep : α) (cs : List α) : Option (List α × List α) :=
  let tail := (cs.reverse.takeWhile (· != sep)).reverse
  if tail.length < cs.length then some (cs.take (cs.length - tail.length - 1), tail) else none

end VarsAdvisor.Text
