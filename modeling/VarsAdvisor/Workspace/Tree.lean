import VarsAdvisor.Path.Basic
import VarsAdvisor.Table
import VarsAdvisor.Text.LineBreak
import VarsAdvisor.Text.Utf8

/-!
# Trees of files

A tree holds files and directories by their places, the components below the root. There are no
links, so a double point in a path leads to the directory that holds the place before it.
-/

namespace VarsAdvisor

open VarsAdvisor.Text

/-- What is at a place. -/
inductive Entry where
  | file (bytes : List UInt8)
  | directory
  deriving DecidableEq, Repr

/-- Files and directories, and the place from which relative paths start. -/
structure Tree where
  entries : Table (List String) Entry
  base : List String
  deriving DecidableEq, Repr

/-- Why a file cannot be read as text: it is not there or no file, its path cannot be one, or it
does not hold UTF-8. -/
inductive ReadError where
  | unreadable
  | nullCharacter
  | malformed (e : Utf8.Malformed)
  deriving DecidableEq, Repr

namespace Tree

/-- What is at a place. The root is a directory. -/
def entry? (t : Tree) (place : List String) : Option Entry :=
  if place = [] then some .directory else t.entries.get? place

/-- There is a directory at a place. -/
def hasDirectory (t : Tree) (place : List String) : Bool :=
  t.entry? place == some .directory

/-- Goes on from a place by a component. -/
def enter? (t : Tree) (place : List String) (component : String) : Option (List String) :=
  if t.hasDirectory place then
    if component = ".." then some place.dropLast
    else if (t.entry? (place ++ [component])).isSome then some (place ++ [component])
    else none
  else none

/-- The place to which a path leads, if there is anything. -/
def locate? (t : Tree) (p : Path) : Option (List String) :=
  p.parts.foldlM t.enter? (if p.isAbsolute then [] else t.base)

/-- What a path leads to. -/
def find? (t : Tree) (p : Path) : Option Entry :=
  (t.locate? p).bind t.entry?

/-- The path leads to something. -/
def hasPath (t : Tree) (p : Path) : Bool :=
  (t.locate? p).isSome

/-- The path leads to a file. -/
def isFile (t : Tree) (p : Path) : Bool :=
  match t.find? p with
  | some (.file _) => true
  | _ => false

/-- The path leads to a directory. -/
def isDirectory (t : Tree) (p : Path) : Bool :=
  t.find? p == some .directory

/-- The most bytes of a name in a directory. -/
def maxNameBytes : Nat := 255

/-- The most bytes of a path. -/
def maxPathBytes : Nat := 4095

/-- The name of an entry is too long. -/
def isLongName (name : String) : Bool :=
  decide (maxNameBytes < name.utf8ByteSize)

/-- On the way along a path the tree is asked for a name that is too long, or the path is too long
as a whole. -/
def asksLongName (t : Tree) (p : Path) : Bool :=
  let start := if p.isAbsolute then [] else t.base
  decide (maxPathBytes < p.text.utf8ByteSize) ||
    (p.parts.zipIdx.any fun (name, n) =>
      isLongName name && ((p.parts.take n).foldlM t.enter? start).any t.hasDirectory)

/-- The text of a file, its line breaks unified. -/
def readText (t : Tree) (p : Path) : Except ReadError String :=
  if p.isImpossible then .error .nullCharacter
  else match t.find? p with
    | some (.file bytes) => match Utf8.decode bytes with
      | .ok cs => .ok (String.ofList (unifyBreaks cs))
      | .error e => .error (.malformed e)
    | _ => .error .unreadable

/-! ## Directories -/

/-- The names in a directory. -/
def namesIn (t : Tree) (place : List String) : List String :=
  t.entries.keys.filterMap fun k =>
    if k ≠ [] ∧ k.dropLast = place then k.getLast? else none

/-- The components that lead from a place to the directories below it. -/
def below (t : Tree) (place : List String) : List (List String) :=
  t.entries.filterMap fun (k, e) =>
    if e = .directory ∧ place.isPrefixOf k ∧ place ≠ k then some (k.drop place.length) else none

/-! ## Changes -/

/-- Makes a directory at a place, unless there is something. -/
def addDirectory (t : Tree) (place : List String) : Tree :=
  if (t.entry? place).isSome then t else { t with entries := t.entries.put place .directory }

/-- The places on the way to a place, the first ones first. -/
def waysTo (place : List String) : List (List String) :=
  (List.range place.length).map place.take

/-- Puts an entry at a place, with the directories on the way there. -/
def add (t : Tree) (place : List String) (e : Entry) : Tree :=
  let t := (waysTo place).foldl addDirectory t
  { t with entries := t.entries.put place e }

/-- Removes what is at a place. -/
def remove (t : Tree) (place : List String) : Tree :=
  { t with entries := t.entries.erase place }

end Tree

end VarsAdvisor
