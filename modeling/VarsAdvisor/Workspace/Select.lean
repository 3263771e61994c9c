import VarsAdvisor.Path.Pattern
import VarsAdvisor.Workspace.Tree

/-!
# Selecting paths

The paths in a tree that fit a pattern, seen from a path. Main definition: `Tree.select`, which gives
them in the order of their components.
-/

namespace VarsAdvisor

/-- Components in order: the first difference decides, by code points. -/
def componentsLe : List String → List String → Bool
  | [], _ => true
  | _ :: _, [] => false
  | a :: as, b :: bs => if a = b then componentsLe as bs else decide (a < b)

/-- Paths in the order of their components. -/
def Path.sort (ps : List Path) : List Path :=
  ps.mergeSort fun p q => componentsLe p.parts q.parts

namespace Tree

/-- A component leads on to something, a directory if more components follow. -/
def leadsOn (t : Tree) (p : Path) (more : Bool) : Bool :=
  if more then t.isDirectory p else t.hasPath p

/-- The paths to which one component leads. -/
def selectOne (t : Tree) (at_ : Path) (more : Bool) : Component → List Path
  | .descend => match t.locate? at_ with
    | some place => at_ :: (t.below place).map fun parts => { at_ with parts := at_.parts ++ parts }
    | none => [at_]
  | .up => [at_.child ".."]
  | .name text => if t.leadsOn (at_.child text) more then [at_.child text] else []
  | .wildcard parts => match t.locate? at_ with
    | some place =>
      ((t.namesIn place).filter (Glob.fits parts)).map at_.child |>.filter (t.leadsOn · more)
    | none => []

/-- The paths to which components lead. -/
def selectFrom (t : Tree) (slashed : Bool) : List Component → Path → List Path
  | [], at_ => [at_]
  | c :: rest, at_ =>
    (t.selectOne at_ (slashed || !rest.isEmpty) c).flatMap (t.selectFrom slashed rest)

/-- The one path that a component leads to by name. -/
def named? (at_ : Path) : Component → Option Path
  | .name text => some (at_.child text)
  | _ => none

/-- A path with a name that is too long, among those to which components lead by name. -/
def longPath? (t : Tree) (slashed : Bool) : List Component → Path → Option Path
  | [], _ => none
  | c :: rest, at_ =>
    ((named? at_ c).filter t.asksLongName).or
      ((t.selectOne at_ (slashed || !rest.isEmpty) c).findSome? (t.longPath? slashed rest))

/-- A path with a name that is too long, among those that a pattern asks for below a directory. -/
def longIn? (t : Tree) (directory : Path) (pattern : Pattern) : Option Path :=
  if t.asksLongName directory then some directory
  else if t.isDirectory directory then t.longPath? pattern.slashed pattern.components directory
  else none

/-- The paths below a directory that fit a pattern, each once and in order. -/
def select (t : Tree) (directory : Path) (pattern : Pattern) : List Path :=
  if t.isDirectory directory then
    Path.sort (t.selectFrom pattern.slashed pattern.components directory).eraseDups
  else []

end Tree

end VarsAdvisor
