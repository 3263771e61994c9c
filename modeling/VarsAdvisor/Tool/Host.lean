import VarsAdvisor.Tool.Shell
import VarsAdvisor.Workspace.Tree

/-!
# Programs of a host

Which commands start: the programs that are installed, by their names or by their places. A path to
anything else is refused, and a name that no program has is missing.
-/

namespace VarsAdvisor

open VarsAdvisor.Text

/-- The directories in which programs are installed. -/
def programDirectories : List (List String) :=
  [["bin"], ["usr", "bin"]]

/-- What an installed program does, where it has nothing to read. -/
def programOf? (argv : List String) (name : String) : Option Course :=
  let args := argv.drop 1
  match name with
  | "sh" => match args with
    | ["-c", script] => some (Shell.run ⟨argv.headD "", []⟩ script)
    | "-c" :: script :: name :: arguments => some (Shell.run ⟨name, arguments⟩ script)
    | _ => some ⟨[], [], .status 0, 0⟩
  | "sleep" =>
    some ⟨[], [], .status 0, (args.map Shell.nanosecondsOf).foldl (· + ·) 0⟩
  | "true" => some ⟨[], [], .status 0, 0⟩
  | "cat" => if args.isEmpty then some ⟨[], [], .status 0, 0⟩ else none
  | "false" => some ⟨[], [], .status 1, 0⟩
  | "echo" => some ⟨Text.Utf8.bytesOf (Text.joined " " args ++ "\n"), [], .status 0, 0⟩
  | _ => none

/-- The path leads through something that is no directory. -/
def Tree.isBlocked (t : Tree) (p : Path) : Bool :=
  ((List.range p.parts.length).drop 1).any fun n => t.isFile { p with parts := p.parts.take n }

/-- A path that ends in a slash or a point can only be that of a directory. -/
def asksDirectory (executable : String) : Bool :=
  match (splitOn '/' executable.toList).reverse with
  | last :: _ :: _ => last == [] || last == ['.']
  | _ => false

/-- What becomes of the attempt to start a file. No file of the tree may be started. -/
def Tree.launchFile (t : Tree) (argv : List String) (executable : String) : Launch :=
  let p := Path.ofText executable
  let program := if p.isAbsolute && programDirectories.contains p.parts.dropLast then
      programOf? argv p.name
    else none
  match program with
  | some course => .started course
  | none =>
    if t.asksLongName p then .refused .nameTooLong
    else if t.isFile p && asksDirectory executable then .refused .notDirectory
    else if t.hasPath p then .refused .notPermitted
    else if t.isBlocked p then .refused .notDirectory
    else .missing

/-- What becomes of the attempt to start a program by its name. A name that leads to the directories
of programs themselves is refused. -/
def launchProgram (argv : List String) (executable : String) : Launch :=
  if executable = "" ∨ executable = "." ∨ executable = ".." then .refused .notPermitted
  else match programOf? argv executable with
    | some course => .started course
    | none => if Tree.isLongName executable then .refused .nameTooLong else .missing

/-- What becomes of the attempt to start a command. -/
def Tree.launch (t : Tree) (argv : List String) : Launch :=
  let executable := argv.headD ""
  if argv.any fun word => word.toList.contains '\x00' then .impossible
  else if executable.toList.contains '/' then t.launchFile argv executable
  else launchProgram argv executable

end VarsAdvisor
