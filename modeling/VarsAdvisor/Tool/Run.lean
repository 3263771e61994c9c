import VarsAdvisor.Path.Basic

/-!
# Runs of external tools

A tool run is what a command printed and how it ended. A command that could not be run, or not to
its end, gives a failure with a detail instead.
-/

namespace VarsAdvisor

/-- What a finished command left behind. -/
structure ToolRun where
  argv : List String
  returncode : Int
  stdout : String
  stderr : String
  deriving DecidableEq, Repr

/-- The base name of a command's executable. -/
def toolName (argv : List String) : String :=
  match argv with
  | [] => ""
  | executable :: _ => (Path.ofText executable).name

/-- The name of the tool that ran. -/
def ToolRun.tool (r : ToolRun) : String :=
  toolName r.argv

/-- A tool that could not be run to its end. -/
structure ToolFailure where
  tool : String
  detail : String
  deriving DecidableEq, Repr

/-- The message about a tool that failed. -/
def ToolFailure.message (f : ToolFailure) : String :=
  s!"{f.tool}: {f.detail}"

end VarsAdvisor
