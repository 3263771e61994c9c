import VarsAdvisor.Decimal.Layout
import VarsAdvisor.Text.Utf8
import VarsAdvisor.Text.Quoted
import VarsAdvisor.Tool.Run

/-!
# Running a command to its end

A command may not start, may take too long, and may be cancelled. Otherwise its run is its output,
read as text, with its return code. Main definition: `attend`.
-/

namespace VarsAdvisor

open VarsAdvisor.Decimal VarsAdvisor.Text

/-- How a process ends: by itself with a status, or by a signal. -/
inductive Exit where
  | status (code : Nat)
  | signal (number : Nat)
  deriving DecidableEq, Repr

/-- The return code; that of a signal is negative. -/
def Exit.returncode : Exit → Int
  | .status code => code
  | .signal number => -(number : Int)

/-- What a process does when it is left alone: what it writes, how it ends, and after how many
nanoseconds. -/
structure Course where
  stdout : List UInt8
  stderr : List UInt8
  exit : Exit
  nanoseconds : Nat
  deriving Repr

/-- Why a command does not start, other than that there is no such file. -/
inductive Refusal where
  | notPermitted
  | notDirectory
  | nameTooLong
  deriving DecidableEq, Repr

/-- The wording of a refusal to start a file. -/
def Refusal.message (executable : String) : Refusal → String
  | .notPermitted => s!"[Errno 13] Permission denied: {quoted executable}"
  | .notDirectory => s!"[Errno 20] Not a directory: {quoted executable}"
  | .nameTooLong => s!"[Errno 36] File name too long: {quoted executable}"

/-- What becomes of the attempt to start a command. One with a null character in it cannot even be
tried. -/
inductive Launch where
  | impossible
  | missing
  | refused (r : Refusal)
  | started (course : Course)
  deriving Repr

/-- What becomes of a run. -/
inductive Attendance where
  | noCommand
  | nullCharacter
  | ran (run : ToolRun)
  | failed (failure : ToolFailure)
  | cancelled
  deriving Repr

/-- Nanoseconds as seconds. -/
def secondsOf (nanoseconds : Nat) : Binary64 :=
  .ofRatio false nanoseconds 1000000000

/-- The run of a process that was left alone. -/
def Course.run (argv : List String) (c : Course) : ToolRun :=
  ⟨argv, c.exit.returncode, String.ofList (Utf8.decodeLossy c.stdout),
    String.ofList (Utf8.decodeLossy c.stderr)⟩

/-- Waits for a process, at most `limit` seconds, unless it is cancelled before. -/
def Course.attend (argv : List String) (limit : Binary64) (cancelAfter : Option Binary64)
    (c : Course) : Attendance :=
  let duration := secondsOf c.nanoseconds
  let cancelledFirst := match cancelAfter with
    | some t => t.isBelow limit && !duration.isBelow t
    | none => false
  if cancelledFirst then .cancelled
  else if duration.isBelow limit then .ran (c.run argv)
  else .failed ⟨toolName argv, s!"timed out after {limit.briefText}s"⟩

/-- Runs a command of which `launch` tells what becomes of it. -/
def attend (argv : List String) (limit : Binary64) (cancelAfter : Option Binary64)
    (launch : Launch) : Attendance :=
  match argv with
  | [] => .noCommand
  | executable :: _ => match launch with
    | .impossible => .nullCharacter
    | .missing => .failed ⟨toolName argv, s!"executable not found: {executable}"⟩
    | .refused r => .failed ⟨toolName argv, r.message executable⟩
    | .started course => course.attend argv limit cancelAfter

end VarsAdvisor
