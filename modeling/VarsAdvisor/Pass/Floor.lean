import VarsAdvisor.Pass.Locks
import VarsAdvisor.Pass.Run

/-!
# Passes side by side

Any number of passes may be under way, each at some request to its collaborators or in line for the
lock of its document. A move starts a pass, takes one pass a step further, or cancels one; every
order of moves is possible. Only the pass that holds the lock of its document touches the overlay.
-/

namespace VarsAdvisor

/-- A pass to be run in a directory, and the overlay that it fills. -/
structure Job where
  directory : Path
  assignment : Assignment
  overlay : OverlayId
  deriving Repr

/-- What the lock of a pass goes by: the place of its document, however it is named. -/
def Job.key (job : Job) : String :=
  (Path.resolve job.directory job.assignment.document).text

/-- How far a pass has come. One that is stuck waits for a collaborator that never answers. -/
inductive Stage where
  | inLine (lock : LockId)
  | working (lock : LockId) (rest : Script Evidence)
  | stuck (lock : LockId) (request : Script Evidence)
  | ended (ending : Ending PassReport)

/-- The editor, the state of the collaborators, the locks, and all passes that were started. -/
structure Floor (σ : Type) where
  editor : Editor
  outside : σ
  locks : Locks
  jobs : List (Job × Stage)

/-- Something that happens to passes. -/
inductive Move where
  | start (job : Job)
  | advance (pass : Nat)
  | cancel (pass : Nat)
  deriving Repr

namespace Floor

variable {σ : Type}

/-- No pass has been started. -/
def begin (e : Editor) (s : σ) : Floor σ :=
  ⟨e, s, .empty, []⟩

/-- Sets the stage of a pass. -/
def setStage (f : Floor σ) (pass : Nat) (stage : Stage) : Floor σ :=
  { f with jobs := f.jobs.modify pass fun (job, _) => (job, stage) }

/-- A pass enters and gets in line. -/
def start (f : Floor σ) (job : Job) : Floor σ :=
  let (locks, lock) := f.locks.enter job.key f.jobs.length
  { f with locks := locks, jobs := f.jobs ++ [(job, .inLine lock)] }

/-- A pass that holds its lock begins. -/
def takeUp (crew : Crew) (f : Floor σ) (pass : Nat) (job : Job) (lock : LockId) : Floor σ :=
  if f.locks.isHeldBy lock pass then
    let e := f.editor.beginPass job.overlay
    { f with editor := e }.setStage pass (.working lock (crew.work job.assignment e job.overlay))
  else f

/-- A pass ends: what it found is shown, and the lock is given back. -/
def finish (f : Floor σ) (pass : Nat) (job : Job) (lock : LockId) (ending : Ending Evidence) :
    Floor σ :=
  let (ending, e) := f.editor.conclude job.overlay job.assignment ending
  { f with editor := e, locks := f.locks.leave job.key lock pass }.setStage pass (.ended ending)

/-- A pass at work goes on from where it stands, or ends. -/
def proceed (f : Floor σ) (pass : Nat) (job : Job) (lock : LockId) :
    Progress Evidence → Floor σ
  | .more rest => f.setStage pass (.working lock rest)
  | .ended ending => f.finish pass job lock ending
  | .stuck request => f.setStage pass (.stuck lock request)

/-- A pass at work makes its next request. -/
def work (c : Collaborators σ) (f : Floor σ) (pass : Nat) (job : Job) (lock : LockId)
    (script : Script Evidence) : Floor σ :=
  let (progress, s) := script.step c f.outside
  { f with outside := s }.proceed pass job lock progress

/-- Takes a pass a step further, if it can go on. -/
def advance (c : Collaborators σ) (crew : Crew) (f : Floor σ) (pass : Nat) : Floor σ :=
  match f.jobs[pass]? with
  | some (job, .inLine lock) => f.takeUp crew pass job lock
  | some (job, .working lock script) => f.work c pass job lock script
  | _ => f

/-- Cancels a pass that has not ended. One in line leaves it; one at work is told at its request. -/
def cancel (f : Floor σ) (pass : Nat) : Floor σ :=
  match f.jobs[pass]? with
  | some (job, .inLine lock) => f.finish pass job lock .cancelled
  | some (job, .working lock script) | some (job, .stuck lock script) =>
    f.proceed pass job lock script.interrupt
  | _ => f

/-- What a move does. -/
def move (c : Collaborators σ) (crew : Crew) (f : Floor σ) : Move → Floor σ
  | .start job => f.start job
  | .advance pass => f.advance c crew pass
  | .cancel pass => f.cancel pass

/-- What moves do, one after the other. -/
def moves (c : Collaborators σ) (crew : Crew) (f : Floor σ) (ms : List Move) : Floor σ :=
  ms.foldl (move c crew) f

/-- Takes each pass a step further, in the order in which they started. -/
def round (c : Collaborators σ) (crew : Crew) (f : Floor σ) : Floor σ :=
  f.moves c crew ((List.range f.jobs.length).map .advance)

/-- As many rounds. -/
def rounds (c : Collaborators σ) (crew : Crew) : Nat → Floor σ → Floor σ
  | 0, f => f
  | n + 1, f => rounds c crew n (f.round c crew)

/-- The most steps that one pass can make: its start, the validator, the model, the linters, and
its end. -/
def stepsOf (crew : Crew) : Nat :=
  crew.linters.length + 4

/-- Goes on until no pass can make a step. -/
def settle (c : Collaborators σ) (crew : Crew) (f : Floor σ) : Floor σ :=
  f.rounds c crew (f.jobs.length * stepsOf crew)

/-- Cancels every pass that has not ended. -/
def cancelAll (f : Floor σ) : Floor σ :=
  (List.range f.jobs.length).foldl cancel f

/-- How a pass ended. -/
def ending? (f : Floor σ) (pass : Nat) : Option (Ending PassReport) :=
  match f.jobs[pass]? with
  | some (_, .ended ending) => some ending
  | _ => none

end Floor

end VarsAdvisor
