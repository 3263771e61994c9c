import VarsAdvisor.Service.Desk

/-!
# Requests side by side

Any number of validations may be under way while others arrive, advance, are cancelled, or their
document is closed. Each event is one step: between two events nothing changes. A validation is
answered in the very step in which its pass ends.
-/

namespace VarsAdvisor

/-- The settings, the files, and the passes of all validations that were admitted. -/
structure Traffic (σ : Type) where
  settings : Settings
  tree : Tree
  floor : Floor (Connection × σ)

/-- Something that happens among requests. -/
inductive TrafficEvent where
  | validate (v : Validation)
  | advance (pass : Nat)
  | cancel (pass : Nat)
  | close (name : String)
  deriving Repr

namespace Traffic

variable {σ : Type}

/-- No request has come yet. -/
def begin (settings : Settings) (d : Desk) (s : Connection × σ) : Traffic σ :=
  ⟨settings, d.tree, .begin d.editor s⟩

/-- The desk as it is now. -/
def desk (t : Traffic σ) : Desk :=
  ⟨t.tree, t.floor.editor⟩

/-- With another desk. -/
def withDesk (t : Traffic σ) (d : Desk) : Traffic σ :=
  { t with tree := d.tree, floor := { t.floor with editor := d.editor } }

/-- A validation arrives: it is rejected at once, or its pass gets in line. -/
def arrive (o : Outside σ) (t : Traffic σ) (v : Validation) : Option Answer × Traffic σ :=
  match t.desk.receive t.settings (o.marks t.floor.outside.2) v with
  | (.error r, d) => (some (.rejected r), t.withDesk d)
  | (.ok job, d) =>
    let t := t.withDesk d
    (none, { t with floor := t.floor.start job })

/-- The job of a pass. -/
def job? (t : Traffic σ) (pass : Nat) : Option Job :=
  (t.floor.jobs[pass]?).map (·.1)

/-- Goes on with another floor. If a pass has ended on it, what was laid on the desk for it is
removed, and its validation is answered. -/
def settleWith (t : Traffic σ) (pass : Nat) (floor : Floor (Connection × σ)) :
    Option Answer × Traffic σ :=
  let next := { t with floor := floor }
  match t.floor.ending? pass, floor.ending? pass, t.job? pass with
  | none, some ending, some job =>
    let d := next.desk.dismiss job
    (d.answerTo job ending, next.withDesk d)
  | _, _, _ => (none, next)

/-- What an event does; the answer is that to the request that it ends. -/
def move (o : Outside σ) (t : Traffic σ) : TrafficEvent → Option Answer × Traffic σ
  | .validate v => t.arrive o v
  | .advance pass =>
    t.settleWith pass
      (t.floor.advance (o.collaborators t.settings t.tree) t.settings.crew pass)
  | .cancel pass => t.settleWith pass (t.floor.cancel pass)
  | .close name =>
    let (answer, d) := t.desk.closeDocument t.settings name
    (some answer, t.withDesk d)

/-- What events do, one after the other, with the answers given on the way. -/
def run (o : Outside σ) : List TrafficEvent → Traffic σ → List Answer × Traffic σ
  | [], t => ([], t)
  | e :: rest, t =>
    let (answer, t) := t.move o e
    let (answers, t) := run o rest t
    (answer.toList ++ answers, t)

end Traffic

end VarsAdvisor
