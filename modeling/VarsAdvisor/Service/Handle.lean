import VarsAdvisor.Pass.Run
import VarsAdvisor.Service.Desk
import VarsAdvisor.Service.Encode
import VarsAdvisor.Settings.Load

/-!
# The service

The service handles requests one after the other. Main definition: `Service.handle`. A request that
waits for a tool that never answers gets no answer; all other requests get one.
-/

namespace VarsAdvisor

/-- The settings, the desk, the connection to the chat model, and the state of what is outside. -/
structure Service (σ : Type) where
  settings : Settings
  desk : Desk
  connection : Connection
  outside : σ

namespace Service

variable {σ : Type}

/-- A service that has been started, with the settings that files and environment give. -/
def start (t : Tree) (env : Environment) (s : σ) : Except Settings.LoadError (Service σ) :=
  (Settings.load t env none).map fun settings => ⟨settings, ⟨t, .empty⟩, .fresh, s⟩

/-- Validates a document in one go. -/
def validate (o : Outside σ) (v : Validation) (s : Service σ) : Option Answer × Service σ :=
  match s.desk.receive s.settings (o.marks s.outside) v with
  | (.error r, desk) => (some (.rejected r), { s with desk := desk })
  | (.ok job, desk) =>
    let c := o.collaborators s.settings desk.tree
    let (ending, e, connection, outside) :=
      runPass c s.settings.crew job.assignment job.overlay desk.editor (s.connection, s.outside)
    let desk := { desk with editor := e }.dismiss job
    (desk.answerTo job ending,
      { s with desk := desk, connection := connection, outside := outside })

/-- Tells whether the chat model is there. -/
def checkHealth (o : Outside σ) (s : Service σ) : Answer × Service σ :=
  match ChatModel.ofSettings s.settings with
  | none => (.health s.settings false, s)
  | some m =>
    let (reachable, connection, outside) := m.health o.network s.connection s.outside
    (match reachable with
      | .ok b => .health s.settings b
      | .error e => .rejected (.breakdown (.chat e)),
      { s with connection := connection, outside := outside })

/-- Does what a request asks for. -/
def perform (o : Outside σ) (r : Request) (s : Service σ) : Action → Option Answer × Service σ
  | .validate => match Validation.ofBody r.body with
    | .error u => (some (.rejected (.unread u)), s)
    | .ok v => s.validate o v
  | .annotations => match r.document with
    | .error u => (some (.rejected (.unread u)), s)
    | .ok name => (some (s.desk.showAnnotations s.settings name), s)
  | .close => match r.document with
    | .error u => (some (.rejected (.unread u)), s)
    | .ok name =>
      let (answer, desk) := s.desk.closeDocument s.settings name
      (some answer, { s with desk := desk })
  | .health =>
    let (answer, s) := s.checkHealth o
    (some answer, s)

/-- Handles a request. -/
def handle (o : Outside σ) (r : Request) (s : Service σ) : Option Answer × Service σ :=
  match route r.method r.path with
  | .error stray => (some (.rejected (.stray stray)), s)
  | .ok action => s.perform o r action

/-- Handles requests one after the other. -/
def handleAll (o : Outside σ) : List Request → Service σ → List (Option Answer) × Service σ
  | [], s => ([], s)
  | r :: rest, s =>
    let (answer, s) := s.handle o r
    let (answers, s) := handleAll o rest s
    (answer :: answers, s)

end Service

/-- The response to a request that is answered. -/
def Request.respond (r : Request) (answer : Answer) : Response :=
  answer.response.toMethod r.method

end VarsAdvisor
