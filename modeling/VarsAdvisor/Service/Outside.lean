import VarsAdvisor.Chat.Model
import VarsAdvisor.Pass.Basic
import VarsAdvisor.Workspace.Tree

/-!
# What is outside of the service

The tools, which see the files while they run, and the network, over which the chat model is
reached. For one pass they become collaborators that see a fixed tree of files.
-/

namespace VarsAdvisor

open VarsAdvisor.Suggestion

/-- What tells a copy from other files: eight letters, digits and underscores. -/
structure Mark where
  text : String
  length : text.length = 8
  plain : text.toList.all (fun c => c.isAlphanum || c == '_') = true
  deriving DecidableEq, Repr

/-- Tools that see files, and a network, with a state that every use may change, and the marks that
a copy is offered in a state. -/
structure Outside (σ : Type) where
  tool : Tree → List String → σ → Reaction (Except ToolFailure ToolRun) × σ
  network : Network σ
  marks : σ → List Mark

/-- The crew that settings name. -/
def Settings.crew (s : Settings) : Crew :=
  ⟨s.yamalePath, [.ansible s.ansibleLintPath, .yaml s.yamllintPath],
    (ChatModel.ofSettings s).isSome, s.policy, s.suppressedKeywords⟩

namespace Outside

variable {σ : Type}

/-- A chat model's answer as the reaction of a collaborator. -/
def reactionOf : Except ChatFault ChatAnswer → Reaction Completion
  | .ok answer => .answer answer.completion
  | .error e => .crash (.error "chat" e.message.shape)

/-- A chat model as a collaborator, which shares its connection with all other uses of it. -/
def ask (o : Outside σ) (model : Option ChatModel) (p : Prompt) (s : Connection × σ) :
    Reaction Completion × Connection × σ :=
  match model with
  | none => (.crash (.error "chat" "no chat model"), s)
  | some m =>
    let (answer, connection, s) := m.generate o.network p s.1 s.2
    (reactionOf answer, connection, s)

/-- A tool as a collaborator. -/
def run (o : Outside σ) (t : Tree) (argv : List String) (s : Connection × σ) :
    Reaction (Except ToolFailure ToolRun) × Connection × σ :=
  let (reaction, outside) := o.tool t argv s.2
  (reaction, s.1, outside)

/-- The collaborators of a pass while the files are as in `t`. -/
def collaborators (o : Outside σ) (settings : Settings) (t : Tree) :
    Collaborators (Connection × σ) :=
  ⟨o.run t, o.ask (ChatModel.ofSettings settings)⟩

/-! ## Sightings -/

/-- A run of a tool together with the files that it saw. -/
structure Sighting where
  argv : List String
  tree : Tree
  deriving Repr

/-- The bytes of the file that the tool was told to check, which is its last argument. -/
def Sighting.checkedBytes? (s : Sighting) : Option (List UInt8) :=
  match s.tree.find? (.ofText (s.argv.getLastD "")) with
  | some (.file bytes) => some bytes
  | _ => none

/-- What is outside, with a record of all that tools saw and of all requests over the network, the
earliest first. -/
def recorded (o : Outside σ) : Outside (σ × List Sighting × List ChatRequest) where
  tool t argv s :=
    let (reaction, outside) := o.tool t argv s.1
    (reaction, outside, s.2.1 ++ [⟨argv, t⟩], s.2.2)
  network r s :=
    let (reply, outside) := o.network r s.1
    (reply, outside, s.2.1, s.2.2 ++ [r])
  marks s := o.marks s.1

end Outside

end VarsAdvisor
