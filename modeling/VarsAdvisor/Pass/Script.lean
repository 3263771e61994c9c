import VarsAdvisor.Document.Resolve
import VarsAdvisor.Suggestion.Advice
import VarsAdvisor.Tool.Run
import VarsAdvisor.Yaml.Problem

/-!
# Scripts

A script is work that asks for runs of tools and for answers of a chat model on its way. What it
does next is a function of what it is told, so nothing is done in between that its reader cannot
see. `Script.run` follows a script with collaborators that have a state of their own, and
`Script.interrupt` cancels one at its request.
-/

namespace VarsAdvisor

open VarsAdvisor.Suggestion VarsAdvisor.Text

/-- Why work breaks off. -/
inductive Fault where
  | position (e : Segment.PositionError)
  | numeral (e : NumeralError)
  | yaml (m : Yaml.Mishap)
  | collaborator (kind message : String)
  deriving DecidableEq, Repr

/-- The wording of a fault. -/
def Fault.message : Fault → String
  | .position e => e.message
  | .numeral e => e.message
  | .yaml m => m.message
  | .collaborator _ message => message

/-- What ends a request without an answer: an error, a stop, or the cancellation of the work that
made it. Whoever handles errors lets stops and cancellations pass. -/
inductive Break where
  | error (kind message : String)
  | stop (kind message : String)
  | cancellation
  deriving DecidableEq, Repr

/-- Work with requests to tools and to a chat model. What breaks a request to a tool ends the work;
what breaks one to the model is told to the work. -/
inductive Script (α : Type) where
  | done (value : α)
  | fault (f : Fault)
  | cancelled
  | tool (argv : List String) (next : Except ToolFailure ToolRun → Script α)
  | model (prompt : Prompt) (next : Except Break Completion → Script α)

namespace Script

/-- One script after another. -/
def bind {α β : Type} (s : Script α) (f : α → Script β) : Script β :=
  match s with
  | .done a => f a
  | .fault e => .fault e
  | .cancelled => .cancelled
  | .tool argv next => .tool argv fun reply => (next reply).bind f
  | .model prompt next => .model prompt fun reply => (next reply).bind f

instance : Monad Script where
  pure := .done
  bind := bind

/-- A value, or the fault of not having it. -/
def ofExcept {ε α : Type} (fault : ε → Fault) : Except ε α → Script α
  | .ok a => .done a
  | .error e => .fault (fault e)

/-- Work that passes on what broke a request. -/
def ofBreak {α : Type} : Break → Script α
  | .error kind message | .stop kind message => .fault (.collaborator kind message)
  | .cancellation => .cancelled

end Script

/-- What a collaborator does when it is asked: it answers, breaks off, or stays silent. -/
inductive Reaction (α : Type) where
  | answer (value : α)
  | crash (b : Break)
  | silence
  deriving Repr

/-- Tools and a chat model, with a state that every request may change. -/
structure Collaborators (σ : Type) where
  tool : List String → σ → Reaction (Except ToolFailure ToolRun) × σ
  model : Prompt → σ → Reaction Completion × σ

/-- How work ends. Work that waits for a silent collaborator ends when it is cancelled. -/
inductive Ending (α : Type) where
  | done (value : α)
  | failed (f : Fault)
  | cancelled
  deriving Repr

/-- The ending of a value computed from another ending's value. -/
def Ending.map {α β : Type} (f : α → β) : Ending α → Ending β
  | .done a => .done (f a)
  | .failed e => .failed e
  | .cancelled => .cancelled

/-- The ending of work that does not handle what broke its request. -/
def Ending.ofBreak {α : Type} : Break → Ending α
  | .error kind message | .stop kind message => .failed (.collaborator kind message)
  | .cancellation => .cancelled

namespace Script

/-- Follows a script to its end. -/
def run {σ α : Type} (c : Collaborators σ) (script : Script α) (s : σ) : Ending α × σ :=
  match script with
  | .done a => (.done a, s)
  | .fault f => (.failed f, s)
  | .cancelled => (.cancelled, s)
  | .tool argv next => match c.tool argv s with
    | (.answer reply, s) => (next reply).run c s
    | (.crash b, s) => (.ofBreak b, s)
    | (.silence, s) => (.cancelled, s)
  | .model prompt next => match c.model prompt s with
    | (.answer completion, s) => (next (.ok completion)).run c s
    | (.crash b, s) => (next (.error b)).run c s
    | (.silence, s) => (next (.error .cancellation)).run c s

end Script

/-- Where work stands after a request. -/
inductive Progress (α : Type) where
  | more (rest : Script α)
  | ended (ending : Ending α)
  | stuck (request : Script α)

namespace Script

/-- Does one request of a script, or finds that it is over. -/
def step {σ α : Type} (c : Collaborators σ) (script : Script α) (s : σ) : Progress α × σ :=
  match script with
  | .done a => (.ended (.done a), s)
  | .fault f => (.ended (.failed f), s)
  | .cancelled => (.ended .cancelled, s)
  | .tool argv next => match c.tool argv s with
    | (.answer reply, s) => (.more (next reply), s)
    | (.crash b, s) => (.ended (.ofBreak b), s)
    | (.silence, s) => (.stuck (.tool argv next), s)
  | .model prompt next => match c.model prompt s with
    | (.answer completion, s) => (.more (next (.ok completion)), s)
    | (.crash b, s) => (.more (next (.error b)), s)
    | (.silence, s) => (.stuck (.model prompt next), s)

/-- Where work stands that is at the beginning of a script. -/
def standing {α : Type} : Script α → Progress α
  | .done a => .ended (.done a)
  | .fault f => .ended (.failed f)
  | .cancelled => .ended .cancelled
  | script => .more script

/-- Where work stands that is cancelled at its request. Only a request to the model is told. -/
def interrupt {α : Type} : Script α → Progress α
  | .model _ next => (next (.error .cancellation)).standing
  | _ => .ended .cancelled

end Script

end VarsAdvisor
