import VarsAdvisor.Json.Basic
import VarsAdvisor.Suggestion.Prompt

/-!
# Providers of chat models

Where a provider answers prompts, where it shows that it is there, and the form in which it takes a
prompt.
-/

namespace VarsAdvisor

open VarsAdvisor.Suggestion VarsAdvisor.Text

/-- The providers whose forms are known. -/
inductive Provider where
  | ollama
  | compatible
  deriving DecidableEq, Repr

namespace Provider

/-- The provider's name in messages. -/
def title : Provider → String
  | .ollama => "Ollama"
  | .compatible => "OpenAI-compat"

/-- The path that answers prompts. -/
def chatPath : Provider → String
  | .ollama => "/api/chat"
  | .compatible => "/v1/chat/completions"

/-- The path that answers whenever the provider is there. -/
def healthPath : Provider → String
  | .ollama => "/api/tags"
  | .compatible => "/v1/models"

/-- A message of a role. -/
def messageOf (role : String) (content : WideText) : Json :=
  .obj [("role", .str role), ("content", .str content)]

/-- Both messages of a prompt. -/
def messagesOf (p : Prompt) : Json :=
  .arr [messageOf "system" p.system, messageOf "user" p.user]

/-- A prompt in the provider's form, to be answered at once and without variation. -/
def payload (provider : Provider) (model : String) (p : Prompt) : Json :=
  match provider with
  | .ollama =>
    .obj [("model", .str model), ("messages", messagesOf p), ("stream", .bool false),
      ("options", .obj [("temperature", .int 0)])]
  | .compatible =>
    .obj [("model", .str model), ("messages", messagesOf p), ("temperature", .int 0),
      ("stream", .bool false)]

end Provider

end VarsAdvisor
