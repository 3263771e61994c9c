import VarsAdvisor.Chat.Provider
import VarsAdvisor.Finding.Suppress
import VarsAdvisor.Form.Reading
import VarsAdvisor.Suggestion.Advice

/-!
# Settings

The commands of the tools, the chat model and how it is reached, and what is done with findings. They
are read from a form, in which every field may be left out. `redacted` shows them without secrets.
-/

namespace VarsAdvisor

open VarsAdvisor.Decimal VarsAdvisor.Form VarsAdvisor.Suggestion VarsAdvisor.Text

/-- The providers by name; without one there is no chat model. -/
def providerChoices : List (String × Option Provider) :=
  [("ollama", some .ollama), ("openai_compat", some .compatible), ("none", none)]

/-- The name of a provider, or of having none. -/
def providerName : Option Provider → String
  | some .ollama => "ollama"
  | some .compatible => "openai_compat"
  | none => "none"

/-- The policies by name. -/
def policyChoices : List (String × Policy) :=
  [Policy.reconcile, .reject].map fun p => (p.name, p)

/-- All settings. -/
structure Settings where
  yamalePath : String
  ansibleLintPath : String
  yamllintPath : String
  toolTimeout : Binary64
  provider : Option Provider
  serviceUrl : String
  serviceKey : String
  modelName : String
  modelTimeout : Binary64
  policy : Policy
  workspace : Path
  suppressedKeywords : List String
  deriving DecidableEq, Repr

namespace Settings

/-- The settings when none are given; the workspace is then the working directory. -/
def standard (workingDirectory : Path) : Settings where
  yamalePath := "yamale"
  ansibleLintPath := "ansible-lint"
  yamllintPath := "yamllint"
  toolTimeout := .ofInt 60
  provider := some .ollama
  serviceUrl := "http://localhost:11434"
  serviceKey := ""
  modelName := "llama3.2"
  modelTimeout := .ofInt 120
  policy := .reconcile
  workspace := workingDirectory
  suppressedKeywords := Finding.layoutKeywords

/-- The name of the record in complaints. -/
def recordName : String := "CopilotSettings"

/-- Reads settings from the members of a form; those that are left out are as in `d`. -/
def ofMembers (d : Settings) (ms : List (WideText × Json)) : Checked Settings :=
  let text (name : String) (default : String) := optional ms name readString default
  ((((((((((((text "yamale_path" d.yamalePath).map Settings.mk).app
    (text "ansible_lint_path" d.ansibleLintPath)).app
    (text "yamllint_path" d.yamllintPath)).app
    (optional ms "tool_timeout" readNumber d.toolTimeout)).app
    (optional ms "llm_backend" (readChoice providerChoices) d.provider)).app
    (text "llm_api_url" d.serviceUrl)).app
    (text "llm_api_key" d.serviceKey)).app
    (text "llm_model" d.modelName)).app
    (optional ms "llm_timeout" readNumber d.modelTimeout)).app
    (optional ms "suggestion_policy" (readChoice policyChoices) d.policy)).app
    (optional ms "workspace" readPath d.workspace)).app
    (optional ms "suppressed_keywords" (readList readString) d.suppressedKeywords)

/-- Reads settings from a form. -/
def ofForm (d : Settings) (form : Json) : Checked Settings :=
  match form with
  | .obj ms => d.ofMembers ms
  | _ => complain (.notRecord recordName) form

/-- The settings by name. -/
def fields (s : Settings) : List (String × Json) :=
  [("yamale_path", .str s.yamalePath),
    ("ansible_lint_path", .str s.ansibleLintPath),
    ("yamllint_path", .str s.yamllintPath),
    ("tool_timeout", .real s.toolTimeout),
    ("llm_backend", .str (providerName s.provider)),
    ("llm_api_url", .str s.serviceUrl),
    ("llm_api_key", .str s.serviceKey),
    ("llm_model", .str s.modelName),
    ("llm_timeout", .real s.modelTimeout),
    ("suggestion_policy", .str s.policy.name),
    ("workspace", .str s.workspace.text),
    ("suppressed_keywords", .ofTexts s.suppressedKeywords)]

/-- A field of this name may hold a secret. -/
def isSecret (name : String) : Bool :=
  Text.contains name "key"

/-- What is shown in place of a secret. -/
def mask : Json := .str "***"

/-- The settings by name, with a mask over every secret that is not empty. -/
def redacted (s : Settings) : List (String × Json) :=
  s.fields.map fun (name, v) => (name, if isSecret name && v.isTruthy then mask else v)

end Settings

end VarsAdvisor
