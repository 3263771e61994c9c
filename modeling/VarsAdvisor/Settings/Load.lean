import VarsAdvisor.Json.Decode
import VarsAdvisor.Settings.Basic
import VarsAdvisor.Workspace.Tree

/-!
# Loading settings

Settings come from a file of options. Only if there is none do they come from variables of the
environment, of which the empty ones count as not set.
-/

namespace VarsAdvisor

open VarsAdvisor.Form VarsAdvisor.Text

/-- The variables of an environment. -/
abbrev Environment := Table String String

namespace Settings

/-- The file of options when no other is named. -/
def defaultOptions : String := "copilot_options.json"

/-- The variable that names the file of options. -/
def optionsVariable : String := "COPILOT_OPTIONS_PATH"

/-- The fields that variables set. -/
def fieldVariables : List (String × String) :=
  [("yamale_path", "YAMALE_PATH"),
    ("ansible_lint_path", "ANSIBLE_LINT_PATH"),
    ("yamllint_path", "YAMLLINT_PATH"),
    ("tool_timeout", "TOOL_TIMEOUT"),
    ("llm_backend", "LLM_BACKEND"),
    ("llm_api_url", "LLM_API_URL"),
    ("llm_api_key", "LLM_API_KEY"),
    ("llm_model", "LLM_MODEL"),
    ("workspace", "COPILOT_WORKSPACE")]

/-- The form that an environment gives. -/
def formOf (env : Environment) : List (WideText × Json) :=
  fieldVariables.filterMap fun (field, name) =>
    match env.get? name with
    | some value => if value = "" then none else some ((field : WideText), .str value)
    | none => none

/-- The file of options: the one named by the caller, else by the environment. -/
def optionsPath (env : Environment) (named : Option String) : Path :=
  match named with
  | some name =>
    if name = "" then .ofText ((env.get? optionsVariable).getD defaultOptions) else .ofText name
  | none => .ofText ((env.get? optionsVariable).getD defaultOptions)

/-- Why settings cannot be loaded. -/
inductive LoadError where
  | directory (p : Path)
  | nameTooLong (p : Path)
  | read (e : ReadError)
  | json (e : Json.DecodeError)
  | form (complaints : List Complaint)

/-- The settings in a file of options. -/
def ofFile (d : Settings) (t : Tree) (p : Path) : Except LoadError Settings :=
  if t.isDirectory p then .error (.directory p)
  else do
    let text ← (t.readText p).mapError .read
    let form ← (Json.decode text).mapError .json
    (d.ofForm form).toExcept.mapError .form

/-- Loads settings from the file of options, or from the environment if there is none. -/
def load (t : Tree) (env : Environment) (named : Option String) : Except LoadError Settings :=
  let d := standard ⟨"/", t.base⟩
  let p := optionsPath env named
  if t.asksLongName p then .error (.nameTooLong p)
  else if t.hasPath p then d.ofFile t p
  else (d.ofMembers (formOf env)).toExcept.mapError .form

/-- The wording of a file that is a directory. -/
def directoryMessage (p : Path) : String :=
  s!"[Errno 21] Is a directory: {quoted p.text}"

end Settings

end VarsAdvisor
