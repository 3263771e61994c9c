import VarsAdvisor.Text.Search
import VarsAdvisor.Text.WideText

/-!
# Prompts for suggestions

What a chat model is told when it is asked for one suggestion per validation error.
-/

namespace VarsAdvisor.Suggestion

open VarsAdvisor.Text

/-- The standing instructions. -/
def systemPrompt : String :=
  "You are NaC Copilot, a code assistant that helps users fix Ansible vars files that failed Yamale schema validation.

## Input
Yamale validation errors are formatted as `<key_path>: <error_message>`, for example `device.3.type: Required field missing`.

## Your Job
Write exactly one short suggestion per error line, describing the fix.

## Rules
1. One suggestion per error, in the same order as the errors.
2. Never repeat the key path. For `device.3.type: Required field missing` do not write `device.3.type` or `device.3`.
3. Never mention the location of the fix: no line numbers, no indexes, no ordinal words such as \"first\" or \"second\". The location is added separately.
4. Only describe the fix, not where it should be applied.

## Output Format
Return only a JSON array of strings, with no text before or after it:
```json
[\"suggestion 1\", \"suggestion 2\"]
```
"

/-- Background that a model gets beside the errors. -/
structure Context where
  workflow : Option WideText
  playbook : Option WideText
  schemaText : Option WideText
  exampleVars : Option WideText
  deriving DecidableEq, Repr

/-- No background. -/
def Context.none : Context := ⟨.none, .none, .none, .none⟩

/-- A part of the prompt about a text, if there is one and it is not empty. -/
def part (text : Option WideText) (render : WideText → WideText) : List WideText :=
  match text with
  | some s => if s = ("" : WideText) then [] else [render s]
  | none => []

/-- A text as a block of YAML under a heading. -/
def yamlBlock (heading : String) (text : WideText) : WideText :=
  s!"\n## {heading}\n```yaml\n" ++ text ++ "\n```"

/-- What the model is asked for one document. -/
def userPrompt (errors : List String) (numberedDocument : String) (c : Context) : WideText :=
  let count := errors.length
  let start : List WideText :=
    [s!"Return EXACTLY {count} suggestion(s), one for each error below.\n",
      "## Yamale Errors",
      joined "\n" errors]
  let background :=
    part c.workflow ("\n## Workflow\n" ++ ·) ++
      part c.playbook ("\n## Playbook\n" ++ ·) ++
      part c.schemaText (yamlBlock "Validation Schema") ++
      part c.exampleVars (yamlBlock "Example Vars File That Passes Validation")
  let finish : List WideText :=
    [yamlBlock "User Vars File (with line numbers)" numberedDocument,
      s!"\nRespond with a JSON array of exactly {count} string(s)."]
  WideText.joined "\n" (start ++ background ++ finish)

/-- What is sent to a chat model. -/
structure Prompt where
  system : String
  user : WideText
  deriving DecidableEq, Repr

/-- The prompt about a document's errors. -/
def prompt (errors : List String) (numberedDocument : String) (c : Context) : Prompt :=
  ⟨systemPrompt, userPrompt errors numberedDocument c⟩

end VarsAdvisor.Suggestion
