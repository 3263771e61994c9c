import VarsAdvisor.Finding.AnsibleLint
import VarsAdvisor.Finding.Yamllint
import VarsAdvisor.Finding.Suppress
import VarsAdvisor.Text.Lower
import VarsAdvisor.Tool.Run

/-!
# Style linters

A linter is a tool together with the reading of its output. What it says about a document is a
report; a linter that could not be run, or that only complained about itself, gives a report without
findings that holds the error.
-/

namespace VarsAdvisor

open VarsAdvisor.Text

/-- What a linter says about a document. -/
structure LintReport where
  tool : String
  output : String
  findings : List Finding
  suppressed : Nat
  error : Option String
  deriving DecidableEq, Repr

/-- The report of a linter that failed. -/
def LintReport.failure (tool detail : String) : LintReport :=
  ⟨tool, "", [], 0, some detail⟩

/-- Without the findings that mention a keyword; these are only counted. -/
def LintReport.suppress (keywords : List String) (r : LintReport) : LintReport :=
  let (kept, dropped) := Finding.suppress keywords r.findings
  { r with findings := kept, suppressed := dropped }

/-- A style linter: its name, its command, and how its output is read. -/
structure Linter where
  name : String
  executable : String
  read : String → Except NumeralError (List Finding)

namespace Linter

/-- The linter for playbooks. -/
def ansible (executable : String) : Linter :=
  ⟨AnsibleLint.toolName, executable, AnsibleLint.parse⟩

/-- The linter for YAML files. -/
def yaml (executable : String) : Linter :=
  ⟨Yamllint.toolName, executable, Yamllint.parse⟩

/-- The command that lints a document. -/
def argv (l : Linter) (document : Path) : List String :=
  [l.executable, document.text]

/-- The report on a finished run. Without findings, a failing run that printed errors is an error
of the linter. -/
def ofRun (l : Linter) (run : ToolRun) : Except NumeralError LintReport :=
  (l.read run.stdout).map fun findings =>
    let complaint := trimmed run.stderr
    if findings.isEmpty && run.returncode != 0 && complaint != "" then .failure l.name complaint
    else ⟨l.name, run.stdout, findings, 0, none⟩

/-- The report on what became of a run. -/
def report (l : Linter) : Except ToolFailure ToolRun → Except NumeralError LintReport
  | .ok run => l.ofRun run
  | .error failure => .ok (.failure l.name failure.detail)

end Linter

/-- Only documents with one of these endings are linted, in whatever case. -/
def yamlSuffixes : List String := [".yml", ".yaml"]

/-- The document is a YAML file by its name. -/
def Path.isYaml (p : Path) : Bool :=
  yamlSuffixes.contains (lowered p.suffix)

end VarsAdvisor
