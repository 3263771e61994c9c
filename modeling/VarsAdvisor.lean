import VarsAdvisor.Proofs.Floor.Turns
import VarsAdvisor.Proofs.Pass.Rank
import VarsAdvisor.Proofs.Pass.Wording
import VarsAdvisor.Proofs.Pass.Endings
import VarsAdvisor.Service.Handle
import VarsAdvisor.Service.Traffic
import VarsAdvisor.Tool.Host
import VarsAdvisor.Proofs.Editor.Registry
import VarsAdvisor.Proofs.Editor.Session
import VarsAdvisor.Proofs.Service.Sightings
import VarsAdvisor.Proofs.Service.Failures
import VarsAdvisor.Proofs.Service.History
import VarsAdvisor.Proofs.Service.Unsaved
import VarsAdvisor.Proofs.Service.Overlap
import VarsAdvisor.Proofs.Suggestion.Advice
import VarsAdvisor.Proofs.Document.OpenedLists
import VarsAdvisor.Proofs.Document.StartMarker
import VarsAdvisor.Proofs.KeyPath.ErrorLine
import VarsAdvisor.Proofs.Schema.Report
import VarsAdvisor.Proofs.Suggestion.Fence
import VarsAdvisor.Proofs.Finding.Pairing
import VarsAdvisor.Proofs.Finding.Layouts
import VarsAdvisor.Proofs.Workspace.Preference
import VarsAdvisor.Proofs.Workspace.Samples
import VarsAdvisor.Proofs.Workspace.Confinement
import VarsAdvisor.Proofs.Chat.Verdicts
import VarsAdvisor.Proofs.Settings.Load
import VarsAdvisor.Proofs.Settings.Redacted
import VarsAdvisor.Proofs.Pass.Yields
import VarsAdvisor.Proofs.Yaml.Lines
import VarsAdvisor.Proofs.Document.Numbered
import VarsAdvisor.Proofs.Floor.Findings
