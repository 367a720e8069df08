import Mender.CommandLine.Options
import Mender.CommandLine.Run
import Mender.Config.Data
import Mender.Config.Given
import Mender.Diagnostic.Parse
import Mender.Dialogue.FixReply
import Mender.Dialogue.Prompt
import Mender.Dialogue.Service
import Mender.Fault
import Mender.Files.Tree
import Mender.Host.Listener
import Mender.Host.Scripted
import Mender.Json.Reader
import Mender.Language
import Mender.Learning.Store
import Mender.Localization
import Mender.LogText
import Mender.Main
import Mender.Number.Arithmetic
import Mender.Number.Decimal
import Mender.Number.Layout
import Mender.Patch.Edit
import Mender.Patch.Trial
import Mender.Pattern.Build
import Mender.Proofs.Config.Update
import Mender.Proofs.Dialogue.Reply
import Mender.Proofs.Dialogue.Stated
import Mender.Proofs.Learning.Positions
import Mender.Proofs.Localization.Ranking
import Mender.Proofs.Localization.Related
import Mender.Proofs.Patch.Endings
import Mender.Proofs.Patch.Reading
import Mender.Proofs.Patch.Rewriting
import Mender.Proofs.Repair.Agreement
import Mender.Proofs.Repair.Bookkeeping
import Mender.Proofs.Repair.Conversation
import Mender.Proofs.Repair.Counting
import Mender.Proofs.Repair.Course
import Mender.Proofs.Repair.Enumeration
import Mender.Proofs.Repair.Histories
import Mender.Proofs.Repair.Provenance
import Mender.Proofs.Repair.Replies
import Mender.Proofs.Repair.TimeLimit
import Mender.Proofs.Repair.Unwritable
import Mender.Proofs.Session.Calls
import Mender.Proofs.Session.Diagnosed
import Mender.Proofs.Session.Given
import Mender.Proofs.Session.Grammar
import Mender.Proofs.Session.Integrity
import Mender.Proofs.Session.Results
import Mender.Proofs.Session.Targets
import Mender.Proofs.Spectrum.Counts
import Mender.Proofs.Spectrum.Metric
import Mender.Proofs.Spectrum.Ranking
import Mender.Proofs.Spectrum.Report
import Mender.Proofs.Strategy.Comparison
import Mender.Proofs.Strategy.Feedback
import Mender.Proofs.Strategy.Priority
import Mender.Proofs.TestRun.Baseline
import Mender.Proofs.Text.Feeds
import Mender.Proofs.Text.Pieces
import Mender.Repair.Chat
import Mender.Repair.Generate
import Mender.Repair.Loop
import Mender.Repair.Validate
import Mender.Session.Report
import Mender.Session.Trace
import Mender.Spectrum.Choice
import Mender.Spectrum.Metric
import Mender.Spectrum.Ranking
import Mender.Spectrum.Report
import Mender.Strategy.LineFix
import Mender.Strategy.Registry
import Mender.TestRun
import Mender.Text.Digit
import Mender.Text.Identifier
import Mender.Text.Lines
import Mender.Text.Lower
import Mender.Text.Printable
import Mender.Window
