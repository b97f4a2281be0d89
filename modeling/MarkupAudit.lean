import MarkupAudit.Main
import MarkupAudit.Proofs.Outcome
import MarkupAudit.Proofs.Source.Nodes
import MarkupAudit.Proofs.Source.Recursion
import MarkupAudit.Proofs.Source.Tables
import MarkupAudit.Proofs.Source.Refinement
import MarkupAudit.Proofs.Markup.Walk
import MarkupAudit.Proofs.Source.Shape
import MarkupAudit.Proofs.Source.Reach
import MarkupAudit.Proofs.Audit.Score
import MarkupAudit.Proofs.Audit.Independence
import MarkupAudit.Proofs.Audit.HalfUp
import MarkupAudit.Proofs.Audit.Disabling
import MarkupAudit.Proofs.Text.Utf8
import MarkupAudit.Proofs.Text.Position
import MarkupAudit.Proofs.Source.Walked
import MarkupAudit.Proofs.Source.Visits
import MarkupAudit.Proofs.Config.Load
import MarkupAudit.Proofs.Audit.Places
import MarkupAudit.Proofs.Audit.Pairs
import MarkupAudit.Proofs.Audit.Surface
import MarkupAudit.Proofs.Audit.File
import MarkupAudit.Proofs.Report.JsonGrammar
import MarkupAudit.Proofs.Report.JsonReader
import MarkupAudit.Proofs.Report.Json
import MarkupAudit.Proofs.Files.Store
import MarkupAudit.Proofs.Config.Rules
import MarkupAudit.Proofs.Command.Outcome
import MarkupAudit.Proofs.Audit.Conditions
import MarkupAudit.Proofs.Audit.Remedies
import MarkupAudit.Proofs.Audit.Queries
import MarkupAudit.Proofs.Audit.Reordering
import MarkupAudit.Proofs.Audit.FullScore
import MarkupAudit.Proofs.Report.Terminal
import MarkupAudit.Proofs.Command.Strict
import MarkupAudit.Proofs.Markup.Occurrence
import MarkupAudit.Proofs.Markup.Grouping
import MarkupAudit.Proofs.Source.Fault
import MarkupAudit.Proofs.Text.Lines
import MarkupAudit.Proofs.Audit.History
import MarkupAudit.Proofs.Audit.Wording
import MarkupAudit.Proofs.Report.Listing
import MarkupAudit.Proofs.Report.Markdown
import MarkupAudit.Proofs.Config.Settings
import MarkupAudit.Proofs.Text.LineEnds
import MarkupAudit.Proofs.Audit.FileText
import MarkupAudit.Proofs.Audit.Tally
import MarkupAudit.Proofs.Source.Outermost
