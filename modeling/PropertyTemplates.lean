import PropertyTemplates.Configuration.Document
import PropertyTemplates.Configuration.Inspection
import PropertyTemplates.Host.Folder
import PropertyTemplates.Main
import PropertyTemplates.Proofs.Except
import PropertyTemplates.Proofs.Template.Rounds
import PropertyTemplates.Proofs.Template.Nesting
import PropertyTemplates.Proofs.Run.FailFast
import PropertyTemplates.Proofs.Path.Evaluation
import PropertyTemplates.Proofs.Rule.Application
import PropertyTemplates.Proofs.Configuration.Inspection
import PropertyTemplates.Proofs.Command.Untyped
import PropertyTemplates.Proofs.Configuration.Agreement
import PropertyTemplates.Proofs.Run.Replay
import PropertyTemplates.Proofs.Run.Stored
import PropertyTemplates.Proofs.Configuration.Selection
import PropertyTemplates.Proofs.Command.Consistency
import PropertyTemplates.Proofs.Run.Order
import PropertyTemplates.Proofs.Instant.Clock
import PropertyTemplates.Proofs.Decimal.Numeral
import PropertyTemplates.Proofs.Template.NormalForm
import PropertyTemplates.Proofs.Pattern.GroupNames
import PropertyTemplates.Proofs.Work.Snapshot
import PropertyTemplates.Proofs.Rule.Grammar
import PropertyTemplates.Proofs.Path.Grammar
import PropertyTemplates.Proofs.Template.Canonical
import PropertyTemplates.Proofs.Path.Composition
import PropertyTemplates.Proofs.Template.Bound
import PropertyTemplates.Proofs.Variables.Token
import PropertyTemplates.Proofs.Variables.Substitution
import PropertyTemplates.Proofs.Configuration.Specificity
import PropertyTemplates.Proofs.Configuration.RuleChecks
import PropertyTemplates.Proofs.Template.Idempotence
import PropertyTemplates.Proofs.Pattern.Star
import PropertyTemplates.Proofs.Text.Case
import PropertyTemplates.Proofs.Path.Accessor
import PropertyTemplates.Proofs.Path.Unnamed
import PropertyTemplates.Proofs.Rule.Lines
import PropertyTemplates.Proofs.Template.Openings
import PropertyTemplates.Proofs.Configuration.Unterminated
import PropertyTemplates.Proofs.Run.Unique
import PropertyTemplates.Proofs.Configuration.Sections
import PropertyTemplates.Proofs.Variables.Precedence
import PropertyTemplates.Proofs.Command.Overrides
import PropertyTemplates.Proofs.Decimal.Rounding
import PropertyTemplates.Proofs.Decimal.Shortest
import PropertyTemplates.Proofs.Path.Integer
import PropertyTemplates.Proofs.Template.Attribution
import PropertyTemplates.Proofs.Json.RoundTrip
import PropertyTemplates.Proofs.Run.Record
