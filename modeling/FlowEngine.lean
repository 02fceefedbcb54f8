import FlowEngine.Catalog
import FlowEngine.Command
import FlowEngine.Config
import FlowEngine.Document.Fault
import FlowEngine.Document.Printer
import FlowEngine.Document.Reader
import FlowEngine.Document.Value
import FlowEngine.Document.Word
import FlowEngine.Engine
import FlowEngine.Entries
import FlowEngine.Error
import FlowEngine.Graph.Basic
import FlowEngine.Graph.Cycle
import FlowEngine.Json.Layout
import FlowEngine.Json.Loose
import FlowEngine.Json.Number
import FlowEngine.Json.Printer
import FlowEngine.Json.Reader
import FlowEngine.Json.Value
import FlowEngine.Main
import FlowEngine.Number.Binary64
import FlowEngine.Number.Decimal
import FlowEngine.Number.Layout
import FlowEngine.Number.Shortest
import FlowEngine.Placeholder.Environment
import FlowEngine.Placeholder.Expr
import FlowEngine.Placeholder.Filter
import FlowEngine.Placeholder.Lookup
import FlowEngine.Placeholder.Parser
import FlowEngine.Placeholder.Resolver
import FlowEngine.Placeholder.Scan
import FlowEngine.Placeholder.Template
import FlowEngine.Placeholder.Token
import FlowEngine.Proofs.Catalog
import FlowEngine.Proofs.Document.Blocks
import FlowEngine.Proofs.Document.Delimited
import FlowEngine.Proofs.Document.FaultLine
import FlowEngine.Proofs.Document.LineEndings
import FlowEngine.Proofs.Document.Position
import FlowEngine.Proofs.Document.Values
import FlowEngine.Proofs.Document.Words
import FlowEngine.Proofs.Edits
import FlowEngine.Proofs.Entries
import FlowEngine.Proofs.Except
import FlowEngine.Proofs.Firing
import FlowEngine.Proofs.Graph.Acyclic
import FlowEngine.Proofs.Graph.Cycle
import FlowEngine.Proofs.Graph.Reach
import FlowEngine.Proofs.Graph.Suspect
import FlowEngine.Proofs.Number.Integer
import FlowEngine.Proofs.Number.Numeral
import FlowEngine.Proofs.Number.Rounding
import FlowEngine.Proofs.Phases
import FlowEngine.Proofs.Placeholder.Braces
import FlowEngine.Proofs.Placeholder.Comparison
import FlowEngine.Proofs.Placeholder.Grammar
import FlowEngine.Proofs.Placeholder.Integers
import FlowEngine.Proofs.Placeholder.Literal
import FlowEngine.Proofs.Placeholder.Lookup
import FlowEngine.Proofs.Placeholder.Names
import FlowEngine.Proofs.Placeholder.Policy
import FlowEngine.Proofs.Placeholder.Scan
import FlowEngine.Proofs.Placeholder.Slices
import FlowEngine.Proofs.Placeholder.StoredKey
import FlowEngine.Proofs.Placeholder.Template
import FlowEngine.Proofs.Placeholder.Verbatim
import FlowEngine.Proofs.Run.Accounting
import FlowEngine.Proofs.Run.Answer
import FlowEngine.Proofs.Run.Backoff
import FlowEngine.Proofs.Run.Bounded
import FlowEngine.Proofs.Run.Cancellation
import FlowEngine.Proofs.Run.Counters
import FlowEngine.Proofs.Run.Executed
import FlowEngine.Proofs.Run.Invariant
import FlowEngine.Proofs.Run.Lasting
import FlowEngine.Proofs.Run.Order
import FlowEngine.Proofs.Run.Prepared
import FlowEngine.Proofs.Run.Progress
import FlowEngine.Proofs.Run.Readiness
import FlowEngine.Proofs.Run.Reply
import FlowEngine.Proofs.Run.Retry
import FlowEngine.Proofs.Run.Rooted
import FlowEngine.Proofs.Run.Storage
import FlowEngine.Proofs.Run.Success
import FlowEngine.Proofs.Run.Verdict
import FlowEngine.Proofs.Text.Bytes
import FlowEngine.Proofs.Text.Dotted
import FlowEngine.Proofs.Text.Span
import FlowEngine.Proofs.Timers
import FlowEngine.Proofs.Workflow.Agreement
import FlowEngine.Proofs.Workflow.Built
import FlowEngine.Proofs.Workflow.Checked
import FlowEngine.Proofs.Workflow.NodeSections
import FlowEngine.Proofs.Workflow.Readable
import FlowEngine.Proofs.Workflow.Refused
import FlowEngine.Proofs.Workflow.Rendering
import FlowEngine.Proofs.Workflow.Reordered
import FlowEngine.Proofs.Workflow.RoundTrip
import FlowEngine.Proofs.Workflow.Valid
import FlowEngine.Run.Builtin
import FlowEngine.Run.Decision
import FlowEngine.Run.Executor
import FlowEngine.Run.Invocation
import FlowEngine.Run.NodeResult
import FlowEngine.Run.Probe
import FlowEngine.Run.Readiness
import FlowEngine.Run.Response
import FlowEngine.Run.Simulation
import FlowEngine.Run.State
import FlowEngine.Run.Store
import FlowEngine.Schedule.Calendar
import FlowEngine.Schedule.Cron
import FlowEngine.Schedule.Scheduler
import FlowEngine.Text.Basic
import FlowEngine.Text.Case
import FlowEngine.Text.CaseTable
import FlowEngine.Text.LetterTable
import FlowEngine.Text.PrintableTable
import FlowEngine.Timers
import FlowEngine.Workflow.Assembly
import FlowEngine.Workflow.Definition
import FlowEngine.Workflow.Printer
import FlowEngine.Workflow.Routing
import FlowEngine.Workflow.Settings
import FlowEngine.Workflow.Validation
