import TaskPipeline.Decimal
import TaskPipeline.Dispatch.Gate
import TaskPipeline.Dispatch.Policy
import TaskPipeline.Dispatch.Poll
import TaskPipeline.Dispatch.Worker
import TaskPipeline.Executor.Basic
import TaskPipeline.Executor.Command
import TaskPipeline.Executor.Gateway
import TaskPipeline.Executor.Outcome
import TaskPipeline.Executor.Program
import TaskPipeline.Failure.Classify
import TaskPipeline.Failure.Rule
import TaskPipeline.Host.Calculation
import TaskPipeline.Host.Catalog
import TaskPipeline.Host.Columns
import TaskPipeline.Host.Condition
import TaskPipeline.Host.Disk
import TaskPipeline.Host.EditScript
import TaskPipeline.Host.Editing
import TaskPipeline.Host.Encoding
import TaskPipeline.Host.Errand
import TaskPipeline.Host.Excerpt
import TaskPipeline.Host.Exchange
import TaskPipeline.Host.Finding
import TaskPipeline.Host.Format
import TaskPipeline.Host.Order
import TaskPipeline.Host.Program
import TaskPipeline.Host.Quoting
import TaskPipeline.Host.Raw
import TaskPipeline.Host.Regex
import TaskPipeline.Host.Search
import TaskPipeline.Host.Sequence
import TaskPipeline.Host.Tending
import TaskPipeline.Host.Tool
import TaskPipeline.Host.Tools
import TaskPipeline.Host.Words
import TaskPipeline.Http.Api
import TaskPipeline.Http.Form
import TaskPipeline.Http.MediaType
import TaskPipeline.Http.Target
import TaskPipeline.Json.Basic
import TaskPipeline.Json.Parser
import TaskPipeline.Json.Printer
import TaskPipeline.Json.Record
import TaskPipeline.Monitor
import TaskPipeline.Notice
import TaskPipeline.Pattern
import TaskPipeline.Pipeline
import TaskPipeline.Reaper
import TaskPipeline.Retry
import TaskPipeline.Settings.Codec
import TaskPipeline.Settings.Environment
import TaskPipeline.Settings.File
import TaskPipeline.Settings.Load
import TaskPipeline.Settings.Section
import TaskPipeline.Settings.Tree
import TaskPipeline.Shell.Arithmetic
import TaskPipeline.Shell.Builtin
import TaskPipeline.Shell.Field
import TaskPipeline.Shell.Line
import TaskPipeline.Shell.Machine
import TaskPipeline.Shell.Option
import TaskPipeline.Shell.Pattern
import TaskPipeline.Shell.Reader
import TaskPipeline.Shell.Run
import TaskPipeline.Shell.Script
import TaskPipeline.Shell.Signal
import TaskPipeline.Shell.Token
import TaskPipeline.Shutdown
import TaskPipeline.Span
import TaskPipeline.Store
import TaskPipeline.Store.Basic
import TaskPipeline.Store.Cell
import TaskPipeline.Store.Memory
import TaskPipeline.Store.Row
import TaskPipeline.Store.Table
import TaskPipeline.Supervisor.Basic
import TaskPipeline.Supervisor.PipelineProcess
import TaskPipeline.Supervisor.State
import TaskPipeline.Task.Basic
import TaskPipeline.Task.Codec
import TaskPipeline.Task.Transition
import TaskPipeline.Text.Based
import TaskPipeline.Text.Blank
import TaskPipeline.Text.Cased
import TaskPipeline.Text.Family
import TaskPipeline.Text.Fold
import TaskPipeline.Text.Lower
import TaskPipeline.Text.Numeral
import TaskPipeline.Text.Places
import TaskPipeline.Text.Quoted
import TaskPipeline.Text.Utf8
import TaskPipeline.Text.Visible
import TaskPipeline.Text.Word
import TaskPipeline.Version
import TaskPipeline.Proofs.Task.Life
import TaskPipeline.Proofs.Task.Budget
import TaskPipeline.Proofs.Task.Ledger
import TaskPipeline.Proofs.Json.RoundTrip
import TaskPipeline.Proofs.Json.FreeForm
import TaskPipeline.Proofs.Store.Codec
import TaskPipeline.Proofs.Store.Row
import TaskPipeline.Proofs.Store.Call
import TaskPipeline.Proofs.Store.Memory
import TaskPipeline.Proofs.Store.Mirror
import TaskPipeline.Proofs.Store.Step
import TaskPipeline.Proofs.Store.Query
import TaskPipeline.Proofs.Store.Agreement
import TaskPipeline.Proofs.Store.Content
import TaskPipeline.Proofs.Store.Sweep
import TaskPipeline.Proofs.Store.Frame
import TaskPipeline.Proofs.Store.Replace
import TaskPipeline.Proofs.Store.Sorting
import TaskPipeline.Proofs.Store.Line
import TaskPipeline.Proofs.Reaper.Step
import TaskPipeline.Proofs.Reaper.Report
import TaskPipeline.Proofs.Dispatch.Attempt
import TaskPipeline.Proofs.Dispatch.Crew
import TaskPipeline.Proofs.Executor.Gateway
import TaskPipeline.Proofs.Dispatch.Floor
import TaskPipeline.Proofs.Dispatch.Course
import TaskPipeline.Proofs.Dispatch.Complete
import TaskPipeline.Proofs.Dispatch.Spending
import TaskPipeline.Proofs.Dispatch.Drain
import TaskPipeline.Proofs.Dispatch.Drained
import TaskPipeline.Proofs.Supervisor.Turn
import TaskPipeline.Proofs.Supervisor.Budget
import TaskPipeline.Proofs.Supervisor.Fatal
import TaskPipeline.Proofs.Task.Shape
import TaskPipeline.Proofs.Task.Retries
import TaskPipeline.Proofs.Store.Passage
import TaskPipeline.Proofs.Dispatch.Finality
import TaskPipeline.Proofs.Dispatch.Shift
import TaskPipeline.Proofs.Dispatch.Shutdown
import TaskPipeline.Proofs.Pattern.Covers
import TaskPipeline.Proofs.Pattern.Lines
import TaskPipeline.Proofs.Failure.Lines
import TaskPipeline.Proofs.Supervisor.Custody
import TaskPipeline.Proofs.Supervisor.History
import TaskPipeline.Proofs.Supervisor.Verdict
import TaskPipeline.Proofs.Http.Handle
import TaskPipeline.Proofs.Http.Requests
import TaskPipeline.Proofs.Http.Pages
import TaskPipeline.Proofs.Store.Persistence
import TaskPipeline.Proofs.Reaper.Stale
import TaskPipeline.Proofs.Failure.Wrapping
import TaskPipeline.Proofs.Task.History
import TaskPipeline.Proofs.Store.Attempts
import TaskPipeline.Proofs.Dispatch.Backoff
import TaskPipeline.Proofs.Reaper.Threshold
import TaskPipeline.Proofs.Supervisor.Threshold
import TaskPipeline.Proofs.Dispatch.Telling
import TaskPipeline.Proofs.Text.Utf8
import TaskPipeline.Proofs.Executor.Tail
import TaskPipeline.Proofs.Monitor.Ranking
import TaskPipeline.Proofs.Monitor.Alarm
