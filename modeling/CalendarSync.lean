import CalendarSync.Text.Letter
import CalendarSync.Decimal.Layout
import CalendarSync.Decimal.Reader
import CalendarSync.Duration
import CalendarSync.Timestamp.Text
import CalendarSync.Outcome
import CalendarSync.Status
import CalendarSync.Call
import CalendarSync.Batch
import CalendarSync.Reconciliation.Plan
import CalendarSync.Backoff
import CalendarSync.Retry
import CalendarSync.Program
import CalendarSync.Worker
import CalendarSync.Queue
import CalendarSync.Data.Json.Number
import CalendarSync.Data.Json.Reader
import CalendarSync.Data.Json.Printer
import CalendarSync.Assembly
import CalendarSync.Data.Forms
import CalendarSync.Simulation.Rehearsal
import CalendarSync.SystemClock
import CalendarSync.Data.Toml.Reader
import CalendarSync.Settings.Load
import CalendarSync.LogFilter
import CalendarSync.Simulation.World
import CalendarSync.Simulation.Stage
import CalendarSync.Simulation.Session
import CalendarSync.Proofs.Run
import CalendarSync.Proofs.World
import CalendarSync.Proofs.Outcome
import CalendarSync.Proofs.Recency
import CalendarSync.Proofs.Batch
import CalendarSync.Proofs.Store
import CalendarSync.Proofs.Writing
import CalendarSync.Proofs.Cycle
import CalendarSync.Proofs.Settlement
import CalendarSync.Proofs.Moves
import CalendarSync.Proofs.Overtaking
import CalendarSync.Proofs.Queue
import CalendarSync.Proofs.Dating
import CalendarSync.Proofs.History
import CalendarSync.Proofs.Discipline
import CalendarSync.Proofs.Orderly
import CalendarSync.Proofs.Answers
import CalendarSync.Proofs.Deletion
import CalendarSync.Proofs.Removal
import CalendarSync.Proofs.Retirement
import CalendarSync.Proofs.Retry
import CalendarSync.Proofs.Once
import CalendarSync.Proofs.Growth
import CalendarSync.Proofs.Accounting
import CalendarSync.Proofs.Plan
import CalendarSync.Proofs.Convergence
import CalendarSync.Proofs.Footprint
import CalendarSync.Proofs.Tries
import CalendarSync.Proofs.Filing
import CalendarSync.Proofs.Ledger
import CalendarSync.Proofs.Vigilance
import CalendarSync.Proofs.Conclusion
import CalendarSync.Proofs.Shutdown
import CalendarSync.Proofs.Serving
import CalendarSync.Proofs.Seniority
import CalendarSync.Proofs.Backlog
import CalendarSync.Proofs.CatchingUp
import CalendarSync.Proofs.Interleaving
import CalendarSync.Proofs.Resending
import CalendarSync.Proofs.Erasing
import CalendarSync.Proofs.Redeletion
import CalendarSync.Proofs.Overlap
import CalendarSync.Proofs.Leftover
import CalendarSync.Proofs.Assembly
import CalendarSync.Proofs.Turns
import CalendarSync.Proofs.Coverage
import CalendarSync.Proofs.Isolation
import CalendarSync.Proofs.Hearing
import CalendarSync.Proofs.Independence
import CalendarSync.Proofs.Pacing
import CalendarSync.Proofs.Gathering
import CalendarSync.Proofs.Tally
import CalendarSync.Proofs.Forms
import CalendarSync.Proofs.Classification
import CalendarSync.Proofs.Standing
import CalendarSync.Proofs.Spelling
import CalendarSync.Proofs.Environment
import CalendarSync.Proofs.Loading
