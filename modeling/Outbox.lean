import Outbox.Adapter.Badge
import Outbox.Adapter.Basic
import Outbox.Adapter.Call
import Outbox.Adapter.FanOut
import Outbox.Adapter.Payroll
import Outbox.Adapter.Scripted
import Outbox.Decimal.Binary64
import Outbox.Decimal.Parse
import Outbox.Dispatch
import Outbox.Error.Delivery
import Outbox.Error.Store
import Outbox.Event.Basic
import Outbox.Event.Status
import Outbox.Event.Wire
import Outbox.Http.Call
import Outbox.Http.Error
import Outbox.Http.MediaType
import Outbox.Http.Message
import Outbox.Http.Service
import Outbox.Json.Decode
import Outbox.Json.Draft
import Outbox.Json.Print
import Outbox.Json.Token
import Outbox.Json.Value
import Outbox.Proofs.Adapter.Alike
import Outbox.Proofs.Adapter.Badge
import Outbox.Proofs.Adapter.FanOut
import Outbox.Proofs.Adapter.Payroll
import Outbox.Proofs.Adapter.Redelivery
import Outbox.Proofs.Dialogue
import Outbox.Proofs.Dispatch
import Outbox.Proofs.Event.Wire
import Outbox.Proofs.Fleet.AppendOnly
import Outbox.Proofs.Fleet.Attempts
import Outbox.Proofs.Fleet.Badges
import Outbox.Proofs.Fleet.Basic
import Outbox.Proofs.Fleet.Budget
import Outbox.Proofs.Fleet.Coherence
import Outbox.Proofs.Fleet.Delivery
import Outbox.Proofs.Fleet.Duty
import Outbox.Proofs.Fleet.Exclusion
import Outbox.Proofs.Fleet.Invariant
import Outbox.Proofs.Fleet.Orderly
import Outbox.Proofs.Fleet.Program
import Outbox.Proofs.Fleet.Step
import Outbox.Proofs.Fleet.Success
import Outbox.Proofs.Fleet.Succession
import Outbox.Proofs.Fleet.SyncTime
import Outbox.Proofs.Fleet.Transitions
import Outbox.Proofs.Http.Application
import Outbox.Proofs.Http.Atomic
import Outbox.Proofs.Http.Paging
import Outbox.Proofs.Json.Basic
import Outbox.Proofs.Json.Decode
import Outbox.Proofs.Json.Outline
import Outbox.Proofs.Json.Record
import Outbox.Proofs.Json.Scan
import Outbox.Proofs.Propagation
import Outbox.Proofs.Publish
import Outbox.Proofs.Registry
import Outbox.Proofs.Replay.Scope
import Outbox.Proofs.Replay.Window
import Outbox.Proofs.Retry.Backoff
import Outbox.Proofs.Retry.Delay
import Outbox.Proofs.Retry.Spacing
import Outbox.Proofs.Retry.Standing
import Outbox.Proofs.Settings.Masking
import Outbox.Proofs.Store.Due
import Outbox.Proofs.Store.Listing
import Outbox.Proofs.Store.Lookup
import Outbox.Proofs.Store.Offset
import Outbox.Proofs.Store.Page
import Outbox.Proofs.Text.Numeral
import Outbox.Proofs.Text.Percent
import Outbox.Proofs.Time.Calendar
import Outbox.Proofs.Time.Shift
import Outbox.Proofs.Time.Timestamp
import Outbox.Proofs.Url.Path
import Outbox.Proofs.Worker.Alone
import Outbox.Proofs.Worker.Books
import Outbox.Proofs.Worker.Cancellation
import Outbox.Proofs.Worker.Guard
import Outbox.Proofs.Worker.Isolation
import Outbox.Proofs.Worker.Ledger
import Outbox.Proofs.Worker.Outcome
import Outbox.Proofs.Worker.Overrun
import Outbox.Publish
import Outbox.Registry
import Outbox.Replay.Filter
import Outbox.Replay.Request
import Outbox.Retry.Policy
import Outbox.Settings.Address
import Outbox.Settings.Basic
import Outbox.Settings.Environment
import Outbox.Settings.Load
import Outbox.Settings.Toml
import Outbox.Settings.Value
import Outbox.Simulation.Delivery
import Outbox.Simulation.Process
import Outbox.Simulation.Scenario
import Outbox.Simulation.Scheduler
import Outbox.Simulation.World
import Outbox.Store.Backend
import Outbox.Store.Counts
import Outbox.Store.Memory
import Outbox.Store.Page
import Outbox.Text.Blank
import Outbox.Text.Digits
import Outbox.Text.Percent
import Outbox.Text.Printable
import Outbox.Text.Quoted
import Outbox.Text.Utf8
import Outbox.Time.Calendar
import Outbox.Time.Instant
import Outbox.Time.ManualClock
import Outbox.Time.Span
import Outbox.Time.Timestamp
import Outbox.Url.Basic
import Outbox.Url.Domain
import Outbox.Url.Host
import Outbox.Url.Punycode
import Outbox.Worker.Basic
import Outbox.Worker.Cycle
import Outbox.Proofs.Store.Page
