import Outbox.Dispatch
import Outbox.Store.Memory
import Outbox.Worker.Basic

/-!
# The cycle of a worker

The batch is worked off in order. For each event the worker stops if it was told to,
claims the event, has it dispatched and records the outcome. A claim and a record are
each one atomic step on the event log; other parties may act between them.

The number of failed attempts is counted from the event as it was fetched.
-/

namespace Outbox

/-- What came of the attempt to claim an event. -/
inductive ClaimEnd where
  /-- The worker was told to stop and did not try. -/
  | cancelled
  /-- The event is not due any more, or has changed its status. -/
  | conflict
  /-- The event log failed. -/
  | failed (error : StoreError)
  /-- The event belongs to the worker until its lease ends. -/
  | claimed
  deriving DecidableEq

/-- What came of a dispatched event. -/
inductive Disposition where
  /-- It is recorded as synced. -/
  | succeeded
  /-- It is recorded as failed and will be tried again. -/
  | retried
  /-- It is recorded as dead. -/
  | deadLettered
  /-- The outcome could not be recorded. -/
  | unrecorded (error : StoreError)
  deriving DecidableEq

/-- Why a task breaks down. -/
inductive Breakdown where
  /-- The time of the next attempt is past the end of the calendar. -/
  | pastCalendar
  deriving DecidableEq, Repr

namespace Breakdown

/-- What a task says that breaks down. -/
def message : Breakdown → String
  | pastCalendar => "`DateTime + TimeDelta` overflowed"

end Breakdown

namespace WorkerSettings

/-- The end of a claim made now. -/
def leaseEnd (w : WorkerSettings) (now : Instant) : Instant := now.afterOrLatest w.claimLease

/-- Claims an event as it was fetched, unless the worker was told to stop. -/
def claim (w : WorkerSettings) (now : Instant) (cancelled : Bool) (e : Event) (s : Store) :
    ClaimEnd × Store :=
  if cancelled then (.cancelled, s)
  else
    match s.claim now e.id e.status (w.leaseEnd now) with
    | (true, s) => (.claimed, s)
    | (false, s) => (.conflict, s)

end WorkerSettings

namespace Event

/-- The number of the failure that follows those an event had when it was fetched. -/
def nextFailure (e : Event) : Nat := e.attempts.toNat + 1

/-- How a number of failures is recorded: no higher than the counter goes. -/
def storedFailures (n : Nat) : Int := min (n : Int) maxAttempts

end Event

namespace RetryPolicy

/-- What came of an event whose outcome was written, or was not. -/
def written (d : Disposition) :
    Except StoreError Unit × Store → Except Breakdown Disposition × Store
  | (.ok (), s) => (.ok d, s)
  | (.error e, s) => (.ok (.unrecorded e), s)

/-- Records how the dispatch of an event went. A retry time past the calendar breaks the
worker down before anything is written. -/
def settle (p : RetryPolicy) (now : Instant) (e : Event) (result : AttemptResult) (s : Store)
    (chance : Chance := .middle) : Except Breakdown Disposition × Store :=
  match result with
  | .success => written .succeeded (s.recordSuccess now e.id)
  | .failure message =>
    let attempts := e.nextFailure
    let stored := Event.storedFailures attempts
    match p.decision attempts now chance with
    | .retry t => written .retried (s.recordFailure e.id stored message (some t))
    | .exhausted _ | .delayTooLong =>
      written .deadLettered (s.recordFailure e.id stored message none)
    | .pastCalendar => (.error .pastCalendar, s)

end RetryPolicy

namespace CycleReport

/-- Counts an event that was claimed. -/
def claim (r : CycleReport) (e : Event) : CycleReport :=
  { r with
    claimed := r.claimed + 1
    reclaimed := if e.status == .processing then r.reclaimed + 1 else r.reclaimed }

/-- Counts an event that could not be claimed. -/
def conflict (r : CycleReport) : CycleReport := { r with conflicts := r.conflicts + 1 }

/-- Counts what came of an event. -/
def settle (r : CycleReport) : Disposition → CycleReport
  | .succeeded => { r with succeeded := r.succeeded + 1 }
  | .retried => { r with retried := r.retried + 1 }
  | .deadLettered => { r with deadLettered := r.deadLettered + 1 }
  | .unrecorded _ => r

end CycleReport

/-- What a worker's cycle needs from where it runs. -/
structure CycleHost (m : Type → Type) where
  /-- Fetches the batch. -/
  fetch : m (Except StoreError (List Event))
  /-- Claims an event. -/
  claim : Event → m ClaimEnd
  /-- Has a change dispatched. -/
  dispatch : SyncRequest → m DispatchResult
  /-- Records how the dispatch of an event went; if the worker breaks down, so does what it
  runs in. -/
  settle : Event → AttemptResult → m Disposition

namespace CycleHost

variable {m : Type → Type} [Monad m]

/-- Works off a batch. -/
def work (h : CycleHost m) : List Event → CycleReport → m CycleReport
  | [], r => pure r
  | e :: rest, r => do
    match ← h.claim e with
    | .cancelled => pure r
    | .conflict => h.work rest r.conflict
    | .failed _ => h.work rest r
    | .claimed =>
      let d ← h.dispatch (.ofEvent e)
      let disposition ← h.settle e d.attempt
      h.work rest ((r.claim e).settle disposition)

/-- Runs a cycle. -/
def run (h : CycleHost m) : m (Except DeliveryError CycleReport) := do
  match ← h.fetch with
  | .error e => pure (.error (.storage (.fetch e)))
  | .ok batch => .ok <$> h.work batch { fetched := batch.length }

end CycleHost

/-- What a call of a worker needs from where it runs. -/
structure PollHost (m : Type → Type) extends CycleHost m where
  /-- Begins a cycle, unless one is in progress; then the call is counted as skipped. -/
  enter : m Bool
  /-- Does something and ends the cycle after it, however it goes. -/
  leaveAfter : m (Except DeliveryError CycleReport) → m (Except DeliveryError CycleReport)
  /-- Adds what a completed cycle did. -/
  record : CycleReport → m Unit

namespace PollHost

variable {m : Type → Type} [Monad m]

/-- Runs a cycle and adds what it did to what the worker did before. -/
def complete (h : PollHost m) : m (Except DeliveryError CycleReport) := do
  let result ← h.run
  match result with
  | .ok report => h.record report
  | .error _ => pure ()
  return result

/-- Runs a cycle, unless one is in progress. -/
def poll (h : PollHost m) : m (Except DeliveryError CycleReport) := do
  if ← h.enter then h.leaveAfter h.complete
  else return .ok { skipped := true }

end PollHost

end Outbox
