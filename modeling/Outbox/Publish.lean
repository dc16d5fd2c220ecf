import Outbox.Dispatch
import Outbox.Time.Span

/-!
# Publishing a change

A change is appended to the event log, or dispatched at once where the outbox is off. An
append that fails is tried again a few times, with a pause that doubles each time; a
change that is refused is refused at once.
-/

namespace Outbox

/-- What an enqueuer needs from where it runs. -/
structure EnqueueHost (m : Type → Type) where
  /-- Appends the event of a change. -/
  append : Mutation → m (Except StoreError Event)
  /-- Waits. -/
  sleep : Span → m Unit

namespace EnqueueHost

variable {m : Type → Type} [Monad m]

/-- Appends the event of a change, with so many further tries. -/
def tryAppend (h : EnqueueHost m) (change : Mutation) : Nat → Span → m (Except StoreError Event)
  | retries, delay => do
    match ← h.append change with
    | .ok e => pure (.ok e)
    | .error (.invalid why) => pure (.error (.invalid why))
    | .error e =>
      match retries with
      | 0 => pure (.error e)
      | retries + 1 => do
        h.sleep delay
        h.tryAppend change retries delay.double

/-- Appends the event of a valid change. -/
def enqueue (h : EnqueueHost m) (change : Mutation) (retries : Nat) (delay : Span) :
    m (Except StoreError Event) :=
  match change.validate with
  | .error e => pure (.error e)
  | .ok () => h.tryAppend change retries delay

end EnqueueHost

/-- The pause before the first further try. -/
def firstRetryDelay : Span := .ofMillis 100

/-- What became of a published change. -/
inductive Published where
  /-- It is in the event log. -/
  | queued (e : Event)
  /-- It was dispatched at once. -/
  | synced (d : DispatchResult)

/-- What a publisher needs from where it runs. -/
structure PublishHost (m : Type → Type) extends EnqueueHost m where
  /-- Has a change dispatched. -/
  dispatch : SyncRequest → m DispatchResult

namespace PublishHost

variable {m : Type → Type} [Monad m]

/-- Publishes a change by way of the outbox or at once. -/
def publish (h : PublishHost m) (outboxEnabled : Bool) (retries : Nat) (delay : Span)
    (change : Mutation) : m (Except StoreError Published) := do
  if outboxEnabled then
    return (← h.enqueue change retries delay).map .queued
  else
    match change.validate with
    | .error e => return .error e
    | .ok () => return .ok (.synced (← h.dispatch (.ofMutation change)))

end PublishHost

end Outbox
