import Outbox.Error.Delivery
import Outbox.Event.Basic
import Outbox.Text.Quoted

/-!
# Calls to adapters

An adapter speaks for one system downstream. A call to it ends in one of four ways: it
answers, it raises an error, it does not answer within the time limit, or its task breaks
down. An adapter that is reached but refuses a change answers with a failure.
-/

namespace Outbox

/-- What an adapter is asked to do: the change of one entity. -/
structure SyncRequest where
  /-- Which entity was changed. -/
  entityId : String
  /-- What happened to it. -/
  action : Action
  /-- What it looked like afterwards. -/
  payload : Json
  deriving DecidableEq

namespace SyncRequest

/-- The request for an event. -/
def ofEvent (e : Event) : SyncRequest := ⟨e.entityId, e.action, e.payload⟩

/-- The request for a mutation. -/
def ofMutation (m : Mutation) : SyncRequest := ⟨m.entityId, m.action, m.payload⟩

end SyncRequest

/-- What an adapter says about a change. -/
structure SyncOutcome where
  /-- The system downstream took it over. -/
  success : Bool
  /-- The details. -/
  message : String
  deriving DecidableEq, Repr

namespace SyncOutcome

/-- The change was taken over. -/
def ok (message : String) : SyncOutcome := ⟨true, message⟩

/-- The change was refused. -/
def failed (message : String) : SyncOutcome := ⟨false, message⟩

end SyncOutcome

/-- What an adapter says about its system. -/
structure Health where
  /-- The system can be reached. -/
  healthy : Bool
  /-- The details. -/
  message : String
  deriving DecidableEq, Repr

/-- What is known about the system of one adapter. -/
structure HealthReport where
  /-- The name of the adapter. -/
  adapter : String
  /-- The system can be reached. -/
  healthy : Bool
  /-- The details. -/
  message : String
  deriving DecidableEq, Repr

/-- How a call ended. -/
inductive CallEnd (α : Type) where
  /-- With an answer. -/
  | answered (a : α)
  /-- With an error. -/
  | raised (e : DeliveryError)
  /-- Without an answer in time. -/
  | timedOut
  /-- By the breakdown of its task. -/
  | panicked (task : Nat) (message : String)

/-- What is said of a task that broke down. -/
def panicText (task : Nat) (message : String) : String :=
  "task " ++ toString task ++ " panicked with message " ++ Text.quoted message

/-- How an attempt to sync went. -/
inductive AttemptResult where
  /-- It succeeded. -/
  | success
  /-- It failed, with the reason. -/
  | failure (message : String)
  deriving DecidableEq, Repr

namespace AttemptResult

/-- The attempt succeeded. -/
def isSuccess : AttemptResult → Bool
  | success => true
  | failure _ => false

/-- The reason of a failure. -/
def failure? : AttemptResult → Option String
  | success => none
  | failure message => some message

/-- How an attempt went, seen from the end of its call. -/
def ofCall (name : String) (limit : Span) : CallEnd SyncOutcome → AttemptResult
  | .answered o => if o.success then success else failure o.message
  | .raised e => failure e.message
  | .timedOut => failure (DeliveryError.timeout name limit).message
  | .panicked task message =>
    failure (DeliveryError.adapter name ("panicked: " ++ panicText task message)).message

end AttemptResult

namespace HealthReport

/-- What is known after a check, seen from the end of its call. -/
def ofCall (name : String) (limit : Span) : CallEnd Health → HealthReport
  | .answered h => ⟨name, h.healthy, h.message⟩
  | .raised e => ⟨name, false, e.message⟩
  | .timedOut => ⟨name, false, (DeliveryError.timeout name limit).message⟩
  | .panicked task message => ⟨name, false, "health check panicked: " ++ panicText task message⟩

end HealthReport

end Outbox
