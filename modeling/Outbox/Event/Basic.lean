import Outbox.Error.Store
import Outbox.Json.Value
import Outbox.Time.Instant

/-!
# Events

An event is the lasting record of one change of an entity that has to reach every system
downstream. What it says about the change never changes; what it says about its delivery
does: its status, how many attempts failed, the last failure and the time from which the
event may be claimed again. That time is the date of the next attempt while the event is
failed, and the end of the claim while it is processing.
-/

namespace Outbox

/-- A change of an entity. -/
structure Mutation where
  /-- What kind of thing was changed. -/
  entityType : String
  /-- Which one was changed. -/
  entityId : String
  /-- What happened to it. -/
  action : Action
  /-- What it looked like afterwards. -/
  payload : Json := .null
  deriving DecidableEq

namespace Mutation

/-- Why a mutation is refused: neither the type nor the id may be blank. -/
def refusal? (m : Mutation) : Option InvalidInput :=
  if Text.isBlankText m.entityType then some .blankEntityType
  else if Text.isBlankText m.entityId then some .blankEntityId
  else none

/-- A mutation that is accepted. -/
def validate (m : Mutation) : Except StoreError Unit :=
  match m.refusal? with
  | some why => .error (.invalid why)
  | none => .ok ()

end Mutation

/-- The record of one change and of its delivery. -/
structure Event where
  /-- The number of the event in the log. -/
  id : Int
  /-- What kind of thing was changed. -/
  entityType : String
  /-- Which one was changed. -/
  entityId : String
  /-- What happened to it. -/
  action : Action
  /-- What it looked like afterwards. -/
  payload : Json
  /-- Where the event stands. -/
  status : Status
  /-- How many attempts have failed. -/
  attempts : Int
  /-- What the last failure was. -/
  lastError : Option String
  /-- From when on the event may be claimed again. -/
  nextRunAt : Option Instant
  /-- When the event was appended. -/
  createdAt : Instant
  /-- When the event was synced. -/
  processedAt : Option Instant
  deriving DecidableEq

namespace Event

/-- The event of a mutation as it is appended. -/
def ofMutation (m : Mutation) (id : Int) (now : Instant) : Event where
  id := id
  entityType := m.entityType
  entityId := m.entityId
  action := m.action
  payload := m.payload
  status := .pending
  attempts := 0
  lastError := none
  nextRunAt := none
  createdAt := now
  processedAt := none

/-- The claim of the event has ended without an outcome. A claim without an end never
does. -/
def claimExpired (e : Event) (now : Instant) : Bool :=
  e.status == .processing && e.nextRunAt.any fun t => decide (t ≤ now)

/-- A worker may claim the event. -/
def isDue (e : Event) (now : Instant) : Bool :=
  if e.status.isClaimable then e.nextRunAt.all fun t => decide (t ≤ now)
  else e.claimExpired now

/-- The event as it waits for its first attempt again. -/
def reset (e : Event) : Event :=
  { e with status := .pending, attempts := 0, lastError := none, nextRunAt := none }

/-- The event was appended earlier than another one, or at the same time under a lower
number. -/
def precedes (a b : Event) : Bool :=
  decide (a.createdAt < b.createdAt) || (a.createdAt == b.createdAt && decide (a.id < b.id))

end Event

end Outbox
