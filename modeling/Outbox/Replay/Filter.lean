import Outbox.Event.Basic

/-!
# Which events a replay selects

A replay puts events back in the queue that have failed. A filter selects failed events,
dead ones or both, and may ask for an entity type, an entity id and an earliest time of
creation besides.
-/

namespace Outbox

/-- What a replay selects; all that is given must hold. -/
structure ReplayFilter where
  /-- The statuses an event may have. -/
  statuses : List Status := [.failed, .dead]
  /-- The entity type it must have. -/
  entityType : Option String := none
  /-- The entity id it must have. -/
  entityId : Option String := none
  /-- The earliest time of creation. -/
  since : Option Instant := none
  deriving DecidableEq

namespace ReplayFilter

/-- The filter for one status, or for both that can be replayed. -/
def forStatus : Option Status → Except StoreError ReplayFilter
  | none => .ok {}
  | some s =>
    if s.isReplayable then .ok { statuses := [s] } else .error (.invalid (.notReplayable s))

/-- Asks for an entity type. -/
def withEntityType (f : ReplayFilter) (s : String) : ReplayFilter :=
  { f with entityType := some s }

/-- Asks for an entity id. -/
def withEntityId (f : ReplayFilter) (s : String) : ReplayFilter := { f with entityId := some s }

/-- Asks for an earliest time of creation. -/
def withSince (f : ReplayFilter) (t : Instant) : ReplayFilter := { f with since := some t }

/-- The filter selects an event. -/
def selects (f : ReplayFilter) (e : Event) : Bool :=
  f.statuses.contains e.status && f.entityType.all (· == e.entityType) &&
    f.entityId.all (· == e.entityId) && f.since.all fun t => decide (t ≤ e.createdAt)

end ReplayFilter

end Outbox
