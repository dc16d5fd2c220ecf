import Outbox.Event.Basic
import Outbox.Json.Decode
import Outbox.Json.Print

/-!
# Events as JSON

An event is written as an object with all its members, in the order of their names. It
is read from any object or array that a record may be read from: members may be missing
that can be null, and unknown ones are passed over.
-/

namespace Outbox

/-- The least and greatest number of an event. -/
def minId : Int := -9223372036854775808

/-- The greatest number of an event. -/
def maxId : Int := 9223372036854775807

/-- The least count of attempts. -/
def minAttempts : Int := -2147483648

/-- The greatest count of attempts. -/
def maxAttempts : Int := 2147483647

namespace Action

/-- An action as JSON. -/
def toJson (a : Action) : Json := .text a.name

/-- Reads an action. -/
def decoder : Json.Decoder Action := Json.Decoder.name ofName?

end Action

namespace Status

/-- A status as JSON. -/
def toJson (s : Status) : Json := .text s.name

/-- Reads a status. -/
def decoder : Json.Decoder Status := Json.Decoder.name ofName?

end Status

namespace Instant

/-- An instant as JSON. -/
def toJson (t : Instant) : Json := .text t.timestamp

end Instant

namespace Mutation

/-- A mutation as JSON. -/
def toJson (m : Mutation) : Json :=
  .object
    [ ("action", m.action.toJson),
      ("entityId", .text m.entityId),
      ("entityType", .text m.entityType),
      ("payload", m.payload) ]

/-- The members of a mutation, in the order of its array form. -/
def fields : List (Json.Field Mutation) :=
  [ .required "entityType" .text fun s m => { m with entityType := s },
    .required "entityId" .text fun s m => { m with entityId := s },
    .required "action" Action.decoder fun a m => { m with action := a },
    .defaulted ["payload"] .json fun j m => { m with payload := j } ]

/-- Reads a mutation. -/
def decoder : Json.Decoder Mutation :=
  .record fields { entityType := "", entityId := "", action := .create }

end Mutation

namespace Event

/-- An event as JSON. -/
def toJson (e : Event) : Json :=
  .object
    [ ("action", e.action.toJson),
      ("attempts", .integer e.attempts),
      ("createdAt", e.createdAt.toJson),
      ("entityId", .text e.entityId),
      ("entityType", .text e.entityType),
      ("id", .integer e.id),
      ("lastError", .ofOption .text e.lastError),
      ("nextRunAt", .ofOption Instant.toJson e.nextRunAt),
      ("payload", e.payload),
      ("processedAt", .ofOption Instant.toJson e.processedAt),
      ("status", e.status.toJson) ]

/-- An event with nothing in it, which a reader fills. -/
def blank : Event :=
  ofMutation { entityType := "", entityId := "", action := .create } 0 Instant.epoch

/-- The members of an event, in the order of its array form. -/
def fields : List (Json.Field Event) :=
  [ .required "id" (.integer minId maxId) fun n e => { e with id := n },
    .required "entityType" .text fun s e => { e with entityType := s },
    .required "entityId" .text fun s e => { e with entityId := s },
    .required "action" Action.decoder fun a e => { e with action := a },
    .required "payload" .json fun j e => { e with payload := j },
    .required "status" Status.decoder fun s e => { e with status := s },
    .required "attempts" (.integer minAttempts maxAttempts) fun n e => { e with attempts := n },
    .nullable "lastError" .text fun s e => { e with lastError := s },
    .nullable "nextRunAt" .instant fun t e => { e with nextRunAt := t },
    .required "createdAt" .instant fun t e => { e with createdAt := t },
    .nullable "processedAt" .instant fun t e => { e with processedAt := t } ]

/-- Reads an event. -/
def decoder : Json.Decoder Event := .record fields blank

/-- The event that a text writes out. -/
def ofText (s : String) : Except Json.Fault Event := Json.decodeText decoder s

end Event

end Outbox
