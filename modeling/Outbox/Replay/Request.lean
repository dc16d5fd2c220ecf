import Outbox.Json.Decode
import Outbox.Replay.Filter

/-!
# Requests for a replay

An operator asks for a replay in words. A status that is blank, or an entity type or id
that is, counts as not given. The earliest time may be given as a date, or else as a
number of days before now.
-/

namespace Outbox

/-- A replay as an operator asks for it. -/
structure ReplayRequest where
  /-- The name of a status. -/
  status : Option String := none
  /-- An entity type. -/
  entityType : Option String := none
  /-- An entity id. -/
  entityId : Option String := none
  /-- How many days to go back. -/
  fromDays : Option Nat := none
  /-- The earliest time; it takes precedence over the days. -/
  fromDate : Option Instant := none
  deriving DecidableEq

namespace ReplayRequest

/-- Days to go back are counted in 32 bits. -/
def maxDays : Nat := 4294967295

/-- The instant so many days before another one, if it is in the calendar. -/
def daysBefore? (now : Instant) (days : Nat) : Option Instant :=
  now.shift? (-((days : Int) * secondsPerDay * (nanosPerSecond : Int)))

/-- The status asked for. -/
def wantedStatus (r : ReplayRequest) : Except StoreError (Option Status) :=
  match r.status.map Text.trim with
  | none => .ok none
  | some "" => .ok none
  | some name => (Status.parse name).map some

/-- The earliest time of creation asked for. -/
def wantedSince (r : ReplayRequest) (now : Instant) : Except StoreError (Option Instant) :=
  match r.fromDate, r.fromDays with
  | some t, _ => .ok (some t)
  | none, none => .ok none
  | none, some days =>
    match daysBefore? now days with
    | some t => .ok (some t)
    | none => .error (.invalid (.windowOutOfRange days))

/-- A text that is not blank. -/
def given (s : Option String) : Option String := s.filter fun s => !Text.isBlankText s

/-- The filter that a request asks for at a given time. -/
def filter (r : ReplayRequest) (now : Instant) : Except StoreError ReplayFilter := do
  let f ← ReplayFilter.forStatus (← r.wantedStatus)
  let since ← r.wantedSince now
  .ok { f with entityType := given r.entityType, entityId := given r.entityId, since := since }

/-- The members of a request, in the order of its array form. -/
def fields : List (Json.Field ReplayRequest) :=
  [ .nullable "status" .text fun s r => { r with status := s },
    .nullable "entityType" .text fun s r => { r with entityType := s },
    .nullable "entityId" .text fun s r => { r with entityId := s },
    .nullable "fromDays" (.natural maxDays) fun n r => { r with fromDays := n },
    .nullable "fromDate" .instant fun t r => { r with fromDate := t } ]

/-- Reads a request. -/
def decoder : Json.Decoder ReplayRequest := .record fields {}

end ReplayRequest

end Outbox
