import Outbox.Event.Status

/-!
# Errors of the event store

An operation on the event log fails for one of four kinds of reasons. The reason is kept
as a value; `StoreError.reason` words it, and `StoreError.message` puts the kind in
front.
-/

namespace Outbox

/-- Why the database did not answer. -/
inductive DatabaseFault where
  /-- An append was made to fail. -/
  | appendInjected
  /-- The write of an outcome was made to fail. -/
  | outcomeInjected
  /-- The pool of connections is closed. -/
  | poolClosed
  /-- No connection became free in time. -/
  | poolTimedOut
  /-- The task that serves the connection is gone. -/
  | workerCrashed
  /-- The peer sent something unexpected. -/
  | protocol (detail : String)
  /-- A column is missing. -/
  | columnNotFound (column : String)
  /-- The database reports an error of its own. -/
  | reported (detail : String)
  /-- Any other reason. -/
  | other (detail : String)
  deriving DecidableEq

namespace DatabaseFault

/-- The wording of a database fault. -/
def reason : DatabaseFault → String
  | appendInjected => "injected append failure"
  | outcomeInjected => "injected outcome write failure"
  | poolClosed => "attempted to acquire a connection on a closed pool"
  | poolTimedOut => "pool timed out while waiting for an open connection"
  | workerCrashed => "attempted to communicate with a crashed background worker"
  | protocol detail => "encountered unexpected or invalid data: " ++ detail
  | columnNotFound column => "no column found for name: " ++ column
  | reported detail => "error returned from database: " ++ detail
  | other detail => detail

end DatabaseFault

/-- What was not found. -/
inductive Missing where
  /-- An event. -/
  | event (id : Int)
  /-- A row that had to be there. -/
  | row
  /-- Anything else. -/
  | other (detail : String)
  deriving DecidableEq

namespace Missing

/-- The wording of what is missing. -/
def reason : Missing → String
  | event id => "event " ++ toString id ++ " not found"
  | row => "requested entity not found"
  | other detail => detail

end Missing

/-- Which rule an operation would break. -/
inductive Conflict where
  /-- The event is claimed by a worker whose lease has not ended. -/
  | inProgress (id : Int)
  /-- A value that must be unique is there already. -/
  | notUnique (detail : String)
  /-- A value is refused by a check. -/
  | checkFailed (detail : String)
  /-- Anything else. -/
  | other (detail : String)
  deriving DecidableEq

namespace Conflict

/-- The wording of a conflict. -/
def reason : Conflict → String
  | inProgress id => "event " ++ toString id ++ " is being processed"
  | notUnique detail => "unique constraint violation: " ++ detail
  | checkFailed detail => "check constraint violation: " ++ detail
  | other detail => detail

end Conflict

/-- Why an input is refused. -/
inductive InvalidInput where
  /-- No status has this name. -/
  | unknownStatus (name : String)
  /-- No action has this name. -/
  | unknownAction (name : String)
  /-- The entity type is blank. -/
  | blankEntityType
  /-- The entity id is blank. -/
  | blankEntityId
  /-- Events in this status are not replayed. -/
  | notReplayable (status : Status)
  /-- So many days back the calendar has no date. -/
  | windowOutOfRange (days : Nat)
  /-- A payload is not JSON. -/
  | notJson (detail : String)
  /-- Anything else. -/
  | other (detail : String)
  deriving DecidableEq

namespace InvalidInput

/-- The wording of a refusal. -/
def reason : InvalidInput → String
  | unknownStatus name => "invalid event status: " ++ name
  | unknownAction name => "invalid entity action: " ++ name
  | blankEntityType => "entity type must not be empty"
  | blankEntityId => "entity id must not be empty"
  | notReplayable status => "replay status must be FAILED or DEAD, got " ++ status.name
  | windowOutOfRange days => "fromDays " ++ toString days ++ " is out of range"
  | notJson detail => "payload is not valid JSON: " ++ detail
  | other detail => detail

end InvalidInput

/-- Why an operation on the event log failed. -/
inductive StoreError where
  /-- The database did not answer. -/
  | database (fault : DatabaseFault)
  /-- Something is not there. -/
  | notFound (what : Missing)
  /-- A rule would be broken. -/
  | conflict (rule : Conflict)
  /-- The input is refused. -/
  | invalid (why : InvalidInput)
  deriving DecidableEq

namespace StoreError

/-- The wording of an error without its kind. -/
def reason : StoreError → String
  | database fault => fault.reason
  | notFound what => what.reason
  | conflict rule => rule.reason
  | invalid why => why.reason

/-- The wording of an error. -/
def message : StoreError → String
  | database fault => "Database error: " ++ fault.reason
  | notFound what => "Not found: " ++ what.reason
  | conflict rule => "Constraint violation: " ++ rule.reason
  | invalid why => "Invalid input: " ++ why.reason

/-- The error says that something is not there. -/
def isNotFound : StoreError → Bool
  | notFound _ => true
  | _ => false

end StoreError

namespace Action

/-- The action with this name in any case, or the refusal of the name. -/
def parse (s : String) : Except StoreError Action :=
  match parse? s with
  | some a => .ok a
  | none => .error (.invalid (.unknownAction s))

end Action

namespace Status

/-- The status with this name in any case, or the refusal of the name. -/
def parse (s : String) : Except StoreError Status :=
  match parse? s with
  | some a => .ok a
  | none => .error (.invalid (.unknownStatus s))

end Status

end Outbox
