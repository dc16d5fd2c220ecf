import Outbox.Text.Blank

/-!
# Actions and statuses

What happened to an entity, and where an event about it stands. Both have an upper-case
name, which is the only form that is written; a name is recognised in any case.
-/

namespace Outbox

/-- What happened to an entity. -/
inductive Action where
  /-- It was created. -/
  | create
  /-- It was changed. -/
  | update
  /-- It was removed. -/
  | delete
  deriving DecidableEq, Repr, Inhabited

namespace Action

/-- The name of an action. -/
def name : Action → String
  | create => "CREATE"
  | update => "UPDATE"
  | delete => "DELETE"

/-- Every action. -/
def all : List Action := [create, update, delete]

/-- The action with exactly this name. -/
def ofName? (s : String) : Option Action := all.find? fun a => a.name == s

/-- The action with this name in any case. -/
def parse? (s : String) : Option Action := ofName? (Text.upper s)

theorem ofName?_name (a : Action) : ofName? a.name = some a := by cases a <;> decide

end Action

/-- Where an event stands.

A new event is pending. A worker that claims it makes it processing until the outcome is
known: success, or failed until the next attempt, or dead when there is none left. -/
inductive Status where
  /-- Waiting for a worker. -/
  | pending
  /-- Claimed by a worker until its lease ends. -/
  | processing
  /-- Synced by every adapter. -/
  | success
  /-- The last attempt failed and another one is scheduled. -/
  | failed
  /-- Out of attempts. -/
  | dead
  deriving DecidableEq, Repr, Inhabited

namespace Status

/-- The name of a status. -/
def name : Status → String
  | pending => "PENDING"
  | processing => "PROCESSING"
  | success => "SUCCESS"
  | failed => "FAILED"
  | dead => "DEAD"

/-- Every status, in the order of an event's life. -/
def all : List Status := [pending, processing, success, failed, dead]

/-- The place of a status in an event's life. -/
def order : Status → Nat
  | pending => 0
  | processing => 1
  | success => 2
  | failed => 3
  | dead => 4

/-- The status with exactly this name. -/
def ofName? (s : String) : Option Status := all.find? fun a => a.name == s

/-- The status with this name in any case. -/
def parse? (s : String) : Option Status := ofName? (Text.upper s)

/-- A worker may claim an event in this status once its schedule allows it. -/
def isClaimable : Status → Bool
  | pending | failed => true
  | processing | success | dead => false

/-- An operator may select events in this status for a replay. -/
def isReplayable : Status → Bool
  | failed | dead => true
  | pending | processing | success => false

theorem ofName?_name (s : Status) : ofName? s.name = some s := by cases s <;> decide

end Status

end Outbox
