import Outbox.Store.Memory

/-!
# Where the event log is kept

The event log is in memory, or in a database that cannot be reached because its pool of
connections is closed. Then every operation fails, but a change that would be refused is
refused first.
-/

namespace Outbox

/-- Where the event log is kept. -/
inductive Backend where
  /-- In memory. -/
  | memory (s : Store)
  /-- In a database behind a closed pool. -/
  | unreachable

namespace Backend

/-- Why nothing can be done without a connection. -/
def closed : StoreError := .database .poolClosed

/-- An operation that may fail. -/
def attempt {α : Type} (f : Store → Except StoreError α × Store) :
    Backend → Except StoreError α × Backend
  | memory s =>
    let (a, s) := f s
    (a, memory s)
  | unreachable => (.error closed, unreachable)

/-- An operation that does not fail where the log is in memory. -/
def perform {α : Type} (f : Store → α × Store) : Backend → Except StoreError α × Backend :=
  attempt fun s =>
    let (a, s) := f s
    (.ok a, s)

/-- A question about the log. -/
def ask {α : Type} (f : Store → α) : Backend → Except StoreError α
  | memory s => .ok (f s)
  | unreachable => .error closed

/-- A change of the log in memory. -/
def update (f : Store → Store) : Backend → Backend
  | memory s => memory (f s)
  | unreachable => unreachable

/-- Appends the event of a change. -/
def append (now : Instant) (m : Mutation) : Backend → Except StoreError Event × Backend
  | memory s =>
    let (a, s) := s.append now m
    (a, memory s)
  | unreachable => (m.validate.bind fun _ => .error closed, unreachable)

/-- Whether the log answers. -/
def health : Backend → Except StoreError Unit
  | memory s => s.health
  | unreachable => .error closed

/-- The events, if they can be seen. -/
def events? : Backend → Option (List Event)
  | memory s => some s.events
  | unreachable => none

end Backend

end Outbox
