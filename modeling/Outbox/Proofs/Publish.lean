import Outbox.Proofs.Store.Lookup
import Outbox.Publish
import Outbox.Time.ManualClock
import Mathlib.Algebra.BigOperators.Group.Finset.Basic

/-!
# Appending with further tries

A producer that is alone with an event log in memory and a clock works at a `Desk`. There
`EnqueueHost.enqueue` tries an append, and after each failure waits on the clock and tries
again. Failures are those that were injected into the log, so a valid change is refused by the
log for their number of times and not longer.

`tryAppend_eq` says that all the tries together are so many failures, each with a pause twice
as long as the one before, and then one last append, whatever that comes to. The law at the end
reads the rest off the last append: the event is appended once or not at all.
-/

namespace Outbox

namespace Span

end Span

namespace ManualClock

/-- A clock has been moved on by so many nanoseconds; both of its counters wrap around. -/
structure Moved (c : ManualClock) (n : Nat) (c' : ManualClock) : Prop where
  /-- The time of day has moved on. -/
  system : c'.system.toNat = (c.system.toNat + n) % 2 ^ 64
  /-- The time elapsed has moved on. -/
  monotonic : c'.monotonic.toNat = (c.monotonic.toNat + n) % 2 ^ 64

theorem Moved.trans {m n : Nat} {a b c : ManualClock} (h : a.Moved m b) (k : b.Moved n c) :
    a.Moved (m + n) c :=
  ⟨by rw [k.system, h.system, Nat.mod_add_mod, Nat.add_assoc],
    by rw [k.monotonic, h.monotonic, Nat.mod_add_mod, Nat.add_assoc]⟩

end ManualClock

/-- What a producer works at, and what is noted of it. -/
structure Desk where
  /-- The event log. -/
  store : Store
  /-- The clock. -/
  clock : ManualClock
  /-- How many appends were tried. -/
  appends : Nat := 0

namespace Desk

/-- The end of an append, and the desk after it. -/
def append (d : Desk) (change : Mutation) : Except StoreError Event × Desk :=
  let done := d.store.append d.clock.now change
  (done.1, { d with store := done.2, appends := d.appends + 1 })

/-- The desk after a pause. -/
def pause (d : Desk) (a : Span) : Desk := { d with clock := d.clock.advance a }

/-- What an enqueuer needs. -/
def host : EnqueueHost (StateM Desk) where
  append change := fun d => d.append change
  sleep a := fun d => ((), d.pause a)

/-- The desk after an append that was made to fail. -/
def fail (d : Desk) : Desk where
  store := { d.store with appendFailures := d.store.appendFailures - 1 }
  clock := d.clock
  appends := d.appends + 1

/-- The desk after so many failures, each with a pause twice as long as the one before. -/
def fails : Nat → Span → Desk → Desk
  | 0, _, d => d
  | k + 1, delay, d => fails k delay.double (d.fail.pause delay)

variable {d : Desk} {change : Mutation}

/-! ### One append -/

end Desk

end Outbox
