import Outbox.Time.Instant

/-!
# A clock that is advanced by hand

The clock counts 64-bit nanoseconds: those since the epoch for the time of day and
those since it was set for the time elapsed. One advance counts at most 2⁶⁴ - 1
nanoseconds, and the sums wrap around. Sleeping on this clock advances it at once.
-/

namespace Outbox

/-- The number of values that the clock's counters take. -/
def ManualClock.modulus : Nat := 18446744073709551616

/-- A clock that moves only when told to. -/
structure ManualClock where
  /-- Nanoseconds since the epoch. -/
  system : UInt64
  /-- Nanoseconds since the clock was set. -/
  monotonic : UInt64
  deriving DecidableEq

namespace ManualClock

/-- The nanoseconds of a span that one advance counts. -/
def counted (a : Span) : UInt64 := UInt64.ofNat (min a.nanos (modulus - 1))

/-- A clock set to an instant. Earlier instants than the epoch set it to the epoch,
later ones than its range to the end of its range. -/
def startingAt (t : Instant) : ManualClock :=
  ⟨UInt64.ofNat (min t.nanosSinceEpoch.toNat (modulus - 1)), 0⟩

/-- Moves the clock on by a span. -/
def advance (c : ManualClock) (a : Span) : ManualClock :=
  ⟨c.system + counted a, c.monotonic + counted a⟩

/-- The time on the clock. -/
def now (c : ManualClock) : Instant :=
  (Instant.ofNanos? c.system.toNat).getD Instant.latest

/-- The time since the clock was set. -/
def elapsed (c : ManualClock) : Span := Span.ofNanos c.monotonic.toNat

end ManualClock

end Outbox
