import Outbox.Time.Calendar
import Outbox.Time.Span

/-!
# Instants

A point in time: a whole second counted from 1970-01-01T00:00:00Z and the nanoseconds
past it. The last second of a minute may run on through a leap second, so its
nanoseconds go up to two thousand million; instants are ordered by the second first,
and inside the long second by the nanosecond.

The calendar is finite: it ends with the years -262143 and 262142. Moving an instant
by a number of nanoseconds may leave it, which `Instant.shift?` reports.
-/

namespace Outbox

/-- Seconds in a day. -/
abbrev secondsPerDay : Int := 86400

namespace Instant

/-- The first second of the calendar. -/
def minSecond : Int := -8334601228800

/-- The last second of the calendar. -/
def maxSecond : Int := 8210266876799

/-- A second of the calendar and a nanosecond in it. Only the last second of a minute
can be a long one. -/
def IsPoint (second : Int) (nano : Nat) : Prop :=
  minSecond ≤ second ∧ second ≤ maxSecond ∧ nano < 2 * nanosPerSecond ∧
    (nanosPerSecond ≤ nano → second % 60 = 59)

instance (second : Int) (nano : Nat) : Decidable (IsPoint second nano) :=
  inferInstanceAs (Decidable (_ ∧ _ ∧ _ ∧ _))

end Instant

/-- A point in time. -/
structure Instant where
  /-- Whole seconds since 1970-01-01T00:00:00Z. -/
  second : Int
  /-- Nanoseconds past the second. -/
  nano : Nat
  /-- The second is in the calendar and the nanosecond in the second. -/
  isPoint : Instant.IsPoint second nano
  deriving DecidableEq

namespace Instant

/-- Earlier or the same. -/
instance : LE Instant :=
  ⟨fun a b => a.second < b.second ∨ (a.second = b.second ∧ a.nano ≤ b.nano)⟩

/-- Earlier. -/
instance : LT Instant :=
  ⟨fun a b => a.second < b.second ∨ (a.second = b.second ∧ a.nano < b.nano)⟩

instance (a b : Instant) : Decidable (a ≤ b) := inferInstanceAs (Decidable (_ ∨ _))

instance (a b : Instant) : Decidable (a < b) := inferInstanceAs (Decidable (_ ∨ _))

/-- 1970-01-01T00:00:00Z. -/
def epoch : Instant := ⟨0, 0, by decide⟩

instance : Inhabited Instant := ⟨epoch⟩

/-- The last instant of the calendar outside a leap second. -/
def latest : Instant := ⟨maxSecond, 999999999, by decide⟩

/-- The instant at a second and nanosecond, if they are a point of the calendar. -/
def mk? (second : Int) (nano : Nat) : Option Instant :=
  if h : IsPoint second nano then some ⟨second, nano, h⟩ else none

/-- The instant so many nanoseconds from the epoch, if it is in the calendar. -/
def ofNanos? (n : Int) : Option Instant :=
  mk? (n / (nanosPerSecond : Int)) (n % (nanosPerSecond : Int)).toNat

/-- Nanoseconds from the epoch. A leap second is counted as the second after it. -/
def nanosSinceEpoch (t : Instant) : Int := t.second * (nanosPerSecond : Int) + t.nano

/-- Moves an instant by a number of nanoseconds, back when it is negative.

Inside a leap second, a move of less than a second stays in the long second as far as
it reaches. A move that goes further on leaves it as if it were the second before, and
a move of a second or more backwards leaves it as if it were the second after. -/
def shift? (t : Instant) (offset : Int) : Option Instant :=
  let whole := offset.tdiv (nanosPerSecond : Int)
  let part := offset.tmod (nanosPerSecond : Int)
  if nanosPerSecond ≤ t.nano then
    if 0 < whole ∨ (0 < part ∧ 2 * (nanosPerSecond : Int) ≤ t.nano + part) then
      settle (t.second + whole) (t.nano - (nanosPerSecond : Int) + part)
    else if whole < 0 then
      settle (t.second + 1 + whole) (t.nano - (nanosPerSecond : Int) + part)
    else mk? t.second (t.nano + part).toNat
  else settle (t.second + whole) (t.nano + part)
where
  /-- Carries a nanosecond outside its second over to the neighbouring one. -/
  settle (second nano : Int) : Option Instant :=
    mk? (second + nano / (nanosPerSecond : Int)) (nano % (nanosPerSecond : Int)).toNat

/-- The instant a span later, if it is in the calendar. -/
def after? (t : Instant) (a : Span) : Option Instant := t.shift? a.nanos

/-- The instant a span later, or the end of the calendar. -/
def afterOrLatest (t : Instant) (a : Span) : Instant := (t.after? a).getD latest

/-- The longest delay by which an instant can be moved at all: 2⁶³ - 1 milliseconds. -/
def maxShift : Span := ⟨9223372036854775807000000, by decide⟩

/-! ### Order -/

theorem le_iff {a b : Instant} :
    a ≤ b ↔ a.second < b.second ∨ (a.second = b.second ∧ a.nano ≤ b.nano) := Iff.rfl

theorem lt_iff {a b : Instant} :
    a < b ↔ a.second < b.second ∨ (a.second = b.second ∧ a.nano < b.nano) := Iff.rfl

theorem eq_iff {a b : Instant} : a = b ↔ a.second = b.second ∧ a.nano = b.nano := by
  cases a
  cases b
  exact ⟨fun h => by cases h; exact ⟨rfl, rfl⟩, fun ⟨h, k⟩ => by cases h; cases k; rfl⟩

theorem le_refl (a : Instant) : a ≤ a := Or.inr ⟨rfl, Nat.le_refl _⟩

theorem le_trans {a b c : Instant} (h : a ≤ b) (k : b ≤ c) : a ≤ c := by
  rw [le_iff] at *; omega

theorem not_le {a b : Instant} : ¬ a ≤ b ↔ b < a := by
  rw [le_iff, lt_iff]; omega

end Instant

end Outbox
