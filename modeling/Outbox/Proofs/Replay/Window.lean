import Outbox.Proofs.Time.Shift
import Outbox.Replay.Request

/-!
# The window of a replay

A request may ask for the events of the last so many days. The instant so many days before now
is found by moving now back, which leaves a leap second as if it were the second after, or is
not possible: then the window begins before the calendar does. `daysBefore?_eq_some_iff` and
`daysBefore?_eq_none_iff` say the one and the other by the nanoseconds since the epoch.
-/

namespace Outbox

/-- Nanoseconds in a day. -/
abbrev nanosPerDay : Int := secondsPerDay * nanosPerSecond

namespace Instant

/-- A move back by whole seconds, at least one, is one along the nanoseconds. -/
theorem shift?_seconds_back (t : Instant) {seconds : Nat} (h : 0 < seconds) :
    t.shift? (-((seconds : Int) * (nanosPerSecond : Int))) =
      ofNanos? (t.nanosSinceEpoch - (seconds : Int) * (nanosPerSecond : Int)) := by
  have hwhole : (-((seconds : Int) * (nanosPerSecond : Int))).tdiv (nanosPerSecond : Int) =
      -(seconds : Int) := by
    rw [Int.neg_tdiv, Int.mul_tdiv_cancel _ (by decide)]
  have hpart : (-((seconds : Int) * (nanosPerSecond : Int))).tmod (nanosPerSecond : Int) = 0 := by
    rw [Int.neg_tmod, Int.mul_tmod_left, Int.neg_zero]
  simp only [shift?, hwhole, hpart, settle_eq_ofNanos?]
  unfold nanosSinceEpoch nanosPerSecond
  split
  · rw [if_neg (by omega), if_pos (by omega)]
    congr 1
    omega
  · congr 1
    omega

/-! ### Days -/

/-- The instant so many days before another one. A leap second is the second after it for all
but the day itself. -/
structure IsDaysBefore (t now : Instant) (days : Nat) : Prop where
  /-- The days lie between the two. -/
  nanos : t.nanosSinceEpoch = now.nanosSinceEpoch - days * nanosPerDay
  /-- Without a day between them they are the same. -/
  same : days = 0 → t = now
  /-- Days before there is no leap second. -/
  plain : 0 < days → t.nano < nanosPerSecond

end Instant

namespace ReplayRequest

open Instant

theorem daysBefore?_zero (now : Instant) : daysBefore? now 0 = some now := by
  simp [daysBefore?, shift?_zero]

theorem daysBefore?_eq_ofNanos? (now : Instant) {days : Nat} (h : 0 < days) :
    daysBefore? now days = ofNanos? (now.nanosSinceEpoch - days * nanosPerDay) := by
  have hseconds : ((days * 86400 : Nat) : Int) = days * secondsPerDay := Int.natCast_mul ..
  have hback := now.shift?_seconds_back (show 0 < days * 86400 by omega)
  rw [hseconds] at hback
  rw [daysBefore?, hback, nanosPerDay, Int.mul_assoc]

theorem daysBefore?_eq_some_iff {now t : Instant} {days : Nat} :
    daysBefore? now days = some t ↔ t.IsDaysBefore now days := by
  rcases Nat.eq_zero_or_pos days with rfl | hpos
  · rw [daysBefore?_zero, Option.some.injEq]
    constructor
    · rintro rfl
      exact ⟨by simp, fun _ => rfl, fun h => absurd h (Nat.lt_irrefl 0)⟩
    · exact fun h => (h.same rfl).symm
  · rw [daysBefore?_eq_ofNanos? now hpos, ofNanos?_eq_some_iff]
    constructor
    · rintro ⟨hnanos, hplain⟩
      exact ⟨hnanos, fun h => absurd h (by omega), fun _ => hplain⟩
    · exact fun h => ⟨h.nanos, h.plain hpos⟩

/-- The window begins before the calendar does. -/
theorem daysBefore?_eq_none_iff {now : Instant} {days : Nat} :
    daysBefore? now days = none ↔
      now.nanosSinceEpoch - days * nanosPerDay < minSecond * nanosPerSecond := by
  rcases Nat.eq_zero_or_pos days with rfl | hpos
  · rw [daysBefore?_zero]
    have := now.minSecond_le_nanosSinceEpoch
    simp
    omega
  · rw [daysBefore?_eq_ofNanos? now hpos, ofNanos?_eq_none_iff]
    have hpoint := now.isPoint
    unfold IsPoint nanosPerSecond at hpoint
    unfold nanosSinceEpoch nanosPerDay secondsPerDay nanosPerSecond
    omega

end ReplayRequest

end Outbox
