import Outbox.Proofs.Retry.Delay
import Outbox.Settings.Basic
import Mathlib.Algebra.Group.Nat.Even

/-!
# How far the delays grow

The delay is meant to double from one failure to the next until it reaches the longest delay:
`RetryPolicy.doublingDelay`, in exact arithmetic. `RetryPolicy.plainDelay` computes with spans,
which cannot be arbitrarily long, and with at most twenty doublings.

The bound on spans does no harm. A product beyond the longest span is beyond the longest delay
too, and the longest delay stands in for it. The bound on the doublings does: where the longest
delay is more than twenty doublings away, the delay comes to a halt before it, at the
twenty-first failure, and all later events come back sooner than they should.
-/

namespace Outbox

namespace Span

theorem times?_eq_none_iff {a : Span} {k : Nat} : a.times? k = none ↔ maxNanos < a.nanos * k := by
  unfold times? ofNanos?
  split
  · next h => simp [Nat.not_lt.2 h]
  · next h => simp [Nat.lt_of_not_le h]

end Span

namespace RetryPolicy

variable {p : RetryPolicy} {attempts : Nat}

/-- The delay after failure number `attempts` that doubles from one failure to the next until
it reaches the longest delay. -/
def doublingDelay (p : RetryPolicy) (attempts : Nat) : Span where
  nanos := min p.maxDelay.nanos (p.baseDelay.nanos * 2 ^ (attempts - 1))
  bounded := Nat.le_trans (Nat.min_le_left ..) p.maxDelay.bounded

@[simp] theorem nanos_doublingDelay (p : RetryPolicy) (attempts : Nat) :
    (p.doublingDelay attempts).nanos =
      min p.maxDelay.nanos (p.baseDelay.nanos * 2 ^ (attempts - 1)) := rfl

/-- The delay in exact arithmetic: it doubles at most twenty times. -/
theorem nanos_plainDelay (p : RetryPolicy) (attempts : Nat) :
    (p.plainDelay attempts).nanos =
      min p.maxDelay.nanos (p.baseDelay.nanos * 2 ^ min (attempts - 1) maxDoublings) := by
  simp only [plainDelay, Nat.pow_eq, Span.nanos_shorter]
  cases htimes : p.baseDelay.times? (2 ^ min (attempts - 1) maxDoublings) with
  | some delay =>
    rw [Option.getD_some, Span.times?_eq_some_iff.1 htimes, Nat.min_comm]
  | none =>
    have hlong := Span.times?_eq_none_iff.1 htimes
    have hmax := p.maxDelay.bounded
    rw [Option.getD_none, Nat.min_self, Nat.min_eq_left (by omega)]

/-- The delay never goes beyond the one that doubles all the way. -/
theorem plainDelay_le_doublingDelay (p : RetryPolicy) (attempts : Nat) :
    p.plainDelay attempts ≤ p.doublingDelay attempts := by
  have hgrown : p.baseDelay.nanos * 2 ^ min (attempts - 1) maxDoublings ≤
      p.baseDelay.nanos * 2 ^ (attempts - 1) :=
    Nat.mul_le_mul_left _ (Nat.pow_le_pow_right (by decide) (Nat.min_le_left ..))
  change (p.plainDelay attempts).nanos ≤ (p.doublingDelay attempts).nanos
  rw [nanos_plainDelay, nanos_doublingDelay]
  omega

/-- Up to twenty doublings the delay is the one that doubles all the way. -/
theorem plainDelay_eq_of_le (h : attempts - 1 ≤ maxDoublings) :
    p.plainDelay attempts = p.doublingDelay attempts :=
  Span.eq_of_nanos_eq (by rw [nanos_plainDelay, Nat.min_eq_left h, nanos_doublingDelay])

/-- Beyond twenty doublings it is so only where the doublings have nothing left to do. -/
theorem plainDelay_eq_iff_of_lt (h : maxDoublings < attempts - 1) :
    p.plainDelay attempts = p.doublingDelay attempts ↔
      p.baseDelay.nanos = 0 ∨ p.maxDelay.nanos ≤ p.baseDelay.nanos * 2 ^ maxDoublings := by
  have hpow : 2 ^ maxDoublings < 2 ^ (attempts - 1) := Nat.pow_lt_pow_right (by decide) h
  have hplain := p.nanos_plainDelay attempts
  rw [Nat.min_eq_right (Nat.le_of_lt h)] at hplain
  have heq : p.plainDelay attempts = p.doublingDelay attempts ↔
      (p.plainDelay attempts).nanos = (p.doublingDelay attempts).nanos :=
    ⟨congrArg Span.nanos, Span.eq_of_nanos_eq⟩
  rw [heq, hplain, nanos_doublingDelay]
  rcases Nat.eq_zero_or_pos p.baseDelay.nanos with hbase | hbase
  · simp [hbase]
  · have hgrown := Nat.mul_lt_mul_of_pos_left hpow hbase
    omega

/-- For the first twenty-one failures, and for a policy whose longest delay is at most twenty
doublings away or whose delays do not grow at all, the delay without a spread is the one that
doubles until it reaches the longest delay. In all other cases it is shorter: it has stopped
at the delay after the twenty-first failure. -/
theorem backoffDelay_eq_doublingDelay_iff (h : p.Steady) (attempts : Nat) (chance : Chance) :
    (p.backoffDelay attempts chance = p.doublingDelay attempts ↔
      attempts ≤ 21 ∨ p.baseDelay.nanos = 0 ∨
        p.maxDelay.nanos ≤ p.baseDelay.nanos * 2 ^ 20) ∧
    (p.backoffDelay attempts chance ≠ p.doublingDelay attempts →
      p.backoffDelay attempts chance < p.doublingDelay attempts ∧
        (p.backoffDelay attempts chance).nanos = p.baseDelay.nanos * 2 ^ 20) := by
  rw [h.backoffDelay]
  have hiff : p.plainDelay attempts = p.doublingDelay attempts ↔
      attempts ≤ 21 ∨ p.baseDelay.nanos = 0 ∨
        p.maxDelay.nanos ≤ p.baseDelay.nanos * 2 ^ 20 := by
    rcases Nat.lt_or_ge maxDoublings (attempts - 1) with hlate | hearly
    · have hnot : ¬ attempts ≤ 21 := by
        rw [maxDoublings] at hlate
        omega
      rw [plainDelay_eq_iff_of_lt hlate, maxDoublings, or_iff_right hnot]
    · rw [maxDoublings] at hearly
      exact iff_of_true (plainDelay_eq_of_le hearly) (.inl (by omega))
  refine ⟨hiff, fun hne => ?_⟩
  have hless : (p.plainDelay attempts).nanos < (p.doublingDelay attempts).nanos :=
    Nat.lt_of_le_of_ne (p.plainDelay_le_doublingDelay attempts)
      fun heq => hne (Span.eq_of_nanos_eq heq)
  have hout := mt hiff.2 hne
  refine ⟨hless, ?_⟩
  rw [nanos_plainDelay, maxDoublings, Nat.min_eq_right (show 20 ≤ attempts - 1 by omega),
    Nat.min_eq_right (by omega)]

end RetryPolicy

/-- Settings that are accepted: the delays begin with a millisecond and may go up to an hour. -/
def upToAnHour : Settings :=
  { outboxMaxAttempts := 30, outboxBaseDelayMs := 1, outboxMaxDelayMs := 3600000 }

/-- After failure number 22 an event should wait for 2097.152 seconds. It waits for half of
that. -/
theorem RetryPolicy.backoffDelay_eq_doublingDelay_iff_upToAnHour :
    let p := upToAnHour.retryPolicy
    upToAnHour.refusal? = none ∧ p.Steady ∧ 22 < p.maxAttempts ∧
      (p.doublingDelay 22).millis = 2097152 ∧ p.backoffDelay 22 < p.doublingDelay 22 ∧
        (p.backoffDelay 22).millis = 1048576 := by
  intro p
  have hsteady : p.Steady := by decide +kernel
  obtain ⟨hiff, hless⟩ := backoffDelay_eq_doublingDelay_iff hsteady 22 .middle
  obtain ⟨hlt, hnanos⟩ := hless (mt hiff.1 (by decide +kernel))
  refine ⟨by decide +kernel, hsteady, by decide +kernel, by decide +kernel, hlt, ?_⟩
  rw [Span.millis, hnanos]
  decide +kernel

end Outbox
