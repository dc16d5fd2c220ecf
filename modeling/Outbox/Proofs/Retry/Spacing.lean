import Outbox.Proofs.Retry.Backoff
import Outbox.Proofs.Time.Shift

/-!
# How far apart the attempts are

The delay of a steady policy does not shrink from one failure to the next: neither the bound on the
doublings nor the one on spans nor the longest delay puts two delays the wrong way round
(`plainDelay_mono`). So a failure that is neither an earlier one in number nor at an earlier time is
not tried again earlier. There is one exception, which has nothing to do with the delays: a failure
in a leap second, less than a second after one before the leap second. Its next attempt is in the
leap second still, or is where it would be if the event had failed a second earlier, and so it may
come first (`Instant.InStep`).

The first delay is the shortest there is, and the longest delay the longest.
-/

namespace Outbox.RetryPolicy

variable {p : RetryPolicy}

/-! ### Delays -/

/-- The delays do not shrink. -/
theorem plainDelay_mono (p : RetryPolicy) {a b : Nat} (h : a ≤ b) :
    p.plainDelay a ≤ p.plainDelay b := by
  have hgrown : p.baseDelay.nanos * 2 ^ min (a - 1) maxDoublings ≤
      p.baseDelay.nanos * 2 ^ min (b - 1) maxDoublings :=
    Nat.mul_le_mul_left _ (Nat.pow_le_pow_right (by decide) (by omega))
  change (p.plainDelay a).nanos ≤ (p.plainDelay b).nanos
  rw [nanos_plainDelay, nanos_plainDelay]
  omega

/-- The first delay is the shortest one. -/
theorem shorter_le_plainDelay (p : RetryPolicy) (attempts : Nat) :
    p.baseDelay.shorter p.maxDelay ≤ p.plainDelay attempts := by
  have hfirst : (p.plainDelay 0).nanos = (p.baseDelay.shorter p.maxDelay).nanos := by
    rw [nanos_plainDelay, Span.nanos_shorter, Nat.zero_sub, Nat.zero_min, Nat.pow_zero,
      Nat.mul_one, Nat.min_comm]
  exact Span.eq_of_nanos_eq hfirst ▸ p.plainDelay_mono attempts.zero_le

theorem plainDelay_le_maxDelay (p : RetryPolicy) (attempts : Nat) :
    p.plainDelay attempts ≤ p.maxDelay := by
  change (p.plainDelay attempts).nanos ≤ p.maxDelay.nanos
  rw [nanos_plainDelay]
  exact Nat.min_le_left ..

/-! ### Attempts -/

/-- The time of a failure and that of the next attempt are as far apart as the policy allows. -/
structure Spaced (p : RetryPolicy) (failedAt time : Instant) : Prop where
  /-- The attempt is not earlier than the shortest delay has it. -/
  earliest : ∃ low, failedAt.after? (p.baseDelay.shorter p.maxDelay) = some low ∧ low ≤ time
  /-- It is not later than the longest delay has it, if the calendar reaches so far. -/
  latest : ∀ high, failedAt.after? p.maxDelay = some high → time ≤ high
  /-- Outside a leap second there are at least as many nanoseconds between the two as in the
  shortest delay. -/
  least : failedAt.nano < nanosPerSecond →
    failedAt.nanosSinceEpoch + min p.baseDelay.nanos p.maxDelay.nanos ≤ time.nanosSinceEpoch
  /-- There are never more than in the longest one. -/
  most : time.nanosSinceEpoch ≤ failedAt.nanosSinceEpoch + p.maxDelay.nanos

theorem Schedules.spaced {attempts : Nat} {failedAt time : Instant}
    (h : p.Schedules attempts failedAt time) : p.Spaced failedAt time := by
  obtain ⟨-, -, htime⟩ := h
  have hfirst : min p.baseDelay.nanos p.maxDelay.nanos ≤ (p.plainDelay attempts).nanos :=
    Span.nanos_shorter .. ▸ p.shorter_le_plainDelay attempts
  have hlongest : (p.plainDelay attempts).nanos ≤ p.maxDelay.nanos :=
    p.plainDelay_le_maxDelay attempts
  have hmoved := Instant.after?_eq_some_iff.1 htime
  constructor
  · exact Instant.exists_after?_of_le htime (p.shorter_le_plainDelay attempts)
  · intro high hhigh
    exact Instant.after?_le_after? failedAt.inStep_self (p.plainDelay_le_maxDelay attempts) htime
      hhigh
  · intro hplain
    omega
  · unfold Instant.nanosSinceEpoch nanosPerSecond at *
    omega

/-- An event is given up exactly if it has failed often enough or the delay is longer than an
instant can be moved. -/
theorem Steady.isSome_reason_iff (h : p.Steady) (attempts : Nat) (failedAt : Instant)
    (chance : Chance) :
    (p.decision attempts failedAt chance).reason?.isSome ↔ p.GivesUp attempts := by
  obtain ⟨hgivesUp, ⟨n, hd⟩ | hd⟩ | ⟨t, ⟨hlt, hshift, -⟩, hd⟩ | ⟨⟨hlt, hshift, -⟩, hd⟩ :=
    h.decision_cases attempts failedAt chance
  · simp [hd, RetryDecision.reason?, hgivesUp]
  · simp [hd, RetryDecision.reason?, hgivesUp]
  · simp [hd, RetryDecision.reason?, GivesUp, hlt, hshift]
  · simp [hd, RetryDecision.reason?, GivesUp, hlt, hshift]

/-- An event is given up exactly if it has failed often enough or its delay is longer than an
instant can be moved, which is 2⁶³ - 1 milliseconds. Else a later failure is not tried again
earlier, and each attempt is as far from its failure as the policy allows. -/
theorem Steady.retry_spacing (h : p.Steady) :
    (∀ attempts failedAt chance, (p.decision attempts failedAt chance).reason?.isSome ↔
        p.maxAttempts ≤ attempts ∨
          (2 ^ 63 - 1) * nanosPerMilli <
            min p.maxDelay.nanos (p.baseDelay.nanos * 2 ^ min (attempts - 1) maxDoublings)) ∧
      (∀ a b s t chance chance' r r', a ≤ b → b < p.maxAttempts → s.InStep t →
        p.decision a s chance = .retry r → p.decision b t chance' = .retry r' → r ≤ r') ∧
      ∀ attempts failedAt chance time,
        p.decision attempts failedAt chance = .retry time → p.Spaced failedAt time := by
  refine ⟨fun attempts failedAt chance => ?_, ?_, ?_⟩
  · rw [h.isSome_reason_iff, GivesUp, ← nanos_plainDelay]
    exact or_congr_right Nat.not_le
  · rintro a b s t chance chance' r r' hab - hstep hr hr'
    obtain ⟨-, -, hs⟩ := h.schedules hr
    obtain ⟨-, -, ht⟩ := h.schedules hr'
    exact Instant.after?_le_after? hstep (p.plainDelay_mono hab) hs ht
  · intro attempts failedAt chance time htime
    exact (h.schedules htime).spaced

/-- All delays are half a second. -/
def halfSecond : RetryPolicy := { baseDelay := .ofMillis 500, maxDelay := .ofMillis 500 }

/-- An instant in the last minute of the year 2016, which is a second longer than others: so many
milliseconds after 23:59:59. -/
def endOf2016 (millis : Fin 2000) : Instant where
  second := 1483228799
  nano := millis * nanosPerMilli
  isPoint := by
    have := millis.isLt
    unfold Instant.IsPoint Instant.minSecond Instant.maxSecond nanosPerSecond nanosPerMilli
    omega

/-- A failure in the leap second and one more than a second before are tried again in their
order, half a second later each. -/
theorem retry_spacing_endOf2016 :
    halfSecond.Steady ∧ (endOf2016 100).InStep (endOf2016 1200) ∧
      halfSecond.decision 1 (endOf2016 100) = .retry (endOf2016 600) ∧
      halfSecond.decision 2 (endOf2016 1200) = .retry (endOf2016 1700) ∧
      endOf2016 600 ≤ endOf2016 1700 ∧ halfSecond.Spaced (endOf2016 1200) (endOf2016 1700) ∧
      (halfSecond.decision 5 (endOf2016 1200)).reason?.isSome := by
  have hsteady : halfSecond.Steady := by decide
  have hstep : (endOf2016 100).InStep (endOf2016 1200) := by decide
  have hfirst : halfSecond.decision 1 (endOf2016 100) = .retry (endOf2016 600) := by
    decide +kernel
  have hsecond : halfSecond.decision 2 (endOf2016 1200) = .retry (endOf2016 1700) := by
    decide +kernel
  obtain ⟨hgivenUp, horder, hspaced⟩ := hsteady.retry_spacing
  refine ⟨hsteady, hstep, hfirst, hsecond, ?_, ?_, ?_⟩
  · exact horder 1 2 _ _ _ _ _ _ (by decide) (by decide) hstep hfirst hsecond
  · exact hspaced _ _ _ _ hsecond
  · exact (hgivenUp ..).2 (.inl (by decide))

/-- A failure in the leap second is tried again before one that came less than a second earlier:
the one stays in the leap second, the other one goes to the next year. -/
theorem retried_earlier_in_leap_second :
    ¬ ∀ (p : RetryPolicy) (a b : Nat) (s t r r' : Instant), p.Steady → a ≤ b → b < p.maxAttempts →
        s ≤ t → p.decision a s = .retry r → p.decision b t = .retry r' → r ≤ r' := by
  intro hall
  have hnext : halfSecond.decision 1 (endOf2016 900) =
      .retry ⟨1483228800, 400000000, by decide⟩ := by decide +kernel
  have hleap : halfSecond.decision 1 (endOf2016 1200) = .retry (endOf2016 1700) := by
    decide +kernel
  have hle := hall halfSecond 1 1 _ _ _ _ (by decide) le_rfl (by decide) (by decide) hnext hleap
  exact absurd hle (by decide)

end Outbox.RetryPolicy
