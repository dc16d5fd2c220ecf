import Outbox.Retry.Policy

/-!
# What a policy decides

After a failure the event is tried again, or it is given up, or there is no decision at all:
when the delay is one by which an instant can be moved, but the calendar ends before the next
attempt. `decision_cases` says when which of these is so.

A policy without a spread is steady: the delay after a failure depends on nothing but the
number of the failure. Then the failure itself tells whether the policy `Schedules` the next
attempt, `GivesUp` the event, or the failure `Overruns` the calendar.
-/

namespace Outbox

namespace Span

theorem eq_of_nanos_eq {a b : Span} (h : a.nanos = b.nanos) : a = b := by
  cases a
  cases b
  simpa using h

theorem ofNanos_nanos (a : Span) : ofNanos a.nanos = a :=
  eq_of_nanos_eq (by rw [nanos_ofNanos, Nat.min_eq_left a.bounded])

theorem shorter_shorter (a b : Span) : (a.shorter b).shorter b = a.shorter b :=
  eq_of_nanos_eq (by simp only [nanos_shorter]; omega)

end Span

namespace RetryPolicy

variable {p : RetryPolicy} {attempts : Nat} {failedAt : Instant} {chance : Chance}

/-- The delays are not spread. -/
def Steady (p : RetryPolicy) : Prop := p.jitter.magnitude = 0

instance (p : RetryPolicy) : Decidable p.Steady := inferInstanceAs (Decidable (_ = _))

/-- Without a spread the delay does not depend on chance. -/
theorem Steady.backoffDelay (h : p.Steady) (attempts : Nat) (chance : Chance) :
    p.backoffDelay attempts chance = p.plainDelay attempts := by
  have hspread : p.spread (p.plainDelay attempts) = 0 := by
    rw [Steady] at h
    simp [spread, h]
  have hplain : (p.plainDelay attempts).shorter p.maxDelay = p.plainDelay attempts := by
    rw [plainDelay, Span.shorter_shorter]
  simp [RetryPolicy.backoffDelay, hspread, Span.ofNanos_nanos, hplain]

/-- After the failure the event is tried again from a time on. -/
def Schedules (p : RetryPolicy) (attempts : Nat) (failedAt t : Instant) : Prop :=
  attempts < p.maxAttempts ∧ p.plainDelay attempts ≤ Instant.maxShift ∧
    failedAt.after? (p.plainDelay attempts) = some t

/-- After the failure the event is given up: it has failed often enough, or the delay is
longer than an instant can be moved. -/
def GivesUp (p : RetryPolicy) (attempts : Nat) : Prop :=
  p.maxAttempts ≤ attempts ∨ ¬ p.plainDelay attempts ≤ Instant.maxShift

/-- After the failure the event should be tried again, but the calendar ends before that. -/
def Overruns (p : RetryPolicy) (attempts : Nat) (failedAt : Instant) : Prop :=
  attempts < p.maxAttempts ∧ p.plainDelay attempts ≤ Instant.maxShift ∧
    failedAt.after? (p.plainDelay attempts) = none

/-- The event is given up, tried again from a time on, or there is no decision. -/
theorem decision_cases (p : RetryPolicy) (attempts : Nat) (failedAt : Instant)
    (chance : Chance) :
    ((p.maxAttempts ≤ attempts ∨ ¬ p.backoffDelay attempts chance ≤ Instant.maxShift) ∧
        ((∃ n, p.decision attempts failedAt chance = .exhausted n) ∨
          p.decision attempts failedAt chance = .delayTooLong)) ∨
      (∃ t, (attempts < p.maxAttempts ∧ p.backoffDelay attempts chance ≤ Instant.maxShift ∧
          failedAt.after? (p.backoffDelay attempts chance) = some t) ∧
        p.decision attempts failedAt chance = .retry t) ∨
      (attempts < p.maxAttempts ∧ p.backoffDelay attempts chance ≤ Instant.maxShift ∧
          failedAt.after? (p.backoffDelay attempts chance) = none) ∧
        p.decision attempts failedAt chance = .pastCalendar := by
  simp only [decision]
  split
  · next hmax => exact .inl ⟨.inl hmax, .inl ⟨_, rfl⟩⟩
  · next hmax =>
    have hlt : attempts < p.maxAttempts := Nat.lt_of_not_le hmax
    split
    · next hshift =>
      cases ht : failedAt.after? (p.backoffDelay attempts chance) with
      | some t => exact .inr (.inl ⟨t, ⟨hlt, hshift, rfl⟩, rfl⟩)
      | none => exact .inr (.inr ⟨⟨hlt, hshift, rfl⟩, rfl⟩)
    · next hshift => exact .inl ⟨.inr hshift, .inr rfl⟩

/-- A policy, spread or not, has no decision exactly if there are attempts left and the delay is
one by which an instant can be moved, but the calendar ends before the next attempt. -/
theorem decision_eq_pastCalendar_iff :
    p.decision attempts failedAt chance = .pastCalendar ↔
      attempts < p.maxAttempts ∧ p.backoffDelay attempts chance ≤ Instant.maxShift ∧
        failedAt.after? (p.backoffDelay attempts chance) = none := by
  constructor
  · intro hd
    obtain ⟨-, ⟨n, hd'⟩ | hd'⟩ | ⟨t, -, hd'⟩ | ⟨hpast, -⟩ :=
      p.decision_cases attempts failedAt chance
    · simp [hd'] at hd
    · simp [hd'] at hd
    · simp [hd'] at hd
    · exact hpast
  · rintro ⟨hlt, hshift, ht⟩
    simp [decision, Nat.not_le.2 hlt, hshift, ht]

/-- A failure is given up, tried again from a time on, or overruns the calendar. -/
theorem Steady.decision_cases (h : p.Steady) (attempts : Nat) (failedAt : Instant)
    (chance : Chance) :
    (p.GivesUp attempts ∧ ((∃ n, p.decision attempts failedAt chance = .exhausted n) ∨
        p.decision attempts failedAt chance = .delayTooLong)) ∨
      (∃ t, p.Schedules attempts failedAt t ∧
        p.decision attempts failedAt chance = .retry t) ∨
      p.Overruns attempts failedAt ∧ p.decision attempts failedAt chance = .pastCalendar := by
  have hcases := p.decision_cases attempts failedAt chance
  rw [h.backoffDelay] at hcases
  exact hcases

/-- A next attempt that is decided on is one that the policy schedules. -/
theorem Steady.schedules (h : p.Steady) {t : Instant}
    (hd : p.decision attempts failedAt chance = .retry t) : p.Schedules attempts failedAt t := by
  obtain ⟨-, ⟨n, hd'⟩ | hd'⟩ | ⟨u, hschedules, hd'⟩ | ⟨-, hd'⟩ :=
    h.decision_cases attempts failedAt chance
  · simp [hd'] at hd
  · simp [hd'] at hd
  · rw [hd', RetryDecision.retry.injEq] at hd
    exact hd ▸ hschedules
  · simp [hd'] at hd

/-- An event that is decided to be given up is one that the policy gives up. -/
theorem Steady.givesUp (h : p.Steady)
    (hd : (∃ n, p.decision attempts failedAt chance = .exhausted n) ∨
      p.decision attempts failedAt chance = .delayTooLong) : p.GivesUp attempts := by
  obtain ⟨hgivesUp, -⟩ | ⟨t, -, hd'⟩ | ⟨-, hd'⟩ := h.decision_cases attempts failedAt chance
  · exact hgivesUp
  · simp [hd'] at hd
  · simp [hd'] at hd

theorem Overruns.not_schedules (h : p.Overruns attempts failedAt) (t : Instant) :
    ¬ p.Schedules attempts failedAt t := by
  rintro ⟨-, -, ht⟩
  simp [h.2.2] at ht

/-- Without a spread that is to say that the failure overruns the calendar. -/
theorem Steady.pastCalendar_iff_overruns (h : p.Steady) :
    p.decision attempts failedAt chance = .pastCalendar ↔ p.Overruns attempts failedAt := by
  rw [decision_eq_pastCalendar_iff, h.backoffDelay]
  rfl

end RetryPolicy

end Outbox
