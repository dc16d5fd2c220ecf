import Outbox.Proofs.Retry.Delay
import Outbox.Proofs.Worker.Outcome

/-!
# Where an event stands after its trials

A dispatch of an event that has come to its end is a `Trial` of it. What a policy makes of an
event is a matter of its trials alone. After a success there is no other one, nor after as
many failures as the policy allows; after fewer the event waits until the delay is over that
goes with the number of failures. `Standing` tells what is on record about the event in each
of these cases, and `Standing.outcome` says that the record of one more trial leads from one
such case to the next.
-/

namespace Outbox

/-- A dispatch of an event that has come to its end. -/
structure Trial where
  /-- When the outcome was to be recorded. -/
  time : Instant
  /-- How the dispatch went. -/
  result : AttemptResult

namespace RetryPolicy

variable {p : RetryPolicy} {trials : List Trial} {now : Instant}

/-- After these trials there may be another one: none was a success, and there were fewer than
the policy allows. -/
structure Open (p : RetryPolicy) (trials : List Trial) : Prop where
  /-- There was no success. -/
  failures : ∀ x ∈ trials, x.result ≠ .success
  /-- There were fewer failures than the policy allows. -/
  within : trials.length < p.maxAttempts

/-- After these trials there may be another one now: the delay after the last one is over. -/
structure Ready (p : RetryPolicy) (trials : List Trial) (now : Instant) : Prop
    extends p.Open trials where
  /-- The delay is over. -/
  waited : ∀ x ∈ trials.getLast?,
    ∃ t, x.time.after? (p.backoffDelay trials.length) = some t ∧ t ≤ now

/-- Earlier there was room for another trial as well. -/
theorem Open.of_append {more : List Trial} (h : p.Open (trials ++ more)) : p.Open trials where
  failures x hx := h.failures x (List.mem_append_left _ hx)
  within := by
    have hwithin := h.within
    rw [List.length_append] at hwithin
    omega

theorem Ready.later (h : p.Ready trials now) {t : Instant} (ht : now ≤ t) : p.Ready trials t where
  toOpen := h.toOpen
  waited x hx := by
    obtain ⟨u, hu, hle⟩ := h.waited x hx
    exact ⟨u, hu, Instant.le_trans hle ht⟩

/-- What is on record about an event after its trials. -/
inductive Standing (p : RetryPolicy) : List Trial → Event → Prop where
  /-- It was not tried yet. -/
  | untried {f : Event} (hstatus : f.status = .pending) (hattempts : f.attempts = 0)
      (hnext : f.nextRunAt = none) : Standing p [] f
  /-- It has failed, less often than the policy allows, and waits for the next trial. -/
  | waiting {failures : List Trial} {time next : Instant} {message : String} {f : Event}
      (hopen : p.Open (failures ++ [⟨time, .failure message⟩]))
      (hdelay : time.after? (p.backoffDelay (failures.length + 1)) = some next)
      (hstatus : f.status = .failed) (hattempts : f.attempts = failures.length + 1)
      (herror : f.lastError = some message) (hnext : f.nextRunAt = some next) :
      Standing p (failures ++ [⟨time, .failure message⟩]) f
  /-- It is synced. -/
  | synced {failures : List Trial} {time : Instant} {f : Event} (hopen : p.Open failures)
      (hstatus : f.status = .success) (hattempts : f.attempts = failures.length)
      (hprocessed : f.processedAt = some time) :
      Standing p (failures ++ [⟨time, .success⟩]) f
  /-- It has failed as often as the policy allows. -/
  | dead {failures : List Trial} {time : Instant} {message : String} {f : Event}
      (hopen : p.Open failures) (hfull : failures.length + 1 = p.maxAttempts)
      (hstatus : f.status = .dead) (hattempts : f.attempts = p.maxAttempts)
      (herror : f.lastError = some message) (hnext : f.nextRunAt = none) :
      Standing p (failures ++ [⟨time, .failure message⟩]) f

namespace Standing

variable {f : Event}

/-- An event that is due has not had its last trial, and the delay is over. -/
theorem ready (h : p.Standing trials f) (hpos : 0 < p.maxAttempts) (hdue : f.isDue now = true) :
    p.Ready trials now ∧ f.attempts = trials.length := by
  cases h with
  | untried hstatus hattempts hnext => exact ⟨⟨⟨by simp, hpos⟩, by simp⟩, hattempts⟩
  | @waiting failures time next message _ hopen hdelay hstatus hattempts herror hnext =>
    have hle : next ≤ now := by
      simpa [Event.isDue, Status.isClaimable, hstatus, hnext] using hdue
    refine ⟨⟨hopen, ?_⟩, by simp [hattempts]⟩
    simpa using ⟨next, hdelay, hle⟩
  | synced hopen hstatus hattempts hprocessed =>
    simp [Event.isDue, Event.claimExpired, Status.isClaimable, hstatus] at hdue
  | dead hopen hfull hstatus hattempts herror hnext =>
    simp [Event.isDue, Event.claimExpired, Status.isClaimable, hstatus] at hdue

/-- Before the last trial there was room for it. -/
theorem open_dropLast (h : p.Standing trials f) (hne : trials ≠ []) : p.Open trials.dropLast := by
  cases h with
  | untried => exact absurd rfl hne
  | waiting hopen => rw [List.dropLast_concat]; exact hopen.of_append
  | synced hopen => rw [List.dropLast_concat]; exact hopen
  | dead hopen => rw [List.dropLast_concat]; exact hopen

/-- What is recorded for the failure after some that the policy counts. -/
theorem storedFailures_eq (hmax : (p.maxAttempts : Int) ≤ Outbox.maxAttempts) {n : Nat}
    (hn : n ≤ p.maxAttempts) : Event.storedFailures n = n := by
  rw [Event.storedFailures]
  omega

/-- The record of one more trial leads from one standing to the next. -/
theorem outcome {chance : Chance} {result : AttemptResult} {d : Disposition}
    {g : Event → Event} (hopen : p.Open trials)
    (hattempts : f.attempts = trials.length) (hsteady : p.Steady)
    (hmax : (p.maxAttempts : Int) ≤ Outbox.maxAttempts)
    (houtcome : Outcome p now chance f result d g)
    (htime : result ≠ .success → f.nextFailure < p.maxAttempts →
      ∃ t, p.Schedules f.nextFailure now t) (leaseEnd : Instant) :
    p.Standing (trials ++ [⟨now, result⟩]) (g (Store.claimed leaseEnd f)) := by
  have hnext : f.nextFailure = trials.length + 1 := by
    rw [Event.nextFailure, hattempts, Int.toNat_natCast]
  have hwithin : trials.length + 1 ≤ p.maxAttempts := hopen.within
  have hstored : Event.storedFailures f.nextFailure = (trials.length + 1 : Nat) := by
    rw [hnext]
    exact storedFailures_eq hmax hwithin
  cases houtcome with
  | succeeded => exact .synced hopen rfl hattempts rfl
  | @retried message t hd =>
    obtain ⟨hlt, -, ht⟩ := hsteady.schedules hd
    rw [hnext] at hlt ht
    refine .waiting ⟨?_, ?_⟩ ?_ rfl ?_ rfl rfl
    · intro x hx
      rcases List.mem_append.1 hx with hx | hx
      · exact hopen.failures x hx
      · rw [List.mem_singleton.1 hx]
        exact nofun
    · rw [List.length_append]
      exact hlt
    · rw [hsteady.backoffDelay]
      exact ht
    · exact hstored
  | deadLettered hd =>
    -- The delay is not too long, so the event has failed often enough.
    have hfull : p.maxAttempts ≤ f.nextFailure := by
      by_contra hlt
      obtain ⟨t, -, hshift, -⟩ := htime nofun (Nat.lt_of_not_le hlt)
      rcases hsteady.givesUp hd with hmax | hlong
      · exact hlt hmax
      · exact hlong hshift
    have hlast : trials.length + 1 = p.maxAttempts := by omega
    exact .dead hopen hlast rfl (by rw [← hlast]; exact hstored) rfl rfl

end Standing

end RetryPolicy

end Outbox
