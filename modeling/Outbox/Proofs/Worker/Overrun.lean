import Outbox.Proofs.Retry.Delay
import Outbox.Proofs.Worker.Alone
import Outbox.Settings.Basic

/-!
# Whether failures stay inside a cycle

A failed dispatch is meant to be recorded, as failed until the next attempt or as dead, and
the cycle to go on with the next event. So it is, with one exception. Where the policy asks
for a next attempt but the calendar ends before it, there is neither a time nor a verdict: the
worker breaks down with nothing written, the rest of the batch is left untried, and the event
stays processing. A delay that is too long for any instant is no such case; it makes the event
dead.

The law at the end says that this is the only exception: a call comes to a report if and only
if no failure overruns the calendar, for every event log, time and course of the dispatches.
-/

namespace Outbox

namespace Attempt

variable {w : WorkerSettings} {x : Attempt}

/-- The dispatch has failed, and the next attempt would come after the end of the calendar. -/
def Overruns (p : RetryPolicy) (x : Attempt) : Prop :=
  (∃ message, x.result = .failure message) ∧ p.Overruns x.event.nextFailure x.time

/-- A failure that overruns the calendar breaks the worker down, and nothing is written. -/
theorem IsSettled.of_overruns (h : x.IsSettled w) (hsteady : w.retry.Steady)
    (hover : x.Overruns w.retry) : x.ended = .error .pastCalendar ∧ x.after = x.before := by
  obtain ⟨chance, h⟩ := h
  obtain ⟨⟨message, hresult⟩, hover⟩ := hover
  have hdecision : w.retry.decision x.event.nextFailure x.time chance = .pastCalendar :=
    hsteady.pastCalendar_iff_overruns.2 hover
  rw [hresult] at h
  simp only [RetryPolicy.settle, hdecision] at h
  obtain ⟨hended, hafter⟩ := Prod.mk.inj h
  exact ⟨hended.symm, hafter.symm⟩

theorem IsSettled.not_overruns (h : x.IsSettled w) (hsteady : w.retry.Steady)
    (hended : ∃ d, x.ended = .ok d) : ¬ x.Overruns w.retry := by
  intro hover
  obtain ⟨d, hd⟩ := hended
  obtain ⟨hbroken, -⟩ := h.of_overruns hsteady hover
  rw [hd] at hbroken
  cases hbroken

/-- Nothing else breaks the worker down. -/
theorem IsSettled.overruns (h : x.IsSettled w) (hsteady : w.retry.Steady)
    (hended : x.ended = .error .pastCalendar) : x.Overruns w.retry := by
  obtain ⟨chance, h⟩ := h
  obtain ⟨hfailed, hdecision, -⟩ | ⟨-, why, hsettle⟩ | ⟨d, g, -, hsettle⟩ :=
    w.retry.settle_cases x.time x.event x.result x.before chance
  · exact ⟨hfailed, hsteady.pastCalendar_iff_overruns.1 hdecision⟩
  · rw [h, Prod.mk.injEq, hended] at hsettle
    exact absurd hsettle.1 (by simp)
  · rw [h, Prod.mk.injEq, hended] at hsettle
    exact absurd hsettle.1 (by simp)

/-- Any other failure is written, unless the write is made to fail: the event is failed and
has the time of the next attempt, or it is dead. -/
theorem IsSettled.written (h : x.IsSettled w) (hsteady : w.retry.Steady) {message : String}
    (hresult : x.result = .failure message) (hover : ¬ x.Overruns w.retry)
    (hwrites : x.before.outcomeFailures = 0) :
    ∃ next, x.after = x.before.modify x.event.id
        (Store.failed (Event.storedFailures x.event.nextFailure) message next) ∧
      match next with
      | some t => w.retry.Schedules x.event.nextFailure x.time t
      | none => w.retry.GivesUp x.event.nextFailure := by
  obtain ⟨chance, h⟩ := h
  obtain ⟨-, hdecision, -⟩ | ⟨hpos, -⟩ | ⟨d, g, houtcome, hsettle⟩ :=
    w.retry.settle_cases x.time x.event x.result x.before chance
  · exact absurd ⟨⟨message, hresult⟩, hsteady.pastCalendar_iff_overruns.1 hdecision⟩ hover
  · omega
  · rw [h, Prod.mk.injEq] at hsettle
    obtain ⟨-, hafter⟩ := hsettle
    rw [hresult] at houtcome
    cases houtcome with
    | retried hd => exact ⟨_, hafter, hsteady.schedules hd⟩
    | deadLettered hd => exact ⟨_, hafter, hsteady.givesUp hd⟩

end Attempt

/-- A policy has no decision exactly if there are attempts left and the delay is one by which an
instant can be moved, but the calendar ends before the next attempt. From that comes what a call
of an idle worker comes to whose policy does not spread the delays, if the log gives it a batch.
It works the batch off from the oldest event on. If no failure overruns the
calendar, it comes to the end of the batch, unless it is told to stop, and to a report. If one
does, for which the policy has no decision, the worker breaks down right there, and nothing is
written for that event. Every other failure is written, unless the write is made to fail: the
event is failed and has the time of the next attempt, or it is dead. -/
theorem Fate.poll_overrun (fate : Fate) {s : Scene} (hidle : s.worker.busy = false)
    (hfetch : s.store.fetchFailure = none) (hsteady : s.worker.settings.retry.Steady) :
    let p := s.worker.settings.retry
    let result := (fate.poll s).1
    let c := (fate.poll s).2
    (∀ (q : RetryPolicy) (attempts : Nat) (failedAt : Instant) (chance : Chance),
      q.decision attempts failedAt chance = .pastCalendar ↔
        attempts < q.maxAttempts ∧ q.backoffDelay attempts chance ≤ Instant.maxShift ∧
          failedAt.after? (q.backoffDelay attempts chance) = none) ∧
    (∀ attempts failedAt chance,
      p.decision attempts failedAt chance = .pastCalendar ↔ p.Overruns attempts failedAt) ∧
    (∃ rest, s.store.oldestDue s.now s.worker.settings.batchSize = c.tried ++ rest ∧
      ((∃ report, result = .ok (.ok report)) ∧ (∀ x ∈ c.attempts, ¬ x.Overruns p) ∧
          (rest = [] ∨ c.scene.worker.cancelled = true) ∨
        result = .error .pastCalendar ∧
          ∃ done x, c.attempts = done ++ [x] ∧ (∀ y ∈ done, ¬ y.Overruns p) ∧
            x.Overruns p ∧ x.after = x.before)) ∧
      ∀ x ∈ c.attempts, ∀ message, x.result = .failure message → ¬ x.Overruns p →
        x.before.outcomeFailures = 0 →
        ∃ next, x.after = x.before.modify x.event.id
            (Store.failed (Event.storedFailures x.event.nextFailure) message next) ∧
          match next with
          | some t => p.Schedules x.event.nextFailure x.time t
          | none => p.GivesUp x.event.nextFailure := by
  obtain ⟨result, c, hwork⟩ : ∃ result c, (fate.host s.worker.settings).work
      (s.store.oldestDue s.now s.worker.settings.batchSize)
      { fetched := (s.store.oldestDue s.now s.worker.settings.batchSize).length }
      { scene := { s with worker := { s.worker with busy := true } } } = (result, c) :=
    ⟨_, _, rfl⟩
  rw [fate.poll_of_work hidle hfetch hwork]
  obtain ⟨tried, rest, attempts, hbatch, htried, hattempts, hsettled, hend⟩ :=
    Fates.work_cases (fun _ => fate) s.worker.settings hwork
  rw [List.nil_append] at htried hattempts
  subst htried hattempts
  refine ⟨fun _ _ _ _ => RetryPolicy.decision_eq_pastCalendar_iff,
    fun _ _ _ => hsteady.pastCalendar_iff_overruns, ⟨rest, hbatch, ?_⟩, ?_⟩
  · obtain ⟨⟨report, rfl⟩, hdone, hleft⟩ | ⟨rfl, done, x, hlast, hdone, hx⟩ := hend
    · exact .inl ⟨⟨report, rfl⟩,
        fun x hx => (hsettled x hx).not_overruns hsteady (hdone x hx), hleft⟩
    · have hmem : ∀ y ∈ done, y ∈ c.attempts := by
        intro y hy
        rw [hlast]
        exact List.mem_append_left _ hy
      have hsettledx : x.IsSettled s.worker.settings := hsettled x (by simp [hlast])
      have hover : x.Overruns s.worker.settings.retry := hsettledx.overruns hsteady hx
      exact .inr ⟨rfl, done, x, hlast,
        fun y hy => (hsettled y (hmem y hy)).not_overruns hsteady (hdone y hy), hover,
        (hsettledx.of_overruns hsteady hover).2⟩
  · intro x hx message hresult hover hwrites
    exact (hsettled x hx).written hsteady hresult hover hwrites

/-- Settings that are accepted, with delays of some 285000 years. -/
def patient : Settings :=
  { outboxBaseDelayMs := 9000000000000000, outboxMaxDelayMs := 9000000000000000 }

/-- A worker with these settings and a log with an event for it to deliver. -/
def onePending : Scene where
  store :=
    { events := [.ofMutation ⟨"employee", "EMP0001", .update, .null⟩ 1 .epoch], nextId := 2 }
  now := .epoch
  worker := { settings := patient.workerSettings }

/-- Every dispatch is refused, and nothing happens meanwhile. -/
def Fate.refusing : Fate := ⟨fun _ s => (⟨false, "refused", []⟩, s), fun _ => .middle⟩

theorem Fate.poll_overrun_patient :
    patient.refusal? = none ∧ onePending.worker.settings.retry.Steady ∧
      (refusing.poll onePending).1 = .error .pastCalendar ∧
        (refusing.poll onePending).2.scene.store.events.map Event.status = [.processing] := by
  have hsteady : onePending.worker.settings.retry.Steady := by decide +kernel
  have hbusy : (refusing.poll onePending).2.scene.store.events.map Event.status =
      [.processing] := by decide +kernel
  obtain ⟨-, -, ⟨rest, -, hend⟩, -⟩ := poll_overrun refusing rfl rfl hsteady
  obtain ⟨⟨report, hreport⟩, -⟩ | ⟨hbroken, -⟩ := hend
  · have hnone : (refusing.poll onePending).1.toOption = none := by decide +kernel
    rw [show (refusing.poll onePending).1 = .ok (.ok report) from hreport] at hnone
    cases hnone
  · exact ⟨by decide +kernel, hsteady, hbroken, hbusy⟩

end Outbox
