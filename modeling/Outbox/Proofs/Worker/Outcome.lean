import Outbox.Worker.Cycle
import Outbox.Proofs.Store.Lookup

/-!
# Claims and outcomes

What a worker can do to the event log: to claim an event, and to record an outcome. A claim is
won or changes nothing. An outcome is recorded, or fails to be as long as failures are to
come, or breaks the worker down. What the record makes of the event is said once, by
`Outcome`, for every policy and every way in which the dispatch went.
-/

namespace Outbox

/-! ### Claims -/

/-- An attempt to claim an event wins a claim of the event as it is stored, or changes
nothing. Then the worker was told to stop, or there is no such claim to be won. -/
theorem WorkerSettings.claim_cases (w : WorkerSettings) (now : Instant) (cancelled : Bool)
    (e : Event) (s : Store) :
    (∃ f, s.find? e.id = some f ∧ f.status = e.status ∧ f.isDue now = true ∧
        w.claim now cancelled e s =
          (.claimed, s.modify e.id (Store.claimed (w.leaseEnd now)))) ∨
      ∃ a, a ≠ .claimed ∧ (a = .cancelled ∨ s.claimable now e.id e.status = false) ∧
        w.claim now cancelled e s = (a, s) := by
  unfold claim
  split
  · exact .inr ⟨_, by simp, .inl rfl, rfl⟩
  · cases hc : s.claimable now e.id e.status with
    | false => exact .inr ⟨.conflict, by simp, .inr rfl, by simp [Store.claim, hc]⟩
    | true =>
      obtain ⟨f, hf, hdue⟩ := (Option.any_eq_true _ _).1 hc
      simp only [Bool.and_eq_true, beq_iff_eq] at hdue
      exact .inl ⟨f, hf, hdue.1, hdue.2, by simp [Store.claim, hc]⟩

/-- Only a worker that was told to stop does not try to claim. -/
theorem WorkerSettings.cancelled_of_claim {w : WorkerSettings} {now : Instant} {cancelled : Bool}
    {e : Event} {s s' : Store} (h : w.claim now cancelled e s = (.cancelled, s')) :
    cancelled = true := by
  unfold claim at h
  split at h
  · assumption
  · split at h <;> cases h

/-! ### Outcomes -/

/-- The status in which an event is recorded, if it is. -/
def Disposition.status? : Disposition → Option Status
  | succeeded => some .success
  | retried => some .failed
  | deadLettered => some .dead
  | unrecorded _ => none

/-- What the record of an outcome makes of an event, and what came of the event by it. -/
inductive Outcome (p : RetryPolicy) (now : Instant) (chance : Chance) (e : Event) :
    AttemptResult → Disposition → (Event → Event) → Prop where
  /-- It is synced. -/
  | succeeded : Outcome p now chance e .success .succeeded (Store.succeeded now)
  /-- It has failed and is tried again. -/
  | retried {message : String} {t : Instant} (h : p.decision e.nextFailure now chance = .retry t) :
      Outcome p now chance e (.failure message) .retried
        (Store.failed (Event.storedFailures e.nextFailure) message (some t))
  /-- It has failed and is given up. -/
  | deadLettered {message : String}
      (h : (∃ n, p.decision e.nextFailure now chance = .exhausted n) ∨
        p.decision e.nextFailure now chance = .delayTooLong) :
      Outcome p now chance e (.failure message) .deadLettered
        (Store.failed (Event.storedFailures e.nextFailure) message none)

namespace Outcome

variable {p : RetryPolicy} {now : Instant} {chance : Chance} {e : Event}
  {result : AttemptResult} {d : Disposition} {g : Event → Event}

theorem id_eq (h : Outcome p now chance e result d g) (f : Event) : (g f).id = f.id := by
  cases h <;> rfl

theorem mutation_eq (h : Outcome p now chance e result d g) (f : Event) :
    (g f).mutation = f.mutation := by
  cases h <;> rfl

/-- The event is in the status that came of it. -/
theorem status_eq (h : Outcome p now chance e result d g) (f : Event) :
    d.status? = some (g f).status := by
  cases h <;> rfl

/-- An outcome takes an event out of processing. -/
theorem status_ne_processing (h : Outcome p now chance e result d g) (f : Event) :
    (g f).status ≠ .processing := by
  cases h <;> simp [Store.succeeded, Store.failed]

theorem recorded (h : Outcome p now chance e result d g) (why : StoreError) :
    d ≠ .unrecorded why := by
  cases h <;> simp

end Outcome

/-- A write fails as long as failures are to come, and else changes the event. -/
theorem RetryPolicy.written_cases (d : Disposition) (s : Store) (id : Int) (g : Event → Event) :
    0 < s.outcomeFailures ∧ (∃ why, written d (s.writeOutcome id g) =
        (.ok (.unrecorded why), { s with outcomeFailures := s.outcomeFailures - 1 })) ∨
      s.outcomeFailures = 0 ∧ written d (s.writeOutcome id g) = (.ok d, s.modify id g) := by
  unfold Store.writeOutcome
  split
  · next h => exact .inl ⟨h, _, rfl⟩
  · next h => exact .inr ⟨by omega, rfl⟩

/-- To record an outcome breaks the worker down, or fails, or changes the event. -/
theorem RetryPolicy.settle_cases (p : RetryPolicy) (now : Instant) (e : Event)
    (result : AttemptResult) (s : Store) (chance : Chance) :
    ((∃ message, result = .failure message) ∧
        p.decision e.nextFailure now chance = .pastCalendar ∧
        p.settle now e result s chance = (.error .pastCalendar, s)) ∨
      (0 < s.outcomeFailures ∧ ∃ why, p.settle now e result s chance =
        (.ok (.unrecorded why), { s with outcomeFailures := s.outcomeFailures - 1 })) ∨
      ∃ d g, Outcome p now chance e result d g ∧
        p.settle now e result s chance = (.ok d, s.modify e.id g) := by
  cases result with
  | success =>
    obtain ⟨hpos, why, h⟩ | ⟨-, h⟩ := written_cases .succeeded s e.id (Store.succeeded now)
    · exact .inr (.inl ⟨hpos, why, h⟩)
    · exact .inr (.inr ⟨_, _, .succeeded, h⟩)
  | failure message =>
    have hgiveUp := written_cases .deadLettered s e.id
      (Store.failed (Event.storedFailures e.nextFailure) message none)
    cases hd : p.decision e.nextFailure now chance with
    | retry t =>
      obtain ⟨hpos, why, h⟩ | ⟨-, h⟩ := written_cases .retried s e.id
        (Store.failed (Event.storedFailures e.nextFailure) message (some t))
      · exact .inr (.inl ⟨hpos, why, by rw [settle, hd]; exact h⟩)
      · exact .inr (.inr ⟨_, _, .retried hd, by rw [settle, hd]; exact h⟩)
    | exhausted n =>
      obtain ⟨hpos, why, h⟩ | ⟨-, h⟩ := hgiveUp
      · exact .inr (.inl ⟨hpos, why, by rw [settle, hd]; exact h⟩)
      · exact .inr (.inr ⟨_, _, .deadLettered (by simp [hd]), by rw [settle, hd]; exact h⟩)
    | delayTooLong =>
      obtain ⟨hpos, why, h⟩ | ⟨-, h⟩ := hgiveUp
      · exact .inr (.inl ⟨hpos, why, by rw [settle, hd]; exact h⟩)
      · exact .inr (.inr ⟨_, _, .deadLettered (by simp [hd]), by rw [settle, hd]; exact h⟩)
    | pastCalendar => exact .inl ⟨⟨message, rfl⟩, rfl, by rw [settle, hd]⟩

/-- No outcome is recorded while the writes fail. -/
theorem RetryPolicy.settle_of_failing (p : RetryPolicy) (now : Instant) (e : Event)
    (result : AttemptResult) {s : Store} (chance : Chance) (h : 0 < s.outcomeFailures) :
    (p.settle now e result s chance).1 = .error .pastCalendar ∨
      ∃ why, (p.settle now e result s chance).1 = .ok (.unrecorded why) := by
  have hwrite : ∀ d id g, ∃ why, (written d (s.writeOutcome id g)).1 = .ok (.unrecorded why) :=
    fun d id g => ⟨_, by rw [Store.writeOutcome, if_pos h]; rfl⟩
  cases result with
  | success => exact .inr (hwrite ..)
  | failure message =>
    cases hd : p.decision e.nextFailure now chance with
    | pastCalendar => exact .inl (by rw [settle, hd])
    | _ =>
      rw [settle, hd]
      exact .inr (hwrite ..)

/-- An outcome that the worker goes on from is not written if the writes fail, and else it is. -/
theorem RetryPolicy.settle_ok_cases {p : RetryPolicy} {now : Instant} {e : Event}
    {result : AttemptResult} {s s' : Store} {chance : Chance} {d : Disposition}
    (h : p.settle now e result s chance = (.ok d, s')) :
    (0 < s.outcomeFailures ∧ ∃ why, d = .unrecorded why) ∨
      s.outcomeFailures = 0 ∧ ∃ g, Outcome p now chance e result d g ∧ s' = s.modify e.id g := by
  obtain ⟨-, -, hsettle⟩ | ⟨hpos, why, hsettle⟩ | ⟨d', g, houtcome, hsettle⟩ :=
    p.settle_cases now e result s chance
  · rw [h] at hsettle
    cases hsettle
  · rw [h] at hsettle
    cases hsettle
    exact .inl ⟨hpos, why, rfl⟩
  · rw [h] at hsettle
    cases hsettle
    refine .inr ⟨?_, g, houtcome, rfl⟩
    by_contra hne
    obtain hfail | ⟨why, hfail⟩ := p.settle_of_failing now e result chance (Nat.pos_of_ne_zero hne)
    · rw [h] at hfail
      cases hfail
    · rw [h] at hfail
      cases hfail
      exact houtcome.recorded why rfl

/-- What is recorded of one event makes no difference to the others. -/
theorem RetryPolicy.find?_settle_of_ne (p : RetryPolicy) (now : Instant) {e : Event}
    (result : AttemptResult) (s : Store) (chance : Chance) {id : Int} (hid : id ≠ e.id) :
    (p.settle now e result s chance).2.find? id = s.find? id := by
  obtain ⟨-, -, h⟩ | ⟨-, why, h⟩ | ⟨d, g, houtcome, h⟩ := p.settle_cases now e result s chance
  · rw [h]
  · rw [h]
    rfl
  · rw [h, Store.find?_modify houtcome.id_eq, if_neg hid]

end Outbox
