import Outbox.Proofs.Fleet.Invariant

/-!
# No event is stranded

What is recorded about an event fits together at every moment, whoever wrote it and however
late: there is a time for the event exactly while it is failed or processing, and a count of
failures with an error exactly when there was one. Each write leaves such a record by itself,
so nothing has to be known about the order of the writes.

It follows that no event is lost from sight. An event that is neither synced nor dead is due
from its time on, a fetch that takes enough events gives it, and a claim of it succeeds. Above
all this is true of an event whose worker never came back: it has the end of the claim on
record, and a claim without an end would never run out.
-/

namespace Outbox

namespace Event

/-- What is recorded about the delivery of an event fits together. -/
structure Coherent (e : Event) : Prop where
  /-- There is a time exactly while the event waits for its next attempt or is claimed. -/
  scheduled : e.nextRunAt.isSome ↔ e.status = .failed ∨ e.status = .processing
  /-- A pending event has not failed. -/
  untried : e.status = .pending → e.attempts = 0 ∧ e.lastError = none
  /-- A failed or dead event has failed at least once, and says why. -/
  tried : e.status = .failed ∨ e.status = .dead → 1 ≤ e.attempts ∧ e.lastError.isSome
  /-- A synced event shows no error. -/
  clean : e.status = .success → e.lastError = none

/-! ### Every write leaves a coherent event -/

theorem coherent_ofMutation (m : Mutation) (id : Int) (now : Instant) :
    (ofMutation m id now).Coherent where
  scheduled := by simp [ofMutation]
  untried _ := ⟨rfl, rfl⟩
  tried h := by simp [ofMutation] at h
  clean h := by simp [ofMutation] at h

theorem coherent_reset (e : Event) : e.reset.Coherent where
  scheduled := by simp [reset]
  untried _ := ⟨rfl, rfl⟩
  tried h := by simp [reset] at h
  clean h := by simp [reset] at h

theorem coherent_claimed (leaseEnd : Instant) (e : Event) :
    (Store.claimed leaseEnd e).Coherent where
  scheduled := by simp [Store.claimed]
  untried h := by simp [Store.claimed] at h
  tried h := by simp [Store.claimed] at h
  clean h := by simp [Store.claimed] at h

theorem coherent_succeeded (now : Instant) (e : Event) : (Store.succeeded now e).Coherent where
  scheduled := by simp [Store.succeeded]
  untried h := by simp [Store.succeeded] at h
  tried h := by simp [Store.succeeded] at h
  clean _ := rfl

theorem coherent_failed {attempts : Int} (hattempts : 1 ≤ attempts) (error : String)
    (next : Option Instant) (e : Event) : (Store.failed attempts error next e).Coherent where
  scheduled := by cases next <;> simp [Store.failed]
  untried h := by cases next <;> simp [Store.failed] at h
  tried _ := ⟨hattempts, rfl⟩
  clean h := by cases next <;> simp [Store.failed] at h

/-- What is recorded for a failure is at least one. -/
theorem one_le_storedFailures_nextFailure (e : Event) : 1 ≤ storedFailures e.nextFailure := by
  have hmax : (1 : Int) ≤ maxAttempts := by decide
  rw [storedFailures, nextFailure]
  omega

/-! ### When an event is due -/

/-- A synced or dead event is never due. -/
theorem isDue_of_terminal {e : Event} (h : e.status = .success ∨ e.status = .dead)
    (t : Instant) : e.isDue t = false := by
  rcases h with h | h <;> simp [isDue, claimExpired, Status.isClaimable, h]

/-- An event that is neither synced nor dead is due from its time on. -/
theorem Coherent.isDue {e : Event} (h : e.Coherent) (hsuccess : e.status ≠ .success)
    (hdead : e.status ≠ .dead) {t : Instant} (ht : ∀ u ∈ e.nextRunAt, u ≤ t) :
    e.isDue t = true := by
  have hscheduled := h.scheduled
  cases hs : e.status with
  | success => exact absurd hs hsuccess
  | dead => exact absurd hs hdead
  | pending | failed =>
    simp only [Event.isDue, hs, Status.isClaimable, if_true, Option.all_eq_true, decide_eq_true_eq]
    exact ht
  | processing =>
    -- The claim has an end, so it runs out.
    obtain ⟨u, hu⟩ := Option.isSome_iff_exists.1 (hscheduled.2 (.inr hs))
    simp [Event.isDue, claimExpired, Status.isClaimable, hs, hu, ht u hu]

/-- A pending event is due at any time. -/
theorem Coherent.isDue_of_pending {e : Event} (h : e.Coherent) (hpending : e.status = .pending)
    (t : Instant) : e.isDue t = true := by
  have hnone : e.nextRunAt = none := by
    rw [← Option.not_isSome_iff_eq_none, h.scheduled, hpending]
    simp
  exact h.isDue (by simp [hpending]) (by simp [hpending]) (by simp [hnone])

end Event

theorem Outcome.coherent {p : RetryPolicy} {now : Instant} {chance : Chance} {e : Event}
    {result : AttemptResult} {d : Disposition} {g : Event → Event}
    (h : Outcome p now chance e result d g) (f : Event) : (g f).Coherent := by
  cases h with
  | succeeded => exact Event.coherent_succeeded now f
  | retried h => exact Event.coherent_failed e.one_le_storedFailures_nextFailure ..
  | deadLettered h => exact Event.coherent_failed e.one_le_storedFailures_nextFailure ..

namespace Fleet

variable {ι : Type} {s : Fleet ι} {now : Instant} {adapters : List String} {limit : Span}
  {settings : ι → WorkerSettings}

/-- All events of the log are coherent. -/
def Coherent (s : Fleet ι) : Prop := ∀ id f, s.store.find? id = some f → f.Coherent

theorem coherent_start : (start now adapters limit settings).Coherent := by
  intro id f hf
  cases hf

variable [DecidableEq ι]

theorem coherent_step (hs : s.store.Ordered) (h : s.Coherent) (m : Move ι) :
    (s.step m).Coherent := by
  intro id f' hf'
  cases origin_of_find? hs hf' with
  | kept hf => exact h _ f' hf
  | appended change heq => exact heq ▸ Event.coherent_ofMutation ..
  | claimed hwins heq => exact heq ▸ Event.coherent_claimed ..
  | settled hrecords houtcome hf heq => exact heq ▸ houtcome.coherent _
  | reset hm hf hidle heq => exact heq ▸ Event.coherent_reset _

theorem coherent_run (moves : List (Move ι)) :
    ((start now adapters limit settings).run moves).Coherent :=
  start_induction coherent_start (fun _ m hs h => coherent_step hs.ordered h m) moves

/-- At every moment of every run, what is recorded about an event fits together. A synced or
dead event is never due; any other is due from its time on, or always if it has none: then it
is in every batch that takes all due events, and a claim of it succeeds. -/
theorem never_stranded {moves : List (Move ι)} {f : Event}
    (hf : f ∈ ((start now adapters limit settings).run moves).store.events) :
    let store := ((start now adapters limit settings).run moves).store
    f.Coherent ∧
      (f.status = .success ∨ f.status = .dead → ∀ t, f.isDue t = false) ∧
      (f.status ≠ .success → f.status ≠ .dead → ∀ t, (∀ u ∈ f.nextRunAt, u ≤ t) →
        f.isDue t = true ∧
        (∀ count, (store.events.filter fun e => e.isDue t).length ≤ count →
          store.fetchFailure = none →
          ∃ batch, store.fetch t count = (.ok batch, store) ∧ f ∈ batch) ∧
        ∀ leaseEnd, (store.claim t f.id f.status leaseEnd).1 = true) := by
  intro store
  have hfind : store.find? f.id = some f := (sound_run moves).ordered.find?_of_mem hf
  have hcoherent : f.Coherent := coherent_run moves f.id f hfind
  refine ⟨hcoherent, Event.isDue_of_terminal, fun hsuccess hdead t ht => ?_⟩
  have hdue : f.isDue t = true := hcoherent.isDue hsuccess hdead ht
  refine ⟨hdue, fun count hcount hfetch => ?_, fun leaseEnd => ?_⟩
  · exact ⟨store.oldestDue t count, by rw [Store.fetch, hfetch], Store.mem_oldestDue hf hdue hcount⟩
  · simp only [Store.claim, Store.claimable_of_find? hfind hdue, if_true]

/-- A run in which the outcome of a dispatch cannot be written. -/
def unwritten : List (Move Bool) :=
  [.append change, .failOutcomes 1, .begin false, goes false true, goes false true,
    goes false true, goes false true, goes false true, goes false true]

/-- The event of that run, as the claim has left it. -/
def leftBehind : Event := Store.claimed (pair.leaseEnd false) (.ofMutation change 1 .epoch)

theorem never_stranded_unwritten :
    leftBehind ∈ (pair.run unwritten).store.events ∧ leftBehind.status = .processing ∧
      ((pair.run unwritten).member false).program = none ∧
        ((pair.run unwritten).store.claim (pair.leaseEnd false) 1 .processing .latest).1 =
          true := by
  have hmem : leftBehind ∈ (pair.run unwritten).store.events := by decide +kernel
  have hidle : ((pair.run unwritten).member false).program = none := by
    rw [← Option.not_isSome_iff_eq_none]
    decide +kernel
  obtain ⟨-, -, h⟩ := never_stranded hmem
  obtain ⟨-, -, hclaim⟩ := h (by decide) (by decide) (pair.leaseEnd false) (by decide +kernel)
  exact ⟨hmem, rfl, hidle, hclaim .latest⟩

end Fleet

end Outbox
