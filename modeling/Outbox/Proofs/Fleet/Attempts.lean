import Outbox.Proofs.Fleet.Exclusion

/-!
# How attempts are counted

A worker counts a failure from the event as it was fetched, not as it was claimed, and a
claim only compares the status. Between the two another worker may have seen the event
through a whole attempt and left it failed once more; then the worker's count does not go
on from where the log stands, and an attempt is lost.

The law at the end says exactly when. In a run in which outcomes are written before the
claims run out, the count in the log when a failure is recorded is still the one with which
the event was claimed, and it goes up by one if and only if the event was fetched with the
same count. Nothing but that and an operator's reset changes the count.
-/

namespace Outbox

namespace Event

/-- The count of attempts is one that the counter can hold. -/
def IsCounted (e : Event) : Prop := 0 ≤ e.attempts ∧ e.attempts ≤ maxAttempts

/-- What is recorded for the failure after the counted ones: one more, up to the greatest
count. -/
theorem storedFailures_nextFailure {e : Event} (h : e.IsCounted) :
    storedFailures e.nextFailure = min (e.attempts + 1) maxAttempts := by
  obtain ⟨hpos, -⟩ := h
  rw [storedFailures, nextFailure, Int.natCast_succ, Int.toNat_of_nonneg hpos]

theorem isCounted_storedFailures (n : Nat) :
    0 ≤ storedFailures n ∧ storedFailures n ≤ maxAttempts := by
  have hmax : (0 : Int) ≤ maxAttempts := by decide
  rw [storedFailures]
  omega

end Event

namespace Fleet

variable {ι : Type} [DecidableEq ι] {s s₀ : Fleet ι} {moves : List (Move ι)} {i : ι}
  {now : Instant} {adapters : List String} {limit : Span} {settings : ι → WorkerSettings}

/-! ### Where a batch and a claim come from -/

/-- The worker's claim was won in the course of the run, and before that the event was in the
log just as the worker had fetched it. -/
def Traced (s₀ : Fleet ι) (moves : List (Move ι)) (i : ι) (c : Claim) : Prop :=
  ∃ before between m after, moves = before ++ between ++ m :: after ∧
    (s₀.run before).store.find? c.event.id = some c.event ∧
    (s₀.run (before ++ between)).Wins m i c

/-- The events of a batch were in the log at an earlier moment. -/
theorem batch_fetched (hstart : (s₀.member i).notes.batch = []) {e : Event}
    (he : e ∈ ((s₀.run moves).member i).notes.batch) :
    ∃ before between, moves = before ++ between ∧ e ∈ (s₀.run before).store.events := by
  induction moves using List.reverseRecOn with
  | nil => simp [hstart] at he
  | append_singleton moves m ih =>
    rw [run_append, run_cons, run_nil] at he
    rcases batch_step he with he | he
    · obtain ⟨before, between, hmoves, hmem⟩ := ih he
      exact ⟨before, between ++ [m], by rw [hmoves, List.append_assoc], hmem⟩
    · exact ⟨moves, [m], rfl, he⟩

/-- A claim that a worker holds was won in the course of the run. -/
theorem claim_traced {c : Claim} (hc : ((start now adapters limit settings).run moves).Holds i c) :
    Traced (start now adapters limit settings) moves i c := by
  induction moves using List.reverseRecOn with
  | nil => exact absurd hc not_holds_start
  | append_singleton moves m ih =>
    rw [run_append, run_cons, run_nil] at hc
    rcases holds_step hc with hc | hwins
    · obtain ⟨before, between, m', after, hmoves, htrace⟩ := ih hc
      refine ⟨before, between, m', after ++ [m], ?_, htrace⟩
      rw [hmoves, List.append_assoc, List.append_assoc, List.append_assoc, List.cons_append]
    · have hmem := (sound_run moves).mem_batch_of_wins hwins
      obtain ⟨before, between, rfl, hfetched⟩ := batch_fetched rfl hmem
      have hfind := (sound_run before).ordered.find?_of_mem hfetched
      exact ⟨before, between, m, [], rfl, hfind, hwins⟩

/-! ### The counts in the log -/

/-- All counts in the log are such as the counter can hold. -/
def Counted (s : Fleet ι) : Prop := ∀ id f, s.store.find? id = some f → f.IsCounted

theorem counted_step (hs : s.store.Ordered) (h : s.Counted) (m : Move ι) :
    (s.step m).Counted := by
  intro id f' hf'
  have hzero : 0 ≤ (0 : Int) ∧ (0 : Int) ≤ maxAttempts := by decide
  cases origin_of_find? hs hf' with
  | kept hf => exact h _ f' hf
  | appended change heq => rw [heq]; exact hzero
  | claimed hwins heq =>
    have hfound : Event.IsCounted _ := h _ _ hwins.found
    rw [heq]
    exact hfound
  | @settled _ _ f _ _ _ _ hrecords houtcome hf heq =>
    rw [heq]
    cases houtcome with
    | succeeded => exact h _ f hf
    | retried => exact Event.isCounted_storedFailures _
    | deadLettered => exact Event.isCounted_storedFailures _
  | reset hm hf hidle heq => rw [heq]; exact hzero

theorem counted_run (moves : List (Move ι)) :
    ((start now adapters limit settings).run moves).Counted := by
  have hstart : (start now adapters limit settings).Counted := by
    intro id f hf
    cases hf
  exact start_induction hstart (fun _ m hs h => counted_step hs.ordered h m) moves

/-- A failure that is recorded is counted from the event as it was fetched. -/
theorem Records.failure_stored {m : Move ι} {e f : Event} {message : String}
    (h : s.Records m i e (.failure message)) (hf : s.store.find? e.id = some f) :
    ∃ f', (s.step m).store.find? e.id = some f' ∧
      f'.attempts = Event.storedFailures e.nextFailure := by
  obtain ⟨chance, d, g, n, houtcome, hstep⟩ := h.step_eq
  have hfind : (s.step m).store.find? e.id = some (g f) := by
    simp [hstep, Store.find?_modify houtcome.id_eq, hf]
  refine ⟨g f, hfind, ?_⟩
  cases houtcome <;> rfl

/-- A count of attempts changes only when an operator resets the event, or a failure of it is
recorded. -/
theorem attempts_kept (hs : s.store.Ordered) (m : Move ι) {id : Int} {f f' : Event}
    (hf : s.store.find? id = some f) (hf' : (s.step m).store.find? id = some f')
    (hne : f'.attempts ≠ f.attempts) :
    m.IsOperator ∧ f'.attempts = 0 ∨
      ∃ i e message, s.Records m i e (.failure message) ∧ e.id = id := by
  cases step_effect hs m id with
  | kept hfind howner =>
    rw [hfind, hf, Option.some.injEq] at hf'
    exact absurd (congrArg Event.attempts hf'.symm) hne
  | appended change hfree hfind howner => simp [hfree] at hf
  | claimed hwins hid hholds =>
    subst hid
    rw [hwins.stored, Option.some.injEq] at hf'
    rw [hwins.found, Option.some.injEq] at hf
    subst hf hf'
    exact absurd rfl hne
  | settled hrecords hid houtcome hfind howner hfree =>
    rw [hfind, hf, Option.map_some, Option.some.injEq] at hf'
    subst hf'
    cases houtcome with
    | succeeded => exact absurd rfl hne
    | retried => exact .inr ⟨_, _, _, hrecords, hid⟩
    | deadLettered => exact .inr ⟨_, _, _, hrecords, hid⟩
  | reset hm hf₀ hidle hfind howner =>
    rw [hfind, Option.some.injEq] at hf'
    subst hf'
    exact .inl ⟨hm, rfl⟩

/-- What becomes of the count of attempts in a step of a run in which outcomes are written
before the claims run out. It changes only when an operator resets the event, or a failure of
it is recorded. A failure is counted from the event as it was fetched, and recorded while the
count in the log is still the one with which the event was claimed; so the count goes up by
one exactly if the event was fetched with the count with which it was claimed. -/
theorem attempts_step {m : Move ι} {f : Event}
    (h : Obeys Punctual (start now adapters limit settings) (moves ++ [m]))
    (hf : f ∈ ((start now adapters limit settings).run moves).store.events) :
    let s := (start now adapters limit settings).run moves
    ∃ f', (s.step m).store.find? f.id = some f' ∧
      (f'.attempts ≠ f.attempts → m.IsOperator ∧ f'.attempts = 0 ∨
        ∃ i e message, s.Records m i e (.failure message) ∧ e.id = f.id) ∧
      ∀ i e message, s.Records m i e (.failure message) → e.id = f.id →
        ∃ c, s.Holds i c ∧ c.event = e ∧ Traced (start now adapters limit settings) moves i c ∧
          f.attempts = c.found.attempts ∧
          f'.attempts = min (e.attempts + 1) maxAttempts ∧
          (f.attempts < maxAttempts →
            (f'.attempts = f.attempts + 1 ↔
              min e.attempts (maxAttempts - 1) = c.found.attempts)) := by
  intro s
  obtain ⟨hrun, hm, -⟩ := obeys_append.1 h
  have hsound : s.Sound := sound_run moves
  have hfind : s.store.find? f.id = some f := hsound.ordered.find?_of_mem hf
  obtain ⟨f', hf', -⟩ := kept_step hsound.ordered m hfind
  refine ⟨f', hf', attempts_kept hsound.ordered m hfind hf', ?_⟩
  intro i e message hrecords hid
  -- The worker that records the failure is still the owner of the event.
  obtain ⟨c, hc, rfl, howner⟩ := hrecords.owner hsound (held_run hrun) hm
  have hstored := hsound.current i c hc howner
  rw [hid, hfind, Option.some.injEq] at hstored
  have hfound : f.attempts = c.found.attempts := by rw [hstored]; rfl
  have htraced := claim_traced hc
  have hcounted : c.event.IsCounted := by
    obtain ⟨before, between, m, after, -, hfetched, -⟩ := htraced
    exact counted_run before _ _ hfetched
  have hrecorded : f'.attempts = min (c.event.attempts + 1) maxAttempts := by
    obtain ⟨f₁, hf₁, hattempts⟩ := hrecords.failure_stored (by rw [hid, hfind])
    rw [hid, hf', Option.some.injEq] at hf₁
    rw [hf₁, hattempts, Event.storedFailures_nextFailure hcounted]
  refine ⟨c, hc, rfl, htraced, hfound, hrecorded, fun hlt => ?_⟩
  rw [hrecorded, ← hfound]
  omega

/-- The steps of a whole cycle in which a worker has one event dispatched. -/
def wholeCycle (i success : Bool) : List (Move Bool) :=
  .begin i :: List.replicate 6 (goes i success)

/-- A run in which an event has failed once when a worker fetches it, and once more when the
worker claims it, since the other worker has had it dispatched in between. -/
def overtaken : List (Move Bool) :=
  .append change :: wholeCycle true false ++
    [.advance ⟨60, 0, by decide⟩, .begin false, goes false false] ++ wholeCycle true false ++
      [.advance ⟨120, 0, by decide⟩, goes false false, goes false false, goes false false]

/-- The event of that run as it was fetched. -/
def failedOnce : Event :=
  Store.failed 1 "refused" (some ⟨5, 0, by decide⟩) (.ofMutation change 1 .epoch)

/-- The event of that run under its last claim. -/
def claimedAgain : Event :=
  Store.claimed ⟨420, 0, by decide⟩ (Store.failed 2 "refused" none (.ofMutation change 1 .epoch))

theorem attempts_step_overtaken :
    Obeys Punctual pair (overtaken ++ [goes false false]) ∧
      claimedAgain ∈ (pair.run overtaken).store.events ∧ claimedAgain.attempts = 2 ∧
        (pair.run overtaken).Records (goes false false) false failedOnce (.failure "refused") ∧
          ∃ f', ((pair.run overtaken).step (goes false false)).store.find? 1 = some f' ∧
            f'.attempts = 2 := by
  have hintime : pair.InTime := fun _ _ hc => absurd hc not_holds_start
  have hpunctual : Obeys Punctual pair (overtaken ++ [goes false false]) :=
    punctual_of_inTime hintime (by decide +kernel)
  have hmem : claimedAgain ∈ (pair.run overtaken).store.events := by decide +kernel
  have hrecords :
      (pair.run overtaken).Records (goes false false) false failedOnce (.failure "refused") :=
    ⟨_, _, .retried, rfl, by decide +kernel, by decide +kernel, by simp⟩
  obtain ⟨f', hf', -, hlaw⟩ := attempts_step hpunctual hmem
  obtain ⟨c, -, -, -, -, hattempts, -⟩ := hlaw _ _ _ hrecords rfl
  exact ⟨hpunctual, hmem, rfl, hrecords, f', hf', hattempts⟩

end Fleet

end Outbox
