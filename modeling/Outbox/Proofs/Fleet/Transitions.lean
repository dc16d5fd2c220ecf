import Outbox.Proofs.Fleet.Exclusion

/-!
# How an event may change

An event is meant to change in four ways only: it is claimed, it is claimed again after the
claim has run out, its outcome is recorded by the worker whose claim is the current one, or
an operator puts it back in the queue. But an outcome is written by number alone, whatever
the event has become. A worker whose claim has run out, and was taken over, settled or reset,
still writes its outcome, and may turn a synced event into a failed one.

This is the only way in which an event changes otherwise: a change is `Lawful` if and only if
it is not such a `Late` record. No record is late in a run in which outcomes are written
before the claims run out.
-/

namespace Outbox

theorem Event.isDue_cases {e : Event} {now : Instant} (h : e.isDue now = true) :
    (e.status = .pending ∨ e.status = .failed) ∨ e.claimExpired now = true := by
  unfold isDue at h
  cases hs : e.status with
  | pending => exact .inl (.inl rfl)
  | failed => exact .inl (.inr rfl)
  | processing | success | dead =>
    rw [hs] at h
    exact .inr h

namespace Fleet

variable {ι : Type} {s : Fleet ι} {m : Move ι} {i : ι}

/-- The step records an outcome of the event, but the claim of the worker is not the current
one. -/
def Late (s : Fleet ι) (m : Move ι) (id : Int) : Prop :=
  ∃ i e result, s.Records m i e result ∧ e.id = id ∧ s.owner id ≠ some i

/-- An event that the owner of it settles is processing. -/
theorem Sound.processing (h : s.Sound) {e f : Event} {result : AttemptResult}
    (hrecords : s.Records m i e result) (hf : s.store.find? e.id = some f)
    (howner : s.owner e.id = some i) : f.status = .processing := by
  obtain ⟨answer, chance, d, rfl, hsettling, -⟩ := hrecords
  obtain ⟨c, ends, hc, rfl, -⟩ := h.earned hsettling
  rw [h.current i c hc howner, Option.some.injEq] at hf
  rw [← hf]
  rfl

/-- A punctual step of a fleet in which whoever holds a lasting claim is the owner records
nothing late. -/
theorem Held.not_late (h : s.Held) (hs : s.Sound) (hm : s.Punctual m) (id : Int) :
    ¬ s.Late m id := by
  rintro ⟨i, e, result, hrecords, rfl, hlate⟩
  obtain ⟨c, -, -, howner⟩ := hrecords.owner hs h hm
  exact hlate howner

variable [DecidableEq ι] {now : Instant} {adapters : List String} {limit : Span}
  {settings : ι → WorkerSettings}

/-- The changes of an event that are meant to happen. -/
inductive Lawful (s : Fleet ι) (m : Move ι) (f f' : Event) : Prop where
  /-- A worker claims it when it is pending or failed. -/
  | claimed {i : ι} {c : Claim} (hwins : s.Wins m i c) (hid : c.event.id = f.id)
      (hfrom : f.status = .pending ∨ f.status = .failed) (hto : f'.status = .processing)
  /-- A worker claims it when an earlier claim has run out. -/
  | reclaimed {i : ι} {c : Claim} (hwins : s.Wins m i c) (hid : c.event.id = f.id)
      (hfrom : f.status = .processing) (hexpired : f.claimExpired s.now = true)
      (hto : f'.status = .processing)
  /-- The worker whose claim is the current one records its outcome. -/
  | settled {i : ι} {e : Event} {result : AttemptResult} (hrecords : s.Records m i e result)
      (hid : e.id = f.id) (howner : s.owner f.id = some i) (hfrom : f.status = .processing)
      (hto : f'.status = .success ∨ f'.status = .failed ∨ f'.status = .dead)
  /-- An operator puts it back in the queue. -/
  | reset (hm : m.IsOperator) (hto : f'.status = .pending)

/-- A step that wins a claim records no outcome. -/
theorem Wins.not_records {c : Claim} (hwins : s.Wins m i c) {j : ι} {e : Event}
    {result : AttemptResult} : ¬ s.Records m j e result := by
  rintro ⟨answer, chance, d, rfl, hsettling, -⟩
  obtain ⟨answer', chance', next, hm, hp⟩ := hwins.asked
  cases hm
  simp [settling?, Program.settling?, hp] at hsettling

/-- A lawful change is not a late record. -/
theorem Lawful.not_late {f f' : Event} (h : s.Lawful m f f') : ¬ s.Late m f.id := by
  rintro ⟨j, e, result, hrecords, -, howner⟩
  cases h with
  | claimed hwins => exact hwins.not_records hrecords
  | reclaimed hwins => exact hwins.not_records hrecords
  | settled hrecords' hid howner' =>
    obtain ⟨_, _, _, rfl, -⟩ := hrecords
    obtain ⟨_, _, _, hm, -⟩ := hrecords'
    cases hm
    exact howner howner'
  | reset hm =>
    obtain ⟨_, _, _, rfl, -⟩ := hrecords
    exact hm

/-- A change of an event is lawful or a late record. -/
theorem Sound.lawful_or_late (h : s.Sound) {f f' : Event} (hf : s.store.find? f.id = some f)
    (hf' : (s.step m).store.find? f.id = some f') (hne : f' ≠ f) :
    s.Lawful m f f' ∨ s.Late m f.id := by
  cases step_effect h.ordered m f.id with
  | kept hfind howner =>
    rw [hfind, hf, Option.some.injEq] at hf'
    exact absurd hf'.symm hne
  | appended change hfree hfind howner => simp [hfree] at hf
  | claimed hwins hid hholds =>
    have hfound := hwins.found
    have hstored := hwins.stored
    rw [hid, hf, Option.some.injEq] at hfound
    rw [hid, hf', Option.some.injEq] at hstored
    have hto : f'.status = .processing := by rw [hstored]; rfl
    have hdue := hwins.due
    rw [← hfound] at hdue
    rcases Event.isDue_cases hdue with hfrom | hexpired
    · exact .inl (.claimed hwins hid hfrom hto)
    · have hfrom : f.status = .processing := by
        simp only [Event.claimExpired, Bool.and_eq_true, beq_iff_eq] at hexpired
        exact hexpired.1
      exact .inl (.reclaimed hwins hid hfrom hexpired hto)
  | @settled i e result chance d g hrecords hid houtcome hfind howner hfree =>
    by_cases howner' : s.owner f.id = some i
    · have hfrom : f.status = .processing :=
        h.processing hrecords (by rw [hid, hf]) (by rw [hid, howner'])
      refine .inl (.settled hrecords hid howner' hfrom ?_)
      rw [hfind, hf, Option.map_some, Option.some.injEq] at hf'
      subst hf'
      cases houtcome with
      | succeeded => exact .inl rfl
      | retried => exact .inr (.inl rfl)
      | deadLettered => exact .inr (.inr rfl)
    · exact .inr ⟨i, e, result, hrecords, hid, howner'⟩
  | reset hm hf₀ hidle hfind howner =>
    rw [hfind, Option.some.injEq] at hf'
    subst hf'
    exact .inl (.reset hm rfl)

/-- In every run, what a step changes of an event is lawful if and only if it is not a late
record; an event that is synced or dead changes only if an operator resets it or a late
record is made of it; and if outcomes are written before the claims run out, no record is
late. -/
theorem transition_step {moves : List (Move ι)} {m : Move ι} {f : Event}
    (hf : f ∈ ((start now adapters limit settings).run moves).store.events) :
    let s := (start now adapters limit settings).run moves
    ∃ f', (s.step m).store.find? f.id = some f' ∧
      (f' ≠ f → (s.Lawful m f f' ↔ ¬ s.Late m f.id)) ∧
      (f' ≠ f → f.status = .success ∨ f.status = .dead → m.IsOperator ∨ s.Late m f.id) ∧
      (Obeys Punctual (start now adapters limit settings) (moves ++ [m]) →
        ¬ s.Late m f.id) := by
  intro s
  have hsound : s.Sound := sound_run moves
  have hfind : s.store.find? f.id = some f := hsound.ordered.find?_of_mem hf
  obtain ⟨f', hf', -⟩ := kept_step hsound.ordered m hfind
  refine ⟨f', hf', ?_, ?_, ?_⟩
  · intro hne
    refine ⟨Lawful.not_late, fun hlate => ?_⟩
    exact (hsound.lawful_or_late hfind hf' hne).resolve_right hlate
  · intro hne hterminal
    rcases hsound.lawful_or_late hfind hf' hne with hlawful | hlate
    · cases hlawful with
      | claimed hwins hid hfrom hto =>
        rcases hterminal with h | h <;> simp [h] at hfrom
      | reclaimed hwins hid hfrom hexpired hto =>
        rcases hterminal with h | h <;> simp [h] at hfrom
      | settled hrecords hid howner hfrom hto =>
        rcases hterminal with h | h <;> simp [h] at hfrom
      | reset hm hto => exact .inl hm
    · exact .inr hlate
  · intro hobeys
    obtain ⟨hrun, hm, -⟩ := obeys_append.1 hobeys
    exact Held.not_late (held_run hrun) hsound hm f.id

/-- A run in which the claim of a worker runs out during the dispatch. The other worker takes
the event over and syncs it, and then the first dispatch comes back with a refusal. -/
def overdue : List (Move Bool) :=
  [.append change, .begin false, goes false false, goes false false, goes false false,
    .advance ⟨300, 0, by decide⟩, .begin true, goes true true, goes true true, goes true true,
    goes true true, goes true true, goes false false]

/-- The event of that run as it was fetched. -/
def fetchedEvent : Event := .ofMutation change 1 .epoch

/-- The event of that run as the second worker has left it. -/
def takenOver : Event := Store.succeeded ⟨300, 0, by decide⟩ fetchedEvent

theorem transition_step_overdue :
    takenOver ∈ (pair.run overdue).store.events ∧ takenOver.status = .success ∧
      (pair.run overdue).Late (goes false false) 1 ∧
        ∃ f', ((pair.run overdue).step (goes false false)).store.find? 1 = some f' ∧
          f'.status = .failed ∧ ¬ (pair.run overdue).Lawful (goes false false) takenOver f' := by
  have hmem : takenOver ∈ (pair.run overdue).store.events := by decide +kernel
  have hrecords :
      (pair.run overdue).Records (goes false false) false fetchedEvent (.failure "refused") :=
    ⟨_, _, .retried, rfl, by decide +kernel, by decide +kernel, by simp⟩
  have hlate : (pair.run overdue).Late (goes false false) 1 :=
    ⟨_, _, _, hrecords, rfl, by decide +kernel⟩
  have hafter : ((pair.run overdue).step (goes false false)).store.find? 1 =
      some (Store.failed 1 "refused" (some ⟨305, 0, by decide⟩) takenOver) := by decide +kernel
  obtain ⟨f', hf', hiff, -⟩ := transition_step (m := goes false false) hmem
  have hvalue : f' = Store.failed 1 "refused" (some ⟨305, 0, by decide⟩) takenOver :=
    Option.some.inj (hf'.symm.trans hafter)
  have hne : f' ≠ takenOver := by rw [hvalue]; decide
  exact ⟨hmem, rfl, hlate, f', hf', by rw [hvalue]; rfl, fun h => (hiff hne).1 h hlate⟩

end Fleet

end Outbox
