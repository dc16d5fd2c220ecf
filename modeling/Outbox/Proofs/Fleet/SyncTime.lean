import Outbox.Proofs.Fleet.AppendOnly
import Outbox.Proofs.Fleet.Transitions

/-!
# The time of success

The time at which an event was synced is put on record together with the status, and no other
write touches it. It is meant to be there exactly while the event is synced (`Event.Stamped`).
But an operator may reset a synced event, and a late failure may be recorded of it, and both
leave the time where it is. What the time tells is something else: that the event has been
synced at some moment (`EverSynced`), whatever became of it since.

`processedAt_iff_everSynced` says so for every run, and names the steps that make the
difference. A reset event is like a new one if and only if it has never been synced.
-/

namespace Outbox

namespace Event

/-- The time of success is on record exactly while the event is synced. -/
def Stamped (e : Event) : Prop := e.processedAt.isSome ↔ e.status = .success

theorem reset_eq_ofMutation_iff (e : Event) :
    e.reset = ofMutation e.mutation e.id e.createdAt ↔ e.processedAt = none := by
  simp [reset, ofMutation, mutation]

end Event

namespace Fleet

variable {ι : Type} [DecidableEq ι] {s : Fleet ι} {m : Move ι} {now : Instant}
  {adapters : List String} {limit : Span} {settings : ι → WorkerSettings}

/-! ### What a step does to the time -/

/-- An event has kept its time, and was synced before if it is synced now; or it is synced just
now and has a time; or it is new. -/
theorem processedAt_step (h : s.store.Ordered) {id : Int} {f' : Event}
    (hf' : (s.step m).store.find? id = some f') :
    (∃ f, s.store.find? id = some f ∧ f'.processedAt = f.processedAt ∧
        (f'.status = .success → f.status = .success)) ∨
      (f'.status = .success ∧ f'.processedAt.isSome) ∨
      s.store.find? id = none ∧ f'.processedAt = none ∧ f'.status ≠ .success := by
  cases step_effect h m id with
  | kept hfind howner =>
    rw [hfind] at hf'
    exact .inl ⟨f', hf', rfl, fun hs => hs⟩
  | appended change hfree hfind howner =>
    rw [hfind, Option.some.injEq] at hf'
    subst hf'
    exact .inr (.inr ⟨hfree, rfl, by simp [Event.ofMutation]⟩)
  | @claimed i c hwins hid hholds =>
    have hfound := hwins.found
    have hstored := hwins.stored
    rw [hid] at hfound hstored
    rw [hstored, Option.some.injEq] at hf'
    subst hf'
    exact .inl ⟨c.found, hfound, rfl, fun hs => by simp [Store.claimed] at hs⟩
  | settled hrecords hid houtcome hfind howner hfree =>
    rw [hfind] at hf'
    obtain ⟨f, hf, rfl⟩ := Option.map_eq_some_iff.1 hf'
    cases houtcome with
    | succeeded => exact .inr (.inl ⟨rfl, rfl⟩)
    | retried => exact .inl ⟨f, hf, rfl, fun hs => by simp [Store.failed] at hs⟩
    | deadLettered => exact .inl ⟨f, hf, rfl, fun hs => by simp [Store.failed] at hs⟩
  | @reset f hm hf hidle hfind howner =>
    rw [hfind, Option.some.injEq] at hf'
    subst hf'
    exact .inl ⟨f, hf, rfl, fun hs => by simp [Event.reset] at hs⟩

/-- An event that is synced stays so, unless an operator resets this one event or a late record
is made of it. -/
theorem Sound.leaves_success (h : s.Sound) {f f' : Event} (hf : s.store.find? f.id = some f)
    (hf' : (s.step m).store.find? f.id = some f') (hfrom : f.status = .success)
    (hto : f'.status ≠ .success) : m = .retryOne f.id ∨ s.Late m f.id := by
  have hne : f' ≠ f := by
    rintro rfl
    exact hto hfrom
  obtain hlawful | hlate := h.lawful_or_late hf hf' hne
  · refine .inl ?_
    cases hlawful with
    | claimed hwins hid hpending => simp [hfrom] at hpending
    | reclaimed hwins hid hprocessing => simp [hfrom] at hprocessing
    | settled hrecords hid howner hprocessing => simp [hfrom] at hprocessing
    | reset hm =>
      -- Of the operations only the reset of one event selects synced ones.
      cases m with
      | retryOne id =>
        by_cases hid : id = f.id
        · rw [hid]
        · refine absurd ?_ hne
          obtain ⟨g, -, -, hr⟩ | ⟨why, hr⟩ := s.store.retryOne_cases s.now id
          · simpa [step, hr, Store.find?_modify Event.id_reset, Ne.symm hid, hf] using hf'.symm
          · simpa [step, hr, hf] using hf'.symm
      | retryAllDead =>
        have hdead : (f.status == .dead) = false := by simp [hfrom]
        have hkept : s.store.retryAllDead.2.find? f.id = some f :=
          Store.find?_resetWhere_of_not hf hdead
        exact absurd (Option.some.inj (hf'.symm.trans hkept)) hne
      | replay g hreplay =>
        have hselect : g.selects f = false := by
          by_contra hs
          have hstatus := hreplay _ (ReplayFilter.status_of_selects (by simpa using hs))
          simp [hfrom, Status.isReplayable] at hstatus
        have hkept := Store.find?_resetWhere_of_not hf hselect
        exact absurd (Option.some.inj (hf'.symm.trans hkept)) hne
      | _ => exact absurd hm (by simp [Move.IsOperator])
  · exact .inr hlate

/-! ### What the time tells -/

/-- At some moment of a run the event with a given number was synced. -/
def EverSynced (s : Fleet ι) (moves : List (Move ι)) (id : Int) : Prop :=
  ∃ before, before <+: moves ∧
    ∃ f, (s.run before).store.find? id = some f ∧ f.status = .success

theorem everSynced_concat {moves : List (Move ι)} {id : Int} :
    s.EverSynced (moves ++ [m]) id ↔
      s.EverSynced moves id ∨
        ∃ f, ((s.run moves).step m).store.find? id = some f ∧ f.status = .success := by
  constructor
  · rintro ⟨before, hbefore, hsynced⟩
    rcases List.prefix_concat_iff.1 hbefore with rfl | hbefore
    · exact .inr (by simpa using hsynced)
    · exact .inl ⟨before, hbefore, hsynced⟩
  · rintro (⟨before, hbefore, hsynced⟩ | hsynced)
    · exact ⟨before, hbefore.trans (List.prefix_append _ _), hsynced⟩
    · exact ⟨moves ++ [m], List.prefix_rfl, by simpa using hsynced⟩

/-- An event that is not in the log at the end of a run was never synced in it. -/
theorem not_everSynced_of_find?_eq_none (h : s.store.Ordered) {moves : List (Move ι)} {id : Int}
    (hnone : (s.run moves).store.find? id = none) : ¬ s.EverSynced moves id := by
  rintro ⟨before, ⟨rest, rfl⟩, f, hf, -⟩
  have hordered : (s.run before).store.Ordered :=
    run_induction (P := fun s => s.store.Ordered) (fun _ m h => ordered_step h m) h before
  obtain ⟨f', hf'⟩ := kept_run hordered hf rest
  rw [run_append, hf'] at hnone
  cases hnone

/-- After every run the events with a time are those that were ever synced. -/
theorem processedAt_run (moves : List (Move ι)) :
    ∀ id f, ((start now adapters limit settings).run moves).store.find? id = some f →
      (f.processedAt.isSome ↔ (start now adapters limit settings).EverSynced moves id) := by
  induction moves using List.reverseRecOn with
  | nil =>
    intro id f hf
    cases hf
  | append_singleton moves m ih =>
    intro id f' hf'
    have hordered : ((start now adapters limit settings).run moves).store.Ordered :=
      (sound_run moves).ordered
    rw [run_append, run_cons, run_nil] at hf'
    rw [everSynced_concat]
    obtain ⟨f, hf, htime, hstatus⟩ | ⟨hsynced, htime⟩ | ⟨hnone, htime, hstatus⟩ :=
      processedAt_step hordered hf'
    · rw [htime, ih id f hf]
      refine ⟨.inl, ?_⟩
      rintro (hever | ⟨g, hg, hsynced⟩)
      · exact hever
      · rw [hf', Option.some.injEq] at hg
        subst hg
        exact ⟨moves, List.prefix_rfl, f, hf, hstatus hsynced⟩
    · exact iff_of_true htime (.inr ⟨f', hf', hsynced⟩)
    · refine iff_of_false (by simp [htime]) ?_
      rintro (hever | ⟨g, hg, hsynced⟩)
      · exact not_everSynced_of_find?_eq_none Store.ordered_empty hnone hever
      · rw [hf', Option.some.injEq] at hg
        exact hstatus (hg ▸ hsynced)

/-- At every moment of every run, an event has a time of success if and only if it was ever
synced. So the time is there exactly while the event is synced, if and only if the event is
still synced if it ever was; and a reset makes it like a new one if and only if it never was.
An event ceases to be synced only by a late record, or if an operator resets this one event;
the latter is always accepted and leaves the time on record. -/
theorem processedAt_iff_everSynced {moves : List (Move ι)} {f : Event}
    (hf : f ∈ ((start now adapters limit settings).run moves).store.events) :
    let s := (start now adapters limit settings).run moves
    let synced := (start now adapters limit settings).EverSynced moves f.id
    (f.processedAt.isSome ↔ synced) ∧ (f.Stamped ↔ (synced → f.status = .success)) ∧
      (f.reset = .ofMutation f.mutation f.id f.createdAt ↔ ¬ synced) ∧
      (f.status = .success →
        (∀ m f', (s.step m).store.find? f.id = some f' → f'.status ≠ .success →
          m = .retryOne f.id ∨ s.Late m f.id) ∧
        (s.step (.retryOne f.id)).store.find? f.id = some f.reset ∧ ¬ f.reset.Stamped) := by
  intro s synced
  have hsound : s.Sound := sound_run moves
  have hfind : s.store.find? f.id = some f := hsound.ordered.find?_of_mem hf
  have htime : f.processedAt.isSome ↔ synced := processedAt_run moves f.id f hfind
  have hnow : f.status = .success → synced := fun h => ⟨moves, List.prefix_rfl, f, hfind, h⟩
  refine ⟨htime, ?_, ?_, fun hsuccess => ⟨fun m f' hf' hto => ?_, ?_, ?_⟩⟩
  · rw [Event.Stamped, htime]
    exact ⟨Iff.mp, fun h => ⟨h, hnow⟩⟩
  · rw [Event.reset_eq_ofMutation_iff, ← htime, Option.not_isSome_iff_eq_none]
  · exact hsound.leaves_success hfind hf' hsuccess hto
  · have hretry : s.store.retryOne s.now f.id = (.ok f.reset, s.store.modify f.id Event.reset) := by
      simp [Store.retryOne, hfind, hsuccess]
    simp [step, hretry, Store.find?_modify Event.id_reset, hfind]
  · intro hstamped
    have hpending : f.reset.status = .success := hstamped.1 (htime.2 (hnow hsuccess))
    cases hpending

/-- A run in which an event is synced, and an operator resets it. -/
def revived : List (Move Bool) :=
  [.append change, .begin false, goes false true, goes false true, goes false true,
    goes false true, goes false true, goes false true, .retryOne 1]

/-- The event of that run as it is at the end. -/
def revivedEvent : Event := (Store.succeeded .epoch (.ofMutation change 1 .epoch)).reset

theorem processedAt_iff_everSynced_revived :
    revivedEvent ∈ (pair.run revived).store.events ∧ revivedEvent.status = .pending ∧
      pair.EverSynced revived 1 ∧ ¬ revivedEvent.Stamped ∧
        revivedEvent.reset ≠ .ofMutation change 1 .epoch := by
  have hmem : revivedEvent ∈ (pair.run revived).store.events := by decide +kernel
  obtain ⟨htime, hstamped, hreset, -⟩ := processedAt_iff_everSynced hmem
  have hsynced : pair.EverSynced revived 1 := htime.1 rfl
  refine ⟨hmem, rfl, hsynced, fun h => ?_, fun h => hreset.1 h hsynced⟩
  have hsuccess : revivedEvent.status = .success := hstamped.1 h hsynced
  cases hsuccess

end Fleet

end Outbox
