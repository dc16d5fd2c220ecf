import Outbox.Proofs.Fleet.Invariant

/-!
# No false success

However late a worker is, and whoever has claimed or reset an event in the meantime: that an
event is recorded as synced is the result of a dispatch of it in which every adapter took the
change over. For a worker records a success only right after such a dispatch of the event as
it was fetched, and what the event says about the change is the same at all times.
-/

namespace Outbox

/-- The request for an event is made from the change alone that the event is about. -/
theorem SyncRequest.ofEvent_congr {e f : Event} (h : e.mutation = f.mutation) :
    ofEvent e = ofEvent f := by
  simp only [Event.mutation, Mutation.mk.injEq] at h
  obtain ⟨-, hid, haction, hpayload⟩ := h
  rw [ofEvent, ofEvent, hid, haction, hpayload]

namespace Fleet

variable {ι : Type} {s : Fleet ι}

/-- A worker has dispatched a change, and every adapter was called once and took it over. -/
def Synced (s : Fleet ι) (r : SyncRequest) : Prop :=
  ∃ i ends, ends.length = s.adapters.length ∧ (∀ e ∈ ends, e.IsSuccess) ∧
    Exchange.dispatch r ends <:+: (s.member i).notes.exchanges

/-- Every event that is recorded as synced has been dispatched with success. -/
def Honest (s : Fleet ι) : Prop :=
  ∀ id f, s.store.find? id = some f → f.status = .success → s.Synced (.ofEvent f)

/-- A worker that is about to record a success has dispatched the event with success. -/
theorem Sound.synced (h : s.Sound) {i : ι} {e : Event}
    (hsettling : s.settling? i = some (e, .success)) : s.Synced (.ofEvent e) := by
  obtain ⟨c, ends, -, -, -, hlength, hsuffix, hresult⟩ := h.earned hsettling
  refine ⟨i, ends, hlength, ?_, hsuffix.isInfix⟩
  rw [← AdapterOutcome.ofEnds_success hlength, ← DispatchResult.attempt_ofOutcomes]
  exact hresult.symm

variable [DecidableEq ι] {now : Instant} {adapters : List String} {limit : Span}
  {settings : ι → WorkerSettings}

theorem Synced.step {r : SyncRequest} (h : s.Synced r) (m : Move ι) : (s.step m).Synced r := by
  obtain ⟨i, ends, hlength, hsuccess, hinfix⟩ := h
  refine ⟨i, ends, ?_, hsuccess, hinfix.trans (s.exchanges_step m i).isInfix⟩
  rw [(s.frame_step m).2.1, hlength]

theorem honest_step (hs : s.Sound) (h : s.Honest) (m : Move ι) : (s.step m).Honest := by
  intro id f' hf' hsuccess
  cases origin_of_find? hs.ordered hf' with
  | kept hf => exact (h _ f' hf hsuccess).step m
  | appended change heq => rw [heq] at hsuccess; cases hsuccess
  | claimed hwins heq => rw [heq] at hsuccess; cases hsuccess
  | @settled i e f _ _ _ _ hrecords houtcome hf heq =>
    subst heq
    obtain ⟨answer, chance, d, rfl, hsettling, -⟩ := hrecords
    cases houtcome with
    | succeeded =>
      -- The event in the log is about the same change as the one that was fetched.
      obtain ⟨c, ends, -, -, hmem, -⟩ := hs.earned hsettling
      obtain ⟨f₀, hf₀, hmutation⟩ := hs.known i e hmem
      rw [hf, Option.some.injEq] at hf₀
      subst hf₀
      have hrequest := SyncRequest.ofEvent_congr hmutation.symm
      have hsynced := hs.synced hsettling
      rw [hrequest] at hsynced
      exact hsynced.step _
    | retried => cases hsuccess
    | deadLettered => cases hsuccess
  | reset hm hf hidle heq => rw [heq] at hsuccess; cases hsuccess

/-- At every moment of every run, an event that is recorded as synced has been dispatched with
success: with its entity id, its action and its payload, to every adapter. -/
theorem success_synced {moves : List (Move ι)} {f : Event}
    (hf : f ∈ ((start now adapters limit settings).run moves).store.events)
    (hsuccess : f.status = .success) :
    ∃ i ends, ends.length = adapters.length ∧ (∀ e ∈ ends, e.IsSuccess) ∧
      Exchange.dispatch ⟨f.entityId, f.action, f.payload⟩ ends <:+:
        (((start now adapters limit settings).run moves).member i).notes.exchanges := by
  have hstart : (start now adapters limit settings).Honest := by
    intro id f hf
    cases hf
  have hhonest := start_induction hstart (fun _ m hs h => honest_step hs h m) moves
  have hadapters : ((start now adapters limit settings).run moves).adapters = adapters :=
    run_induction (P := fun s => s.adapters = adapters)
      (fun s m h => (s.frame_step m).2.1.trans h) rfl moves
  obtain ⟨i, ends, hlength, hends, hinfix⟩ :=
    hhonest f.id f ((sound_run moves).ordered.find?_of_mem hf) hsuccess
  exact ⟨i, ends, by rw [hlength, hadapters], hends, hinfix⟩

/-- A run in which an event is synced, while the other worker loses the claim. -/
def syncing : List (Move Bool) :=
  [.append change, .begin false, .begin true, goes false true, goes true true,
    goes false true, goes true true, goes false true, goes false true, goes false true]

/-- The event of that run as it is at the end. -/
def syncedEvent : Event := Store.succeeded .epoch (.ofMutation change 1 .epoch)

theorem success_synced_syncing :
    syncedEvent ∈ (pair.run syncing).store.events ∧ syncedEvent.status = .success ∧
      ∃ i ends, ends.length = 1 ∧ (∀ e ∈ ends, e.IsSuccess) ∧
        Exchange.dispatch (.ofMutation change) ends <:+:
          ((pair.run syncing).member i).notes.exchanges := by
  have hmem : syncedEvent ∈ (pair.run syncing).store.events := by decide +kernel
  exact ⟨hmem, rfl, success_synced hmem rfl⟩

end Fleet

end Outbox
