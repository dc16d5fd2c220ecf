import Outbox.Proofs.Fleet.Duty
import Outbox.Proofs.Fleet.Success

/-!
# What an adapter is called with

In the course of a run an adapter is called with one change after the other. Each is the change of
the event that is under way when the adapter is called (`requests_eq`), so what an adapter sees of
a run is a list of events, `deliveries`. `Delivered.run` says that each of them is in the log, with
the change that it was delivered with, and that every synced event is one of them.
-/

namespace Outbox

/-- A request for an event tells of the entity of the event. -/
@[simp] theorem SyncRequest.entityId_ofEvent (e : Event) : (ofEvent e).entityId = e.entityId := rfl

namespace Fleet

/-! ### What an adapter is called with -/

/-- The change with which a step calls the adapter at a place. -/
def requestAt (place : Nat) (s : Fleet Unit) : Move Unit → List SyncRequest
  | .proceed i _ _ =>
    match s.calling? i with
    | some (k, r) => if k = place then [r] else []
    | none => []
  | _ => []

/-- The event under way when a step calls the adapter at a place. -/
def deliveryAt (place : Nat) (s : Fleet Unit) : Move Unit → List Event
  | .proceed i _ _ =>
    match s.calling? i with
    | some (k, _) => if k = place then (s.member i).notes.claim.toList.map Claim.event else []
    | none => []
  | _ => []

/-- The events for which the adapter at a place is called in the course of a run. -/
def deliveries (place : Nat) : Fleet Unit → List (Move Unit) → List Event :=
  trace (deliveryAt place)

/-- The numbers of the events of an entity for which the adapter at a place is called in the
course of a run. -/
def deliveredIds (place : Nat) (entityId : String) (s : Fleet Unit) (moves : List (Move Unit)) :
    List Int :=
  ((deliveries place s moves).filter fun e => e.entityId = entityId).map Event.id

variable {s : Fleet Unit} {m : Move Unit} {w : WorkerSettings} {t : Duty} {place : Nat}
  {now : Instant} {adapters : List String} {limit : Span}

/-- An adapter is called with the change of the event under way. -/
theorem OnDuty.requestAt (h : s.OnDuty () w t) (place : Nat) (m : Move Unit) :
    s.requestAt place m = (s.deliveryAt place m).map .ofEvent := by
  cases m with
  | proceed i answer chance =>
    cases hcalling : s.calling? i with
    | none => simp [Fleet.requestAt, deliveryAt, hcalling]
    | some call =>
      obtain ⟨k, r⟩ := call
      obtain ⟨c, hc, -, rfl⟩ := h.calling hcalling
      have hclaim : (s.member i).notes.claim = some c := hc
      by_cases hk : k = place <;> simp [Fleet.requestAt, deliveryAt, hcalling, hclaim, hk]
  | _ => rfl

/-- An adapter is called for the event under way. -/
theorem OnDuty.held_of_delivery (h : s.OnDuty () w t) {e : Event}
    (he : e ∈ s.deliveryAt place m) : t.held = some e := by
  cases m with
  | proceed i answer chance =>
    cases hcalling : s.calling? i with
    | none => simp [deliveryAt, hcalling] at he
    | some call =>
      obtain ⟨c, hc, hheld, -⟩ := h.calling hcalling
      have hclaim : (s.member i).notes.claim = some c := hc
      have hcall : call.1 = place ∧ e = c.event := by
        simpa [deliveryAt, hcalling, hclaim] using he
      rw [hheld, hcall.2]
  | _ => exact absurd he List.not_mem_nil

/-- The worker's duty after a step of any kind. -/
theorem OnDuty.step (h : s.OnDuty () w t) (hs : s.Sound) (m : Move Unit) :
    ∃ t', (s.step m).OnDuty () w t' := by
  obtain ⟨answer, chance, rfl⟩ | hother := m.own_or_other ()
  · obtain ⟨t', hduty, -⟩ := turn_proceed h hs.ordered answer chance
    exact ⟨t', hduty⟩
  · exact ⟨t, h.other (hs.orderly ()) hother⟩

/-- The event is in the log with the change that it is about. -/
def Known (s : Fleet Unit) (e : Event) : Prop :=
  ∃ f, s.store.find? e.id = some f ∧ f.mutation = e.mutation

theorem Known.step {e : Event} (h : s.Known e) (hs : s.store.Ordered) (m : Move Unit) :
    (s.step m).Known e := by
  obtain ⟨f, hf, hmutation⟩ := h
  obtain ⟨f', hf', hkept⟩ := kept_step hs m hf
  exact ⟨f', hf', hkept.trans hmutation⟩

/-- These events were delivered to the adapter at a place: they are known, the event under way
is one of them if the adapter was called for it, and so is every synced event. -/
structure Delivered (place : Nat) (seen : List Event) (s : Fleet Unit) (t : Duty) : Prop where
  /-- The events are known. -/
  known : ∀ e ∈ seen, s.Known e
  /-- So is the event under way. -/
  underWay : ∀ e ∈ t.held, s.Known e
  /-- The event under way is one of them if the adapter was called for it. -/
  called : ∀ e ∈ t.held, place ∈ t.called → e ∈ seen
  /-- So is every synced event. -/
  synced : ∀ id f, s.store.find? id = some f → f.status = .success → ∃ e ∈ seen, e.id = id

theorem delivered_start : Delivered place [] (start now adapters limit fun _ => w) {} := by
  refine ⟨by simp, by simp, by simp, ?_⟩
  intro id f hf
  cases hf

namespace Delivered

variable {seen : List Event}

/-- An event that a step leaves synced was delivered before. -/
theorem synced_step (h : Delivered place seen s t) (hs : s.Sound) (hduty : s.OnDuty () w t)
    (hplace : place < s.adapters.length) (m : Move Unit) {id : Int} {f' : Event}
    (hf' : (s.step m).store.find? id = some f') (hsuccess : f'.status = .success) :
    ∃ e ∈ seen, e.id = id := by
  have hid : f'.id = id := Store.id_of_find? hf'
  cases origin_of_find? hs.ordered hf' with
  | kept hf => exact h.synced id f' (hid ▸ hf) hsuccess
  | appended change heq => rw [heq] at hsuccess; cases hsuccess
  | claimed hwins heq => rw [heq] at hsuccess; cases hsuccess
  | @settled i e f result chance d g hrecords houtcome hf heq =>
    -- An outcome is written for the event under way, when every adapter was called for it.
    obtain ⟨answer, chance, d, rfl, hsettling, -⟩ := hrecords
    obtain ⟨hheld, hcalled⟩ := hduty.settling hsettling
    refine ⟨e, h.called e hheld (by rw [hcalled]; exact List.mem_range.2 hplace), ?_⟩
    rw [← hid, heq, houtcome.id_eq]
    exact (Store.id_of_find? hf).symm
  | reset hm hf hidle heq => rw [heq] at hsuccess; cases hsuccess

/-- It is kept by a step after which the event under way is known, and was delivered if the
adapter was called for it. -/
theorem next (h : Delivered place seen s t) (hs : s.Sound) (hduty : s.OnDuty () w t)
    (hplace : place < s.adapters.length) (m : Move Unit) {t' : Duty}
    (hunderWay : ∀ e ∈ t'.held, s.Known e)
    (hcalled : ∀ e ∈ t'.held, place ∈ t'.called → e ∈ seen ++ deliveryAt place s m) :
    Delivered place (seen ++ deliveryAt place s m) (s.step m) t' where
  known e he := by
    rcases List.mem_append.1 he with he | he
    · exact (h.known e he).step hs.ordered m
    · exact (h.underWay e (hduty.held_of_delivery he)).step hs.ordered m
  underWay e he := (hunderWay e he).step hs.ordered m
  called := hcalled
  synced id f' hf' hsuccess := by
    obtain ⟨e, he, hid⟩ := h.synced_step hs hduty hplace m hf' hsuccess
    exact ⟨e, List.mem_append_left _ he, hid⟩

/-- The step of the worker keeps it. -/
theorem proceed (h : Delivered place seen s t) (hs : s.Sound) (hduty : s.OnDuty () w t)
    (hplace : place < s.adapters.length) {answer : CallEnd SyncOutcome} {chance : Chance}
    {t' : Duty} (hturn : s.Turn () (.proceed () answer chance) chance t t') :
    Delivered place (seen ++ deliveryAt place s (.proceed () answer chance))
      (s.step (.proceed () answer chance)) t' := by
  have hkept (e : Event) (he : e ∈ t.held) (hcalled : place ∈ t.called) :
      e ∈ seen ++ deliveryAt place s (.proceed () answer chance) :=
    List.mem_append_left _ (h.called e he hcalled)
  refine h.next hs hduty hplace _ ?_ ?_
  · cases hturn with
    | stayed | called => exact h.underWay
    | fetched | stopped | passed | settled | unwritten => simp
    | @claimed c called rest hq hwins hstore =>
      intro e he
      cases he
      exact hs.known () _ (hs.mem_batch_of_wins hwins)
  · cases hturn with
    | stayed => exact hkept
    | fetched | stopped | passed | settled | unwritten | claimed => simp
    | @called e k called rest hcalling hstore =>
      intro e' he hk
      cases he
      rcases List.mem_append.1 hk with hk | hk
      · exact hkept _ rfl hk
      · -- This is the call.
        have hplace : k = place := (List.mem_singleton.1 hk).symm
        obtain ⟨c, hc, hheld, -⟩ := hduty.calling hcalling
        have hclaim : (s.member ()).notes.claim = some c := hc
        rw [Option.some.injEq] at hheld
        refine List.mem_append_right _ ?_
        simp [deliveryAt, hcalling, hplace, hclaim, hheld]

/-- Every other step keeps it. -/
theorem other (h : Delivered place seen s t) (hs : s.Sound) (hduty : s.OnDuty () w t)
    (hplace : place < s.adapters.length) (m : Move Unit) :
    Delivered place (seen ++ deliveryAt place s m) (s.step m) t :=
  h.next hs hduty hplace m h.underWay fun e he hcalled =>
    List.mem_append_left _ (h.called e he hcalled)

/-- Every step keeps it. -/
theorem step (h : Delivered place seen s t) (hs : s.Sound) (hduty : s.OnDuty () w t)
    (hplace : place < s.adapters.length) (m : Move Unit) :
    ∃ t', (s.step m).OnDuty () w t' ∧
      Delivered place (seen ++ deliveryAt place s m) (s.step m) t' := by
  obtain ⟨answer, chance, rfl⟩ | hother := m.own_or_other ()
  · obtain ⟨t', hduty', hturn⟩ := turn_proceed hduty hs.ordered answer chance
    exact ⟨t', hduty', h.proceed hs hduty hplace hturn⟩
  · exact ⟨t, hduty.other (hs.orderly ()) hother, h.other hs hduty hplace m⟩

/-- Over every run it holds of the events that were delivered. -/
theorem run (hplace : place < adapters.length) (moves : List (Move Unit)) :
    let start := start now adapters limit fun _ => w
    (start.run moves).Sound ∧ ∃ t, Delivered place (deliveries place start moves)
      (start.run moves) t := by
  intro start
  have hstart : start.Sound ∧ start.adapters = adapters ∧ ∃ t, start.OnDuty () w t ∧
      Delivered place [] start t := ⟨sound_start, rfl, {}, onDuty_start, delivered_start⟩
  have hrun := trace_induction (deliveryAt place)
    (P := fun seen s => s.Sound ∧ s.adapters = adapters ∧ ∃ t, s.OnDuty () w t ∧
      Delivered place seen s t)
    (fun seen s m => by
      rintro ⟨hs, hadapters, t, hduty, h⟩
      refine ⟨sound_step hs m, (s.frame_step m).2.1.trans hadapters, ?_⟩
      exact h.step hs hduty (by rw [hadapters]; exact hplace) m) hstart moves
  obtain ⟨hs, -, t, -, h⟩ := hrun
  exact ⟨hs, t, h⟩

end Delivered

end Fleet

end Outbox
