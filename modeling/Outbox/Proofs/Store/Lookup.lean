import Outbox.Store.Memory
import Mathlib.Data.List.Basic

/-!
# The event log, event by event

What every operation of the event log does to the event with a given number. The
operations are maps over the list of events that keep the numbers, or put a new event at
the end; so one look-up law for maps and one for the end of the list settle all of them.

A log is `Ordered` when its events have ascending numbers below the next one. Every
operation keeps that, and in an ordered log an event is found under its number exactly if
it is in the log.
-/

namespace Outbox

namespace Event

/-- The change that an event is about. -/
def mutation (e : Event) : Mutation := ⟨e.entityType, e.entityId, e.action, e.payload⟩

@[simp] theorem id_ofMutation (m : Mutation) (id : Int) (now : Instant) :
    (ofMutation m id now).id = id := rfl

@[simp] theorem id_reset (e : Event) : e.reset.id = e.id := rfl

@[simp] theorem mutation_reset (e : Event) : e.reset.mutation = e.mutation := rfl

theorem precedes_iff {a b : Event} :
    a.precedes b = true ↔
      a.createdAt < b.createdAt ∨ a.createdAt = b.createdAt ∧ a.id < b.id := by
  simp [precedes]

theorem precedes_eq_false_iff {a b : Event} :
    b.precedes a = false ↔
      a.createdAt < b.createdAt ∨ a.createdAt = b.createdAt ∧ a.id ≤ b.id := by
  rw [← Bool.not_eq_true, precedes_iff, Instant.lt_iff, Instant.lt_iff, Instant.eq_iff,
    Instant.eq_iff]
  omega

/-- The order in which events were appended, as `mergeSort` asks for it. -/
theorem not_precedes_trans {a b c : Event} (hab : b.precedes a = false)
    (hbc : c.precedes b = false) : c.precedes a = false := by
  rw [precedes_eq_false_iff, Instant.lt_iff, Instant.eq_iff] at *
  omega

theorem not_precedes_total (a b : Event) : b.precedes a = false ∨ a.precedes b = false := by
  rw [precedes_eq_false_iff, precedes_eq_false_iff, Instant.lt_iff, Instant.lt_iff,
    Instant.eq_iff, Instant.eq_iff]
  omega

/-- Of two events with different numbers one was appended before the other. -/
theorem precedes_of_not_precedes {a b : Event} (h : b.precedes a = false) (hne : a.id ≠ b.id) :
    a.precedes b = true := by
  rw [precedes_eq_false_iff] at h
  exact precedes_iff.2 (h.imp_right fun ⟨htime, hid⟩ => ⟨htime, by omega⟩)

/-- A worker has claimed the event, and the claim has not ended. -/
def IsHeld (e : Event) (now : Instant) : Prop :=
  e.status = .processing ∧ ∀ t, e.nextRunAt = some t → now < t

theorem isHeld_iff {e : Event} {now : Instant} :
    e.IsHeld now ↔ (e.status == .processing && !e.claimExpired now) = true := by
  simp only [IsHeld, claimExpired, Bool.and_eq_true, beq_iff_eq]
  refine and_congr_right fun hs => ?_
  cases e.nextRunAt <;> simp [hs, Instant.not_le]

/-- What is due stays due. -/
theorem isDue_later {e : Event} {now later : Instant} (h : e.isDue now = true)
    (hle : now ≤ later) : e.isDue later = true := by
  have hreached : ∀ {t : Instant}, t ≤ now → t ≤ later := fun ht => Instant.le_trans ht hle
  unfold isDue claimExpired at *
  split at h
  · cases hnext : e.nextRunAt <;> simp_all
  · cases hnext : e.nextRunAt <;> simp_all

end Event

/-- A filter selects only events in a status that it asks for. -/
theorem ReplayFilter.status_of_selects {f : ReplayFilter} {e : Event} (h : f.selects e = true) :
    e.status ∈ f.statuses := by
  simp only [selects, Bool.and_eq_true, List.contains_iff_mem] at h
  exact h.1.1.1

namespace Store

@[simp] theorem id_claimed (t : Instant) (e : Event) : (claimed t e).id = e.id := rfl

@[simp] theorem mutation_claimed (t : Instant) (e : Event) :
    (claimed t e).mutation = e.mutation := rfl

/-! ### Looking up -/

/-- Only the list of events decides what is found. -/
theorem find?_congr {s s' : Store} (h : s'.events = s.events) (id : Int) :
    s'.find? id = s.find? id := by
  simp only [find?, h]

theorem id_of_find? {s : Store} {id : Int} {e : Event} (h : s.find? id = some e) : e.id = id := by
  simpa using List.find?_some h

/-- A map that keeps the numbers is a map of what is found. -/
theorem find?_map {s s' : Store} {g : Event → Event} (h : s'.events = s.events.map g)
    (hg : ∀ e, (g e).id = e.id) (id : Int) : s'.find? id = (s.find? id).map g := by
  simp only [find?, h, List.find?_map, Function.comp_def, hg]

theorem find?_modify {s : Store} {id : Int} {f : Event → Event} (hf : ∀ e, (f e).id = e.id)
    (k : Int) : (s.modify id f).find? k = if k = id then (s.find? k).map f else s.find? k := by
  rw [find?_map (events_modify s id f) (by intro e; split <;> simp [hf])]
  cases h : s.find? k with
  | none => simp
  | some e =>
    have hk : e.id = k := id_of_find? h
    by_cases hid : k = id <;> simp [hk, hid]

/-- A change of one event takes none out of the log. -/
theorem isSome_find?_modify {s : Store} {id : Int} {f : Event → Event} (hf : ∀ e, (f e).id = e.id)
    {k : Int} (h : (s.find? k).isSome = true) : ((s.modify id f).find? k).isSome = true := by
  rw [find?_modify hf]
  split
  · rwa [Option.isSome_map]
  · exact h

theorem find?_resetWhere (s : Store) (select : Event → Bool) (k : Int) :
    (s.resetWhere select).2.find? k =
      (s.find? k).map fun e => if select e then e.reset else e :=
  find?_map rfl (by intro e; split <;> rfl) k

/-- A reset of all events that a test selects leaves the others as they are. -/
theorem find?_resetWhere_of_not {s : Store} {select : Event → Bool} {k : Int} {e : Event}
    (he : s.find? k = some e) (hs : select e = false) :
    (s.resetWhere select).2.find? k = some e := by
  simp [find?_resetWhere, he, hs]

/-- To put one event back in the queue fails if there is none or a worker holds it, and
otherwise resets it. -/
theorem retryOne_eq (s : Store) (now : Instant) (id : Int) :
    s.find? id = none ∧ s.retryOne now id = (.error (.notFound (.event id)), s) ∨
      (∃ e, s.find? id = some e ∧ e.IsHeld now ∧
        s.retryOne now id = (.error (.conflict (.inProgress id)), s)) ∨
      ∃ e, s.find? id = some e ∧ ¬ e.IsHeld now ∧
        s.retryOne now id = (.ok e.reset, s.modify id Event.reset) := by
  unfold retryOne
  split
  · next hfind => exact .inl ⟨hfind, rfl⟩
  · next e hfind =>
    split
    · next hheld => exact .inr (.inl ⟨e, hfind, Event.isHeld_iff.2 hheld, rfl⟩)
    · next hheld => exact .inr (.inr ⟨e, hfind, fun h => hheld (Event.isHeld_iff.1 h), rfl⟩)

/-- To put one event back in the queue either resets it, which a worker's claim prevents as
long as it has not expired, or changes nothing. -/
theorem retryOne_cases (s : Store) (now : Instant) (id : Int) :
    (∃ f, s.find? id = some f ∧ (f.status = .processing → f.claimExpired now = true) ∧
        s.retryOne now id = (.ok f.reset, s.modify id Event.reset)) ∨
      ∃ why, s.retryOne now id = (.error why, s) := by
  obtain ⟨-, hr⟩ | ⟨f, -, -, hr⟩ | ⟨f, hf, hheld, hr⟩ := s.retryOne_eq now id
  · exact .inr ⟨_, hr⟩
  · exact .inr ⟨_, hr⟩
  · exact .inl ⟨f, hf, fun hs => by simpa [Event.isHeld_iff, hs] using hheld, hr⟩

/-- The oldest due events are events of the log that are due. -/
theorem of_mem_oldestDue {s : Store} {now : Instant} {limit : Nat} {e : Event}
    (h : e ∈ s.oldestDue now limit) : e ∈ s.events ∧ e.isDue now = true :=
  List.mem_filter.1 (List.mem_mergeSort.1 (List.mem_of_mem_take h))

/-- A due event is in a batch that takes all due events. -/
theorem mem_oldestDue {s : Store} {e : Event} (he : e ∈ s.events) {t : Instant}
    (hdue : e.isDue t = true) {limit : Nat}
    (hlimit : (s.events.filter fun e => e.isDue t).length ≤ limit) : e ∈ s.oldestDue t limit := by
  have hmem : e ∈ s.events.filter fun e => e.isDue t := List.mem_filter.2 ⟨he, hdue⟩
  rw [oldestDue, List.take_of_length_le (by rwa [List.length_mergeSort])]
  exact List.mem_mergeSort.2 hmem

/-- A claim of a due event under the status that it has would succeed. -/
theorem claimable_of_find? {s : Store} {e : Event} (he : s.find? e.id = some e) {t : Instant}
    (hdue : e.isDue t = true) : s.claimable t e.id e.status = true := by
  simp [claimable, he, hdue]

/-- A fetch gives events of the log and leaves them as they are. -/
theorem fetch_cases (s : Store) (now : Instant) (limit : Nat) :
    (s.fetch now limit).2.events = s.events ∧ (s.fetch now limit).2.nextId = s.nextId ∧
      ∀ e ∈ (s.fetch now limit).1.toOption.getD [], e ∈ s.events := by
  unfold fetch
  split
  · exact ⟨rfl, rfl, fun e he => absurd he List.not_mem_nil⟩
  · refine ⟨rfl, rfl, fun e he => ?_⟩
    exact (of_mem_oldestDue he).1

/-! ### Order -/

/-- The events have ascending numbers, all below the next one. -/
structure Ordered (s : Store) : Prop where
  /-- The numbers ascend. -/
  ascending : s.events.Pairwise fun a b => a.id < b.id
  /-- The next number is a new one. -/
  bounded : ∀ e ∈ s.events, e.id < s.nextId

theorem ordered_empty : Ordered {} := ⟨.nil, by simp⟩

theorem Ordered.congr {s s' : Store} (h : s.Ordered) (he : s'.events = s.events)
    (hn : s'.nextId = s.nextId) : s'.Ordered :=
  ⟨by rw [he]; exact h.ascending, by rw [he, hn]; exact h.bounded⟩

theorem Ordered.map {s s' : Store} (h : s.Ordered) {g : Event → Event}
    (he : s'.events = s.events.map g) (hg : ∀ e, (g e).id = e.id)
    (hn : s'.nextId = s.nextId) : s'.Ordered := by
  refine ⟨?_, ?_⟩
  · rw [he, List.pairwise_map]
    simpa only [hg] using h.ascending
  · rw [he, hn]
    intro e hm
    obtain ⟨d, hd, rfl⟩ := List.mem_map.1 hm
    rw [hg]
    exact h.bounded d hd

theorem Ordered.modify {s : Store} (h : s.Ordered) {id : Int} {f : Event → Event}
    (hf : ∀ e, (f e).id = e.id) : (s.modify id f).Ordered :=
  h.map rfl (by intro e; split <;> simp [hf]) rfl

theorem Ordered.resetWhere {s : Store} (h : s.Ordered) (select : Event → Bool) :
    (s.resetWhere select).2.Ordered :=
  h.map rfl (by intro e; split <;> rfl) rfl

/-- In an ordered log each event is found under its number. -/
theorem Ordered.find?_of_mem {s : Store} (h : s.Ordered) {e : Event} (he : e ∈ s.events) :
    s.find? e.id = some e := by
  obtain ⟨before, after, hs⟩ := List.append_of_mem he
  have hp := h.ascending
  rw [hs, List.pairwise_append] at hp
  have hne : ∀ d ∈ before, d.id ≠ e.id := fun d hd => by
    have := hp.2.2 d hd e List.mem_cons_self
    omega
  rw [Store.find?, hs, List.find?_append, List.find?_eq_none.2 (by simpa using hne)]
  simp

/-- The oldest due events are different ones. -/
theorem Ordered.oldestDue_distinct {s : Store} (h : s.Ordered) (now : Instant) (limit : Nat) :
    (s.oldestDue now limit).Pairwise fun a b => a.id ≠ b.id := by
  have hdue : (s.events.filter fun e => e.isDue now).Pairwise fun a b => a.id ≠ b.id :=
    (h.ascending.imp fun hlt => Int.ne_of_lt hlt).filter _
  have hsorted := (List.mergeSort_perm _ fun a b => !b.precedes a).symm.pairwise hdue Ne.symm
  exact hsorted.sublist (List.take_sublist ..)

/-- The oldest due events stand in the order in which they were appended. -/
theorem Ordered.oldestDue_ascending {s : Store} (h : s.Ordered) (now : Instant) (limit : Nat) :
    (s.oldestDue now limit).Pairwise fun a b => a.precedes b = true := by
  have hsorted : ((s.events.filter fun e => e.isDue now).mergeSort fun a b =>
      !b.precedes a).Pairwise fun a b => (!b.precedes a) = true := by
    refine List.pairwise_mergeSort (fun a b c hab hbc => ?_) (fun a b => ?_) _
    · rw [Bool.not_eq_true'] at hab hbc ⊢
      exact Event.not_precedes_trans hab hbc
    · simpa using Event.not_precedes_total a b
  have hbatch := (hsorted.sublist (List.take_sublist limit _)).and (h.oldestDue_distinct now limit)
  refine hbatch.imp fun ⟨hle, hne⟩ => ?_
  rw [Bool.not_eq_true'] at hle
  exact Event.precedes_of_not_precedes hle hne

/-- An event with a number above all others goes to the end. -/
theorem place_eq_append {e : Event} {es : List Event} (h : ∀ d ∈ es, d.id < e.id) :
    place e es = es ++ [e] := by
  induction es with
  | nil => rfl
  | cons d ds ih =>
    have hd : d.id < e.id := h d List.mem_cons_self
    have hds := ih fun c hc => h c (List.mem_cons_of_mem _ hc)
    rw [place, if_neg (by omega), if_neg (by omega), hds, List.cons_append]

theorem pairwise_place {e : Event} {es : List Event} (h : es.Pairwise fun a b => a.id < b.id) :
    (place e es).Pairwise fun a b => a.id < b.id := by
  induction es with
  | nil => exact List.pairwise_singleton ..
  | cons d ds ih =>
    obtain ⟨hd, hds⟩ := List.pairwise_cons.1 h
    rw [place]
    split
    · next hlt =>
      refine List.pairwise_cons.2 ⟨?_, h⟩
      intro c hc
      rcases List.mem_cons.1 hc with rfl | hc
      · exact hlt
      · exact Int.lt_trans hlt (hd c hc)
    · split
      · next heq => exact List.pairwise_cons.2 ⟨fun c hc => heq ▸ hd c hc, hds⟩
      · next hlt hne =>
        refine List.pairwise_cons.2 ⟨?_, ih hds⟩
        intro c hc
        rcases mem_place hc with rfl | hc
        · omega
        · exact hd c hc

theorem Ordered.insert {s : Store} (h : s.Ordered) (e : Event) : (s.insert e).Ordered := by
  refine ⟨pairwise_place h.ascending, ?_⟩
  intro d hd
  rcases mem_place hd with rfl | hd
  · exact Int.lt_of_lt_of_le (Int.lt_succ _) (Int.le_max_right ..)
  · exact Int.lt_of_lt_of_le (h.bounded d hd) (Int.le_max_left ..)

/-- The log into which these events were put. -/
def ofEvents (es : List Event) : Store := es.foldl Store.insert {}

theorem ordered_ofEvents (es : List Event) : (ofEvents es).Ordered :=
  List.foldlRecOn es Store.insert ordered_empty fun _ h e _ => h.insert e

/-- What an append does: it fails, and leaves the events and the next number as they are, or it
adds the event of the change under the next number. -/
theorem append_cases (s : Store) (now : Instant) (m : Mutation) :
    (∃ why, (s.append now m).1 = .error why ∧ (s.append now m).2.events = s.events ∧
        (s.append now m).2.nextId = s.nextId) ∨
      (s.append now m).1 = .ok (.ofMutation m s.nextId now) ∧
        (s.append now m).2.events = place (.ofMutation m s.nextId now) s.events ∧
        (s.append now m).2.nextId = s.nextId + 1 := by
  unfold append
  split
  · exact .inl ⟨_, rfl, rfl, rfl⟩
  · split
    · exact .inl ⟨_, rfl, rfl, rfl⟩
    · exact .inr ⟨rfl, rfl, rfl⟩

theorem Ordered.append {s : Store} (h : s.Ordered) (now : Instant) (m : Mutation) :
    (s.append now m).2.Ordered := by
  obtain ⟨-, -, he, hn⟩ | ⟨-, he, hn⟩ := append_cases s now m
  · exact h.congr he hn
  · rw [place_eq_append h.bounded] at he
    refine ⟨?_, ?_⟩
    · rw [he, List.pairwise_append]
      exact ⟨h.ascending, List.pairwise_singleton _ _, by simpa using h.bounded⟩
    · intro e hm
      rw [he] at hm
      rw [hn]
      rcases List.mem_append.1 hm with hm | hm
      · have := h.bounded e hm
        omega
      · rw [List.mem_singleton.1 hm]
        exact Int.lt_succ _

/-- What is found after an append: what was found before, or the new event under a number
that was free. -/
theorem Ordered.find?_append {s : Store} (h : s.Ordered) (now : Instant) (m : Mutation)
    (k : Int) :
    (s.append now m).2.find? k = s.find? k ∨
      s.find? k = none ∧
        (s.append now m).2.find? k = some (.ofMutation m s.nextId now) := by
  obtain ⟨-, -, he, -⟩ | ⟨-, he, -⟩ := append_cases s now m
  · exact .inl (find?_congr he k)
  · rw [place_eq_append h.bounded] at he
    rw [Store.find?, he, List.find?_append]
    cases hf : s.find? k with
    | some e => exact .inl (by rw [Store.find?] at hf; simp [hf])
    | none =>
      have hf' := hf
      rw [Store.find?] at hf'
      by_cases hk : s.nextId = k
      · exact .inr ⟨rfl, by simp [hf', hk]⟩
      · exact .inl (by simp [hf', hk])

end Store

end Outbox
