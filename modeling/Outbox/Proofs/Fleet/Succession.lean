import Outbox.Proofs.Fleet.AppendOnly
import Outbox.Proofs.Fleet.Coherence
import Outbox.Proofs.Fleet.Delivery

/-!
# When the events of an entity are delivered in order

Nothing makes an event wait for an earlier one of the same entity. But a batch has the oldest
events that are due, in the order in which they were appended, and a pending event is due at any
time. So as long as every dispatch of an entity's events succeeds, every outcome of them is written
and no operator resets one (`Smooth`), a later event of the entity is not claimed before all the
earlier ones are synced, and the entity's events are delivered in the order in which they were
appended, whatever becomes of all others (`delivered_in_order`).

Two things carry the proof. `InLine` is about the log: whatever comes before an event that is not
pending any more is synced. `Queue` is about the batch: the events of the entity that are yet to be
claimed stand in order, and no earlier one that is pending is missing. One failure is enough to
break the second, as a failed event is not due until later.
-/

namespace Outbox

namespace Fleet

/-! ### The order of the log -/

section

variable {ι : Type} {s : Fleet ι}

/-- The events were appended one after the other, up to now. -/
structure Chronological (s : Fleet ι) : Prop where
  /-- A later one was not appended at an earlier time. -/
  ascending : s.store.entries.Pairwise fun a b => a.createdAt ≤ b.createdAt
  /-- None is from the future. -/
  past : ∀ x ∈ s.store.entries, x.createdAt ≤ s.now

/-- Of two events the one with the lower number was not appended later. -/
theorem Chronological.createdAt_le (h : s.Chronological) (hs : s.store.Ordered) {a b : Event}
    (ha : a ∈ s.store.events) (hb : b ∈ s.store.events) (hlt : a.id < b.id) :
    a.createdAt ≤ b.createdAt := by
  have htimes : s.store.events.Pairwise fun a b => a.createdAt ≤ b.createdAt :=
    (List.pairwise_map (f := Event.entry)).1 h.ascending
  obtain ⟨i, hi, rfl⟩ := List.getElem_of_mem ha
  obtain ⟨j, hj, rfl⟩ := List.getElem_of_mem hb
  rcases Nat.lt_trichotomy i j with hij | rfl | hji
  · exact List.pairwise_iff_getElem.1 htimes i j hi hj hij
  · omega
  · have hgt := List.pairwise_iff_getElem.1 hs.ascending j i hj hi hji
    omega

variable [DecidableEq ι]

theorem Chronological.step (h : s.Chronological) (hs : s.store.Ordered) (m : Move ι) :
    (s.step m).Chronological := by
  have hnow : s.now ≤ (s.step m).now := (s.frame_step m).1
  obtain hsame | ⟨change, -, hadded⟩ := entries_step hs m
  · exact ⟨hsame ▸ h.ascending, fun x hx => Instant.le_trans (h.past x (hsame ▸ hx)) hnow⟩
  · refine ⟨?_, fun x hx => ?_⟩
    · rw [hadded, List.pairwise_append]
      refine ⟨h.ascending, List.pairwise_singleton .., fun x hx y hy => ?_⟩
      rw [List.mem_singleton.1 hy]
      exact h.past x hx
    · rw [hadded] at hx
      rcases List.mem_append.1 hx with hx | hx
      · exact Instant.le_trans (h.past x hx) hnow
      · rw [List.mem_singleton.1 hx]
        exact hnow

end

variable {s s' : Fleet Unit} {m : Move Unit} {w : WorkerSettings} {t t' : Duty}
  {entityId : String} {place : Nat} {now : Instant} {adapters : List String} {limit : Span}

/-! ### Runs in which nothing goes wrong with an entity -/

/-- The step is not an operator's that resets an event of the entity, and if it has an outcome of
such an event to write, that is a success and is written. -/
structure Smooth (entityId : String) (s : Fleet Unit) (m : Move Unit) : Prop where
  /-- No operator touches an event of the entity. -/
  untouched : m.IsOperator → ∀ f ∈ s.store.events, f.entityId = entityId →
    (s.step m).store.find? f.id = some f
  /-- The dispatch of an event of the entity has not failed. -/
  succeeded : ∀ x ∈ s.settledBy m, x.1.entityId = entityId → x.2 = .success
  /-- The write of its outcome is not made to fail. -/
  written : ∀ x ∈ s.settledBy m, x.1.entityId = entityId → s.store.outcomeFailures = 0

instance (entityId : String) (s : Fleet Unit) (m : Move Unit) : Decidable (Smooth entityId s m) :=
  decidable_of_iff (_ ∧ _ ∧ _) ⟨fun h => ⟨h.1, h.2.1, h.2.2⟩,
    fun h => ⟨h.untouched, h.succeeded, h.written⟩⟩

/-! ### The events of an entity -/

/-- The event is in the log, as it is, as one of the entity. -/
def Has (entityId : String) (s : Fleet Unit) (f : Event) : Prop :=
  s.store.find? f.id = some f ∧ f.entityId = entityId

theorem Has.mem {f : Event} (h : s.Has entityId f) : f ∈ s.store.events :=
  List.mem_of_find?_eq_some h.1

theorem Has.unique {a b : Event} (ha : s.Has entityId a) (hb : s.Has entityId b)
    (hid : a.id = b.id) : a = b := by
  have hfind := ha.1
  rw [hid, hb.1, Option.some.injEq] at hfind
  exact hfind.symm

/-- The events of the entity after one event of the log has changed, but not what it is about. -/
theorem has_changed {id : Int} {g : Event → Event} (hid : ∀ e, (g e).id = e.id)
    (hmutation : ∀ e, (g e).mutation = e.mutation)
    (hstore : ∀ k, s'.store.find? k =
      if k = id then (s.store.find? k).map g else s.store.find? k) {f : Event} :
    s'.Has entityId f ↔
      f.id ≠ id ∧ s.Has entityId f ∨ ∃ d, s.Has entityId d ∧ d.id = id ∧ f = g d := by
  have hentity (e : Event) : (g e).entityId = e.entityId :=
    congrArg Mutation.entityId (hmutation e)
  rw [Has, hstore]
  constructor
  · rintro ⟨hfind, hf⟩
    by_cases hchanged : f.id = id
    · rw [if_pos hchanged] at hfind
      obtain ⟨d, hd, rfl⟩ := Option.map_eq_some_iff.1 hfind
      rw [hid] at hd hchanged
      exact .inr ⟨d, ⟨hd, (hentity d).symm.trans hf⟩, hchanged, rfl⟩
    · rw [if_neg hchanged] at hfind
      exact .inl ⟨hchanged, hfind, hf⟩
  · rintro (⟨hother, hfind, hf⟩ | ⟨d, ⟨hd, hf⟩, rfl, rfl⟩)
    · rw [if_neg hother]
      exact ⟨hfind, hf⟩
    · rw [if_pos (hid d), hid, hd]
      exact ⟨rfl, (hentity d).trans hf⟩

/-- After a step that has grown the log, an entity has the events that it had, and perhaps one
more. -/
structure Grown (entityId : String) (s s' : Fleet Unit) : Prop where
  /-- It has those that it had. -/
  kept : ∀ f, s.Has entityId f → s'.Has entityId f
  /-- Any other is a pending one behind all those. -/
  new : ∀ f, s'.Has entityId f →
    s.Has entityId f ∨ f.status = .pending ∧ ∀ d, s.Has entityId d → d.id < f.id

theorem grown_of_same (hstore : ∀ id, s'.store.find? id = s.store.find? id) :
    Grown entityId s s' := by
  have hiff (f : Event) : s'.Has entityId f ↔ s.Has entityId f := by rw [Has, Has, hstore]
  exact ⟨fun f => (hiff f).2, fun f hf => .inl ((hiff f).1 hf)⟩

/-- If an event of another entity has changed, nothing has for this one. -/
theorem grown_of_changed {id : Int} {g : Event → Event} (hid : ∀ e, (g e).id = e.id)
    (hmutation : ∀ e, (g e).mutation = e.mutation)
    (hstore : ∀ k, s'.store.find? k =
      if k = id then (s.store.find? k).map g else s.store.find? k)
    (hother : ∀ f, s.Has entityId f → f.id ≠ id) : Grown entityId s s' where
  kept f hf := (has_changed hid hmutation hstore).2 (.inl ⟨hother f hf, hf⟩)
  new f hf := by
    obtain ⟨-, hf⟩ | ⟨d, hd, hd', -⟩ := (has_changed hid hmutation hstore).1 hf
    · exact .inl hf
    · exact absurd hd' (hother d hd)

/-- A step that is not the worker's grows the log, as long as no operator touches the events of the
entity. -/
theorem Smooth.grown (hm : Smooth entityId s m) (hs : s.store.Ordered)
    (hother : ∀ answer chance, m ≠ .proceed () answer chance) : Grown entityId s (s.step m) where
  kept f hf := by
    refine ⟨?_, hf.2⟩
    cases step_effect hs m f.id with
    | kept hfind howner => rw [hfind, hf.1]
    | appended change hfree hfind howner => simp [hf.1] at hfree
    | claimed hwins hid hholds =>
      obtain ⟨answer, chance, next, rfl, -⟩ := hwins.asked
      exact absurd rfl (hother answer chance)
    | settled hrecords hid houtcome hfind howner hfree =>
      obtain ⟨answer, chance, d, rfl, -⟩ := hrecords
      exact absurd rfl (hother answer chance)
    | reset hoperator hd hidle hfind howner => exact hm.untouched hoperator f hf.mem hf.2
  new f hf := by
    cases origin_of_find? hs hf.1 with
    | kept hfind => exact .inl ⟨hfind, hf.2⟩
    | appended change heq =>
      refine .inr ⟨by rw [heq]; rfl, fun d hd => ?_⟩
      rw [heq]
      exact hs.bounded d hd.mem
    | claimed hwins heq =>
      obtain ⟨answer, chance, next, rfl, -⟩ := hwins.asked
      exact absurd rfl (hother answer chance)
    | settled hrecords houtcome hd heq =>
      obtain ⟨answer, chance, d, rfl, -⟩ := hrecords
      exact absurd rfl (hother answer chance)
    | @reset d hoperator hd hidle heq =>
      -- It was not touched, so it is as it was.
      have hentity : d.entityId = entityId := by
        rw [← hf.2, heq]
        rfl
      have hsame := hm.untouched hoperator d (List.mem_of_find?_eq_some hd) hentity
      have hid : f.id = d.id := by rw [heq, Event.id_reset]
      rw [← hid, hf.1, Option.some.injEq] at hsame
      exact .inl ⟨hsame ▸ hd, hf.2⟩

/-! ### The log -/

/-- The events of an entity are synced one after the other. -/
structure InLine (entityId : String) (s : Fleet Unit) (held : Option Event) : Prop where
  /-- Each of them is pending or synced, or it is the one under way. -/
  standing : ∀ f, s.Has entityId f → f.status = .pending ∨ f.status = .success ∨
    f.status = .processing ∧ ∃ e ∈ held, e.id = f.id
  /-- The one under way is processing. -/
  underWay : ∀ e ∈ held, e.entityId = entityId →
    ∃ f, s.Has entityId f ∧ f.id = e.id ∧ f.status = .processing
  /-- What comes before one that is not pending any more is synced. -/
  before : ∀ a b, s.Has entityId a → s.Has entityId b → a.id < b.id → b.status ≠ .pending →
    a.status = .success

namespace InLine

variable {held : Option Event} {e : Event}

theorem grown (h : InLine entityId s held) (hgrown : Grown entityId s s') :
    InLine entityId s' held where
  standing f hf := by
    obtain hf | ⟨hpending, -⟩ := hgrown.new f hf
    · exact h.standing f hf
    · exact .inl hpending
  underWay e he hentity := by
    obtain ⟨f, hf, hid, hprocessing⟩ := h.underWay e he hentity
    exact ⟨f, hgrown.kept f hf, hid, hprocessing⟩
  before a b ha hb hlt hbegun := by
    obtain hb | ⟨hpending, -⟩ := hgrown.new b hb
    · obtain ha | ⟨-, hlast⟩ := hgrown.new a ha
      · exact h.before a b ha hb hlt hbegun
      · have hgt := hlast b hb
        omega
    · exact absurd hpending hbegun

/-- Which event is under way makes no difference as long as it is one of another entity. -/
theorem otherHeld (h : InLine entityId s held) {held' : Option Event}
    (hheld : ∀ e ∈ held, ∀ f, s.Has entityId f → e.id ≠ f.id)
    (hheld' : ∀ e ∈ held', e.entityId ≠ entityId) : InLine entityId s held' where
  standing f hf := by
    obtain hpending | hsuccess | ⟨-, e, he, hid⟩ := h.standing f hf
    · exact .inl hpending
    · exact .inr (.inl hsuccess)
    · exact absurd hid (hheld e he f hf)
  underWay e he hentity := absurd hentity (hheld' e he)
  before := h.before

/-- An event of the entity has been claimed, the first one that was pending. -/
theorem claimed (h : InLine entityId s none) {leaseEnd : Instant} (he : s.Has entityId e)
    (hpending : e.status = .pending)
    (hfirst : ∀ f, s.Has entityId f → f.id < e.id → f.status ≠ .pending)
    (hstore : ∀ k, s'.store.find? k = if k = e.id then (s.store.find? k).map
      (Store.claimed leaseEnd) else s.store.find? k) : InLine entityId s' (some e) := by
  have hhas {f : Event} : s'.Has entityId f ↔ f.id ≠ e.id ∧ s.Has entityId f ∨
      ∃ d, s.Has entityId d ∧ d.id = e.id ∧ f = Store.claimed leaseEnd d :=
    has_changed (Store.id_claimed _) (Store.mutation_claimed _) hstore
  constructor
  · intro f hf
    obtain ⟨-, hf⟩ | ⟨d, -, hid, rfl⟩ := hhas.1 hf
    · obtain hpending | hsuccess | ⟨-, e, he, -⟩ := h.standing f hf
      · exact .inl hpending
      · exact .inr (.inl hsuccess)
      · cases he
    · exact .inr (.inr ⟨rfl, e, rfl, hid.symm⟩)
  · rintro _ ⟨⟩ -
    exact ⟨_, hhas.2 (.inr ⟨e, he, rfl, rfl⟩), rfl, rfl⟩
  · intro a b ha hb hlt hbegun
    obtain ⟨hother, hb⟩ | ⟨d, hd, hid, rfl⟩ := hhas.1 hb
    · obtain ⟨-, ha⟩ | ⟨d, hd, hid, rfl⟩ := hhas.1 ha
      · exact h.before a b ha hb hlt hbegun
      · -- Nothing behind a pending event has begun.
        obtain rfl := hd.unique he hid
        have hsynced := h.before d b hd hb hlt hbegun
        rw [hpending] at hsynced
        cases hsynced
    · have hlt' : a.id < e.id := hid ▸ hlt
      obtain ⟨-, ha⟩ | ⟨d', hd', hid', rfl⟩ := hhas.1 ha
      · obtain hpending | hsuccess | ⟨-, e, he, -⟩ := h.standing a ha
        · exact absurd hpending (hfirst a ha hlt')
        · exact hsuccess
        · cases he
      · rw [Store.id_claimed] at hlt'
        omega

/-- The event under way has been synced. -/
theorem settled (h : InLine entityId s (some e)) (hentity : e.entityId = entityId)
    {time : Instant} (hstore : ∀ k, s'.store.find? k = if k = e.id then (s.store.find? k).map
      (Store.succeeded time) else s.store.find? k) : InLine entityId s' none := by
  have hhas {f : Event} : s'.Has entityId f ↔ f.id ≠ e.id ∧ s.Has entityId f ∨
      ∃ d, s.Has entityId d ∧ d.id = e.id ∧ f = Store.succeeded time d :=
    has_changed (g := Store.succeeded time) (fun _ => rfl) (fun _ => rfl) hstore
  constructor
  · intro f hf
    obtain ⟨hother, hf⟩ | ⟨d, -, -, rfl⟩ := hhas.1 hf
    · obtain hpending | hsuccess | ⟨-, d, hd, hid⟩ := h.standing f hf
      · exact .inl hpending
      · exact .inr (.inl hsuccess)
      · cases hd
        exact absurd hid.symm hother
    · exact .inr (.inl rfl)
  · rintro d ⟨⟩
  · intro a b ha hb hlt hbegun
    obtain ⟨-, ha⟩ | ⟨d, -, -, rfl⟩ := hhas.1 ha
    · obtain ⟨-, hb⟩ | ⟨d, hd, hid, rfl⟩ := hhas.1 hb
      · exact h.before a b ha hb hlt hbegun
      · -- It was processing, so it had begun already.
        obtain ⟨f, hf, hid', hprocessing⟩ := h.underWay e rfl hentity
        obtain rfl := hd.unique hf (hid.trans hid'.symm)
        exact h.before a d ha hd hlt (by simp [hprocessing])
    · rfl

end InLine

/-! ### The batch -/

/-- The events of an entity that are yet to be claimed stand in order, and none is missing. -/
structure Queue (entityId : String) (s : Fleet Unit) (rest : List Event) : Prop where
  /-- They are pending. -/
  pending : ∀ e ∈ rest, e.entityId = entityId → s.Has entityId e ∧ e.status = .pending
  /-- They stand in order. -/
  ascending : rest.Pairwise fun a b =>
    a.entityId = entityId → b.entityId = entityId → a.id < b.id
  /-- One that is pending and comes before one of them is one of them too. -/
  complete : ∀ e ∈ rest, e.entityId = entityId → ∀ f, s.Has entityId f → f.status = .pending →
    f.id < e.id → f ∈ rest

namespace Queue

variable {e : Event} {rest : List Event}

theorem nil : Queue entityId s [] := ⟨by simp, .nil, by simp⟩

theorem grown (h : Queue entityId s rest) (hgrown : Grown entityId s s') :
    Queue entityId s' rest where
  pending e he hentity := (h.pending e he hentity).imp_left (hgrown.kept e)
  ascending := h.ascending
  complete e he hentity f hf hpending hlt := by
    obtain hf | ⟨-, hlast⟩ := hgrown.new f hf
    · exact h.complete e he hentity f hf hpending hlt
    · have hgt := hlast e (h.pending e he hentity).1
      omega

/-- The next event is not one of the entity. -/
theorem tail (h : Queue entityId s (e :: rest)) (he : e.entityId ≠ entityId) :
    Queue entityId s rest where
  pending d hd := h.pending d (List.mem_cons_of_mem _ hd)
  ascending := h.ascending.tail
  complete d hd hentity f hf hpending hlt := by
    have hmem := h.complete d (List.mem_cons_of_mem _ hd) hentity f hf hpending hlt
    refine (List.mem_cons.1 hmem).resolve_left ?_
    rintro rfl
    exact he hf.2

/-- The next event is one of the entity: then no pending one comes before it. -/
theorem first (h : Queue entityId s (e :: rest)) (he : e.entityId = entityId) {f : Event}
    (hf : s.Has entityId f) (hlt : f.id < e.id) : f.status ≠ .pending := by
  intro hpending
  have hmem := h.complete e List.mem_cons_self he f hf hpending hlt
  rcases List.mem_cons.1 hmem with rfl | hmem
  · omega
  · have hgt := (List.pairwise_cons.1 h.ascending).1 f hmem he hf.2
    omega

/-- An event has changed so that it is not pending any more, and if it was to be claimed it is so no
more. -/
theorem changed (h : Queue entityId s rest) {rest' : List Event} (hsub : rest'.Sublist rest)
    {id : Int} {g : Event → Event} (hid : ∀ e, (g e).id = e.id)
    (hmutation : ∀ e, (g e).mutation = e.mutation) (hstatus : ∀ e, (g e).status ≠ .pending)
    (hstore : ∀ k, s'.store.find? k =
      if k = id then (s.store.find? k).map g else s.store.find? k)
    (hother : ∀ e ∈ rest', e.entityId = entityId → e.id ≠ id)
    (hleft : ∀ e ∈ rest, e.id ≠ id → e ∈ rest') : Queue entityId s' rest' where
  pending e he hentity := by
    obtain ⟨hhad, hpending⟩ := h.pending e (hsub.subset he) hentity
    exact ⟨(has_changed hid hmutation hstore).2 (.inl ⟨hother e he hentity, hhad⟩), hpending⟩
  ascending := h.ascending.sublist hsub
  complete e he hentity f hf hpending hlt := by
    obtain ⟨hf', hf⟩ | ⟨d, -, -, rfl⟩ := (has_changed hid hmutation hstore).1 hf
    · exact hleft f (h.complete e (hsub.subset he) hentity f hf hpending hlt) hf'
    · exact absurd hpending (hstatus d)

/-- The next event has been claimed, and is one of the entity. -/
theorem claimed (h : Queue entityId s (e :: rest)) (he : e.entityId = entityId)
    {leaseEnd : Instant} (hstore : ∀ k, s'.store.find? k = if k = e.id then (s.store.find? k).map
      (Store.claimed leaseEnd) else s.store.find? k) : Queue entityId s' rest := by
  have hbehind := (List.pairwise_cons.1 h.ascending).1
  refine h.changed (List.sublist_cons_self e rest) (Store.id_claimed _) (Store.mutation_claimed _)
    (by simp [Store.claimed]) hstore (fun d hd hentity => ?_) fun d hd hother => ?_
  · have hlt := hbehind d hd he hentity
    omega
  · refine (List.mem_cons.1 hd).resolve_left ?_
    rintro rfl
    exact hother rfl

/-- A batch of the oldest work that is due. -/
theorem fetched (hs : s.store.Ordered) (hcoherent : s.Coherent) (hchronological : s.Chronological)
    (hline : InLine entityId s none) {limit : Nat}
    (h : s.store.IsOldestDue s.now limit rest) : Queue entityId s rest := by
  have hlater {a b : Event} (ha : a ∈ s.store.events) (hb : b ∈ s.store.events)
      (hlate : b.createdAt < a.createdAt ∨ b.createdAt = a.createdAt ∧ b.id < a.id) :
      ¬ a.id < b.id := by
    intro hlt
    have htime := hchronological.createdAt_le hs ha hb hlt
    rcases hlate with hlate | ⟨-, hlate⟩
    · exact Instant.not_le.2 hlate htime
    · omega
  refine ⟨fun e he hentity => ?_, ?_, fun e he hentity f hf hpending hlt => ?_⟩
  · obtain ⟨hmem, hdue⟩ := h.due e he
    have hhas : s.Has entityId e := ⟨hs.find?_of_mem hmem, hentity⟩
    refine ⟨hhas, ?_⟩
    obtain hpending | hsuccess | ⟨-, d, hd, -⟩ := hline.standing e hhas
    · exact hpending
    · simp [Event.isDue_of_terminal (.inl hsuccess)] at hdue
    · cases hd
  · have hdistinct := List.pairwise_map.1 h.distinct
    refine (h.ascending.and hdistinct).imp_of_mem ?_
    rintro a b ha hb ⟨hearly, hne⟩ - -
    have hle := hlater (h.due b hb).1 (h.due a ha).1 hearly
    omega
  · by_contra hout
    have hdue : f.isDue s.now = true := (hcoherent f.id f hf.1).isDue_of_pending hpending s.now
    exact hlater hf.mem (h.due e he).1 (h.oldest f hf.mem hdue hout e he) hlt

end Queue

/-! ### What was delivered -/

/-- An event of the entity under a number is not pending any more. -/
def Begun (entityId : String) (s : Fleet Unit) (id : Int) : Prop :=
  ∃ f, s.Has entityId f ∧ f.id = id ∧ f.status ≠ .pending

theorem Begun.grown {id : Int} (h : s.Begun entityId id) (hgrown : Grown entityId s s') :
    s'.Begun entityId id := by
  obtain ⟨f, hf, hid, hbegun⟩ := h
  exact ⟨f, hgrown.kept f hf, hid, hbegun⟩

/-- An event that has begun does not become pending again by a change of some event that leaves
that one in another status. -/
theorem Begun.changed {id k : Int} (h : s.Begun entityId id) {g : Event → Event}
    (hid : ∀ e, (g e).id = e.id) (hmutation : ∀ e, (g e).mutation = e.mutation)
    (hstatus : ∀ e, (g e).status ≠ .pending)
    (hstore : ∀ j, s'.store.find? j =
      if j = k then (s.store.find? j).map g else s.store.find? j) : s'.Begun entityId id := by
  obtain ⟨f, hf, rfl, hbegun⟩ := h
  by_cases hchanged : f.id = k
  · exact ⟨g f, (has_changed hid hmutation hstore).2 (.inr ⟨f, hf, hchanged, rfl⟩), hid f,
      hstatus f⟩
  · exact ⟨f, (has_changed hid hmutation hstore).2 (.inl ⟨hchanged, hf⟩), rfl, hbegun⟩

/-- A known event of another entity is none of this one. -/
theorem Known.ne_of_has {e f : Event} (h : s.Known e) (he : e.entityId ≠ entityId)
    (hf : s.Has entityId f) : f.id ≠ e.id := by
  intro hid
  obtain ⟨d, hd, hmutation⟩ := h
  rw [← hid, hf.1, Option.some.injEq] at hd
  subst hd
  have hsame : f.entityId = e.entityId := congrArg Mutation.entityId hmutation
  exact he (hsame.symm.trans hf.2)

/-- The events of an entity are synced one after the other, and these were delivered in that
order. -/
structure Succession (entityId : String) (seen : List Event) (s : Fleet Unit) (t : Duty) :
    Prop where
  /-- In the log they are in line. -/
  line : InLine entityId s t.held
  /-- In the batch they are, too. -/
  queue : Queue entityId s t.rest
  /-- What was delivered is not pending any more. -/
  begun : ∀ e ∈ seen, e.entityId = entityId → s.Begun entityId e.id
  /-- It was delivered in the order in which it was appended. -/
  ascending : (seen.filter fun e => e.entityId = entityId).Pairwise fun a b => a.id ≤ b.id

namespace Succession

variable {seen : List Event} {answer : CallEnd SyncOutcome} {chance : Chance}

/-- What is delivered next comes after all that was delivered. -/
theorem deliver (h : Succession entityId seen s t) (hduty : s.OnDuty () w t) (place : Nat)
    (m : Move Unit) : Succession entityId (seen ++ deliveryAt place s m) s t where
  line := h.line
  queue := h.queue
  begun e he hentity := by
    rcases List.mem_append.1 he with he | he
    · exact h.begun e he hentity
    · obtain ⟨f, hf, hid, hprocessing⟩ :=
        h.line.underWay e (hduty.held_of_delivery he) hentity
      exact ⟨f, hf, hid, by simp [hprocessing]⟩
  ascending := by
    rw [List.filter_append, List.pairwise_append]
    refine ⟨h.ascending, List.pairwise_of_forall_mem_list fun a ha b hb => ?_,
      fun a ha b hb => ?_⟩
    · have hsame : a = b := Option.some.inj <|
        (hduty.held_of_delivery (List.mem_filter.1 ha).1).symm.trans
          (hduty.held_of_delivery (List.mem_filter.1 hb).1)
      exact hsame ▸ Int.le_refl a.id
    · obtain ⟨hseen, hentity⟩ := List.mem_filter.1 ha
      obtain ⟨hnext, hentity'⟩ := List.mem_filter.1 hb
      obtain ⟨f, hf, hid, hbegun⟩ := h.begun a hseen (of_decide_eq_true hentity)
      obtain ⟨g, hg, hid', hprocessing⟩ :=
        h.line.underWay b (hduty.held_of_delivery hnext) (of_decide_eq_true hentity')
      -- The one under way would be synced if a later one had begun.
      by_contra hlt
      have hsynced := h.line.before g f hg hf (by omega) hbegun
      rw [hprocessing] at hsynced
      cases hsynced

/-- It is kept where the log has grown, if the rest of the batch and the event under way are as
they should be. -/
theorem grown (h : Succession entityId seen s t) (hgrown : Grown entityId s s')
    (hline : InLine entityId s t'.held) (hqueue : Queue entityId s t'.rest) :
    Succession entityId seen s' t' where
  line := hline.grown hgrown
  queue := hqueue.grown hgrown
  begun e he hentity := (h.begun e he hentity).grown hgrown
  ascending := h.ascending

/-- A step that is not the worker's keeps it. -/
theorem other (h : Succession entityId seen s t) (hs : s.Sound) (hm : Smooth entityId s m)
    (hother : ∀ answer chance, m ≠ .proceed () answer chance) :
    Succession entityId seen (s.step m) t :=
  h.grown (hm.grown hs.ordered hother) h.line h.queue

/-- The claim of an event that was won keeps it. -/
theorem claimed {e : Event} {rest : List Event} {called : List Nat} {leaseEnd : Instant}
    (h : Succession entityId seen s { called, rest := e :: rest }) (hknown : s.Known e)
    (hstore : ∀ k, s'.store.find? k = if k = e.id then (s.store.find? k).map
      (Store.claimed leaseEnd) else s.store.find? k) :
    Succession entityId seen s' { held := some e, rest } := by
  by_cases hentity : e.entityId = entityId
  · obtain ⟨hhas, hpending⟩ := h.queue.pending e List.mem_cons_self hentity
    refine ⟨h.line.claimed hhas hpending (fun f hf hlt => h.queue.first hentity hf hlt) hstore,
      h.queue.claimed hentity hstore, fun d hd hentity' => ?_, h.ascending⟩
    exact (h.begun d hd hentity').changed (Store.id_claimed _) (Store.mutation_claimed _)
      (by simp [Store.claimed]) hstore
  · have hgrown := grown_of_changed (Store.id_claimed _) (Store.mutation_claimed _) hstore
      fun f hf => hknown.ne_of_has hentity hf
    refine h.grown hgrown (h.line.otherHeld (by rintro d ⟨⟩) ?_) (h.queue.tail hentity)
    rintro d ⟨⟩
    exact hentity

/-- A success of the event under way, if it is one of the entity, keeps it. -/
theorem synced {e : Event} {rest : List Event} {called : List Nat} {time : Instant}
    (h : Succession entityId seen s { held := some e, called, rest })
    (hentity : e.entityId = entityId)
    (hstore : ∀ k, s'.store.find? k = if k = e.id then (s.store.find? k).map
      (Store.succeeded time) else s.store.find? k) :
    Succession entityId seen s' { rest } := by
  refine ⟨h.line.settled hentity hstore, ?_, fun d hd hentity' => ?_, h.ascending⟩
  · refine h.queue.changed (g := Store.succeeded time) (List.Sublist.refl rest) (fun _ => rfl)
      (fun _ => rfl) (by simp [Store.succeeded]) hstore (fun d hd hentity' hid => ?_)
      fun _ hd _ => hd
    -- What is yet to be claimed is not the one under way.
    obtain ⟨hhas, hpending⟩ := h.queue.pending d hd hentity'
    obtain ⟨f, hf, hid', hprocessing⟩ := h.line.underWay e rfl hentity
    obtain rfl := hhas.unique hf (hid.trans hid'.symm)
    rw [hpending] at hprocessing
    cases hprocessing
  · exact (h.begun d hd hentity').changed (g := Store.succeeded time) (fun _ => rfl)
      (fun _ => rfl) (by simp [Store.succeeded]) hstore

/-- The event under way is put aside, if it is one of another entity. -/
theorem putAside {e : Event} {rest : List Event} {called : List Nat}
    (h : Succession entityId seen s { held := some e, called, rest }) (hknown : s.Known e)
    (hentity : e.entityId ≠ entityId) (hgrown : Grown entityId s s') :
    Succession entityId seen s' { rest } := by
  refine h.grown hgrown (h.line.otherHeld ?_ (by rintro d ⟨⟩)) h.queue
  rintro d ⟨⟩ f hf
  exact (hknown.ne_of_has hentity hf).symm

/-- The step of the worker keeps it. -/
theorem proceed (h : Succession entityId seen s t) (hs : s.Sound) (hcoherent : s.Coherent)
    (hchronological : s.Chronological) (hunderWay : ∀ e ∈ t.held, s.Known e)
    (hm : Smooth entityId s (.proceed () answer chance))
    (hturn : s.Turn () (.proceed () answer chance) chance t t') :
    Succession entityId seen (s.step (.proceed () answer chance)) t' := by
  cases hturn with
  | stayed hquiet hstore => exact h.grown (grown_of_same hstore) h.line h.queue
  | fetched hquiet hbatch hstore =>
    refine h.grown (grown_of_same hstore) h.line ?_
    obtain rfl | ⟨limit, hoverdue⟩ := hbatch
    · exact .nil
    · exact .fetched hs.ordered hcoherent hchronological h.line hoverdue
  | stopped hquiet hstore => exact h.grown (grown_of_same hstore) h.line .nil
  | @passed e called rest hquiet hlost hstore =>
    refine h.grown (grown_of_same hstore) h.line (h.queue.tail fun hentity => ?_)
    -- A pending event can be claimed.
    obtain ⟨hhas, hpending⟩ := h.queue.pending e List.mem_cons_self hentity
    have hdue := (hcoherent e.id e hhas.1).isDue_of_pending hpending s.now
    rw [Store.claimable_of_find? hhas.1 hdue] at hlost
    cases hlost
  | @claimed c called rest hquiet hwins hstore =>
    exact h.claimed (hs.known () _ (hs.mem_batch_of_wins hwins)) hstore
  | called hcalling hstore => exact h.grown (grown_of_same hstore) h.line h.queue
  | @settled e result d g rest hsettling houtcome hstore =>
    have hknown : s.Known e := hunderWay e rfl
    by_cases hentity : e.entityId = entityId
    · have hsuccess : result = .success := hm.succeeded (e, result) hsettling hentity
      subst hsuccess
      cases houtcome
      exact h.synced hentity hstore
    · exact h.putAside hknown hentity <| grown_of_changed houtcome.id_eq houtcome.mutation_eq
        hstore fun f hf => hknown.ne_of_has hentity hf
  | @unwritten e result rest hsettling hwhy hstore =>
    refine h.putAside (hunderWay e rfl) (fun hentity => ?_) (grown_of_same hstore)
    have hsuccess : result = .success := hm.succeeded (e, result) hsettling hentity
    have hwritten : s.store.outcomeFailures = 0 := hm.written (e, result) hsettling hentity
    obtain ⟨⟨message, hfailure⟩, -⟩ | hfails := hwhy
    · rw [hsuccess] at hfailure
      cases hfailure
    · omega

end Succession

end Fleet

end Outbox
