import Outbox.Proofs.Store.Lookup
import Mathlib.Data.List.Nodup

/-!
# The oldest due work

A worker fetches the oldest events that are due and then claims them one by one, each under the
status with which it was fetched. Fetch and claim each decide for themselves whether an event is
due; here it is asked whether they agree, and whether the worker is given the right events.

All due events in the order in which they were appended are the batch of a limit that no log
exceeds, and every other batch is a beginning of it (`oldestDue_eq_take`). So the events that
were left out are those that come later. A claim is won exactly under the status that the event
has and at a time when it is due (`claimable_iff`), and a claimed event is due again exactly from
the end of its lease on (`isDue_claimed`).
-/

namespace Outbox.Store

variable {s : Store} {now : Instant} {limit : Nat}

/-! ### Batches -/

/-- A batch is a beginning of all due events. -/
theorem oldestDue_eq_take (s : Store) (now : Instant) (limit : Nat) :
    s.oldestDue now limit = (s.oldestDue now s.events.length).take limit := by
  have hall : (s.events.filter fun e => e.isDue now).length ≤ s.events.length :=
    List.length_filter_le ..
  rw [oldestDue, oldestDue, List.take_of_length_le (i := s.events.length)]
  rwa [List.length_mergeSort]

theorem length_oldestDue (s : Store) (now : Instant) (limit : Nat) :
    (s.oldestDue now limit).length = min limit (s.events.countP fun e => e.isDue now) := by
  rw [oldestDue, List.length_take, List.length_mergeSort, List.countP_eq_length_filter]

/-- A due event that was left out of a batch was appended after every event of it. -/
theorem Ordered.precedes_of_left_out (h : s.Ordered) {e d : Event}
    (he : e ∈ s.oldestDue now limit) (hd : d ∈ s.events) (hdue : d.isDue now = true)
    (hout : d ∉ s.oldestDue now limit) : e.precedes d = true := by
  have hall : d ∈ s.oldestDue now s.events.length :=
    mem_oldestDue hd hdue (List.length_filter_le ..)
  have hascending := h.oldestDue_ascending now s.events.length
  rw [oldestDue_eq_take] at he hout
  -- All due events are those of the batch and, after them, those that were left out.
  rw [← List.take_append_drop limit (s.oldestDue now s.events.length)] at hall hascending
  have hdropped := (List.mem_append.1 hall).resolve_left hout
  exact (List.pairwise_append.1 hascending).2.2 e he d hdropped

/-- The batch is the oldest work that is due. -/
structure IsOldestDue (s : Store) (now : Instant) (limit : Nat) (batch : List Event) : Prop where
  /-- Its events are in the log, just as they are given, and due. -/
  due : ∀ e ∈ batch, e ∈ s.events ∧ e.isDue now = true
  /-- None is given twice. -/
  distinct : (batch.map Event.id).Nodup
  /-- They are given in the order in which they were appended. -/
  ascending : batch.Pairwise fun a b =>
    a.createdAt < b.createdAt ∨ a.createdAt = b.createdAt ∧ a.id < b.id
  /-- There are as many of them as are due, up to the limit. -/
  length : batch.length = min limit (s.events.countP fun e => e.isDue now)
  /-- A due event that is left out was appended after all of them. -/
  oldest : ∀ d ∈ s.events, d.isDue now = true → d ∉ batch → ∀ e ∈ batch,
    e.createdAt < d.createdAt ∨ e.createdAt = d.createdAt ∧ e.id < d.id

theorem Ordered.isOldestDue (h : s.Ordered) (now : Instant) (limit : Nat) :
    IsOldestDue s now limit (s.oldestDue now limit) where
  due _ he := of_mem_oldestDue he
  distinct := List.pairwise_map.2 (h.oldestDue_distinct now limit)
  ascending := (h.oldestDue_ascending now limit).imp Event.precedes_iff.1
  length := s.length_oldestDue now limit
  oldest _ hd hdue hout _ he := Event.precedes_iff.1 (h.precedes_of_left_out he hd hdue hout)

/-! ### Claims -/

/-- A claim would be won under the status that the event has, at a time when it is due. -/
theorem claimable_iff {id : Int} {f : Event} (hf : s.find? id = some f) {expected : Status} :
    s.claimable now id expected = true ↔ expected = f.status ∧ f.isDue now = true := by
  rw [claimable, hf, Option.any_some, Bool.and_eq_true, beq_iff_eq]
  exact and_congr_left' eq_comm

/-- A claimed event is due again from the end of its lease on. -/
theorem isDue_claimed {leaseEnd : Instant} {e : Event} :
    (claimed leaseEnd e).isDue now = true ↔ leaseEnd ≤ now := by
  simp [Event.isDue, Event.claimExpired, Status.isClaimable, claimed]

/-- A claim is won, and changes the event under its number only, or it changes nothing. -/
theorem claim_eq (s : Store) (now : Instant) (id : Int) (expected : Status) (leaseEnd : Instant) :
    s.claimable now id expected = true ∧
        s.claim now id expected leaseEnd = (true, s.modify id (claimed leaseEnd)) ∨
      s.claimable now id expected = false ∧ s.claim now id expected leaseEnd = (false, s) := by
  unfold claim
  cases s.claimable now id expected with
  | true => exact .inl ⟨rfl, rfl⟩
  | false => exact .inr ⟨rfl, rfl⟩

/-- In this log, in which the event is still as it was fetched, its claim is won, and it is won
once for the time of the lease. -/
structure WonOnce (s : Store) (now : Instant) (e : Event) (leaseEnd : Instant) : Prop where
  /-- The claim is won under the status that the event has, and no other event is changed. -/
  won : ∃ s', s.claim now e.id e.status leaseEnd = (true, s') ∧
    s'.find? e.id = some (claimed leaseEnd e) ∧ ∀ id, id ≠ e.id → s'.find? id = s.find? id
  /-- In a log in which the event is still as this claim has left it, another claim is won if
  the event is taken for one that is processing and the lease has ended, and else changes
  nothing. -/
  once : ∀ (t : Store) (later : Instant) (expected : Status) (next : Instant),
    t.find? e.id = (s.claim now e.id e.status leaseEnd).2.find? e.id →
      ((t.claim later e.id expected next).1 = true ↔ expected = .processing ∧ leaseEnd ≤ later) ∧
        ((t.claim later e.id expected next).1 = false → (t.claim later e.id expected next).2 = t)

theorem wonOnce {e : Event} (hfound : s.find? e.id = some e) (hdue : e.isDue now = true)
    (leaseEnd : Instant) : WonOnce s now e leaseEnd := by
  have hclaim : s.claim now e.id e.status leaseEnd =
      (true, s.modify e.id (claimed leaseEnd)) := by
    rw [claim, if_pos (claimable_of_find? hfound hdue)]
  have hclaimed : (s.modify e.id (claimed leaseEnd)).find? e.id = some (claimed leaseEnd e) := by
    rw [find?_modify (id_claimed leaseEnd), if_pos rfl, hfound, Option.map_some]
  constructor
  · refine ⟨_, hclaim, hclaimed, fun id hid => ?_⟩
    rw [find?_modify (id_claimed leaseEnd), if_neg hid]
  · intro t later expected next ht
    rw [hclaim, hclaimed] at ht
    have hagain : t.claimable later e.id expected = true ↔
        expected = .processing ∧ leaseEnd ≤ later := by
      rw [claimable_iff ht, isDue_claimed, claimed]
    obtain ⟨hyes, heq⟩ | ⟨hno, heq⟩ := t.claim_eq later e.id expected next
    · rw [heq]
      exact ⟨iff_of_true rfl (hagain.1 hyes), fun hfalse => absurd hfalse (by simp)⟩
    · rw [heq]
      refine ⟨iff_of_false (by simp) fun hyes => ?_, fun _ => rfl⟩
      exact absurd (hagain.2 hyes) (by simp [hno])

/-- A fetch gives the oldest work that is due and changes nothing, unless it was made to fail. Each
event of that work can be claimed at that time, as long as the event is as it was given, and from
then on nobody claims it before the lease has ended. -/
theorem Ordered.fetch_oldest (h : s.Ordered) (now : Instant) (limit : Nat) :
    ∃ batch, IsOldestDue s now limit batch ∧
      (s.fetchFailure = none ∧ s.fetch now limit = (.ok batch, s) ∨
        ∃ why, s.fetchFailure = some why ∧
          s.fetch now limit = (.error (.database (.other why)), { s with fetchFailure := none })) ∧
      ∀ e ∈ batch, ∀ t : Store, t.find? e.id = s.find? e.id →
        ∀ leaseEnd, WonOnce t now e leaseEnd := by
  refine ⟨s.oldestDue now limit, h.isOldestDue now limit, ?_, ?_⟩
  · cases hfetch : s.fetchFailure with
    | none => exact .inl ⟨rfl, by rw [fetch, hfetch]⟩
    | some why => exact .inr ⟨why, rfl, by rw [fetch, hfetch]⟩
  · intro e he t ht leaseEnd
    obtain ⟨hmem, hdue⟩ := of_mem_oldestDue he
    rw [h.find?_of_mem hmem] at ht
    exact wonOnce ht hdue leaseEnd

/-- A change of which the claim has ended. -/
def abandoned : Event :=
  claimed .epoch (.ofMutation ⟨"employee", "EMP0002", .update, .null⟩ 2 .epoch)

/-- That change between two others, of which the first is to be tried again much later and the
second waits for its first attempt. All three were appended at the same time. -/
def backlog : Store := .ofEvents
  [ failed 1 "refused" (some .latest)
      (.ofMutation ⟨"employee", "EMP0001", .create, .null⟩ 1 .epoch),
    abandoned,
    .ofMutation ⟨"employee", "EMP0003", .delete, .null⟩ 3 .epoch ]

/-- There it is the oldest work that is due. It can be claimed, and then again when the new lease
has ended. -/
theorem fetch_oldest_backlog :
    backlog.Ordered ∧
      backlog.fetch .epoch 1 = (.ok [abandoned], backlog) ∧
      ∃ t, backlog.claim .epoch 2 .processing .latest = (true, t) ∧
        (t.claim .epoch 2 .processing .latest).1 = false ∧
          (t.claim .latest 2 .processing .latest).1 = true := by
  have hordered : backlog.Ordered := ordered_ofEvents _
  obtain ⟨batch, holdest, hends, hclaims⟩ := hordered.fetch_oldest .epoch 1
  have hfetch : backlog.fetch .epoch 1 = (.ok batch, backlog) := by
    rcases hends with ⟨-, hfetch⟩ | ⟨why, hwhy, -⟩
    · exact hfetch
    · cases hwhy
  have hone : batch.length = 1 := holdest.length.trans (by decide)
  obtain ⟨e, rfl⟩ := List.length_eq_one_iff.1 hone
  obtain ⟨hmem, hdue⟩ := holdest.due e List.mem_cons_self
  have hcases : ∀ d ∈ backlog.events, d.isDue .epoch = true → d = abandoned ∨
      d.createdAt = .epoch ∧ d.id = 3 := by decide
  obtain rfl : e = abandoned := by
    refine (hcases e hmem hdue).resolve_right fun ⟨htime, hid⟩ => ?_
    have hout : abandoned ∉ [e] := by
      rw [List.mem_singleton]
      exact fun heq => absurd (heq ▸ hid) (by decide)
    have hlate := holdest.oldest abandoned (by decide) (by decide) hout e List.mem_cons_self
    rw [htime, hid] at hlate
    exact absurd hlate (by decide)
  have hwon := hclaims abandoned List.mem_cons_self backlog rfl .latest
  obtain ⟨t, hclaim, -⟩ := hwon.won
  have honce := hwon.once t
  rw [hclaim] at honce
  refine ⟨hordered, hfetch, t, hclaim, ?_, ?_⟩
  · refine Bool.eq_false_iff.2 fun hagain => ?_
    exact absurd ((honce .epoch .processing .latest rfl).1.1 hagain) (by decide)
  · exact (honce .latest .processing .latest rfl).1.2 (by decide)

end Outbox.Store
