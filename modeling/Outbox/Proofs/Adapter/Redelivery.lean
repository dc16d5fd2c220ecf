import Outbox.Proofs.Adapter.Badge

/-!
# Changes that reach the badge system more than once

The worker delivers every change at least once: it delivers one again whose success could not be
recorded. Here it is shown that the badge system does not mind. A history may have any of its
changes once more, at any place before the next change of the same entity, and this as often as
one likes (`Redelivered`): the badges on file are the same afterwards (`redelivery_converges`).

Whether two badge systems have the same badges is a matter of what is found under each entity and
of how many badges there are (`Alike`), not of the order in which they were issued. Changes keep
the badge systems alike that are alike before. So a history is compared with another one only up
to where they differ.
-/

namespace Outbox

namespace Badge

/-- A change that is taken over twice in a row is taken over once. -/
theorem change_change (b : Option Badge) (r : SyncRequest) :
    change (change b r) r = change b r :=
  foldl_change_of_mem (List.mem_singleton_self r) b

/-- A badge that was on file stays on file. -/
theorem isSome_change {b : Option Badge} (h : b.isSome) (r : SyncRequest) :
    (change b r).isSome := by
  cases haction : r.action <;> simp [change, haction, h]

theorem isSome_foldl_change {b : Option Badge} (h : b.isSome) (rs : List SyncRequest) :
    (rs.foldl change b).isSome := by
  induction rs generalizing b with
  | nil => exact h
  | cons r rs ih => exact ih (isSome_change h r)

/-- A badge is issued for the first time by this change. -/
def firstIssued (b : Option Badge) (r : SyncRequest) : Bool := b.isNone && r.action != .delete

/-- Not if the same change was taken over before. -/
theorem firstIssued_change (b : Option Badge) (r : SyncRequest) :
    firstIssued (change b r) r = false := by
  cases haction : r.action <;> simp [firstIssued, change, haction]

end Badge

namespace BadgeSystem

variable {s t u : BadgeSystem}

/-! ### One change -/

/-- The badge system takes over every change. -/
theorem success_sync (s : BadgeSystem) (r : SyncRequest) : (s.sync r).1.success = true := by
  unfold sync
  split
  · rfl
  · rfl
  · split <;> rfl

theorem count_issue (s : BadgeSystem) (b : Badge) :
    (s.issue b).count = s.count + if (s.find? b.entityId).isNone then 1 else 0 := by
  unfold issue count
  cases s.find? b.entityId with
  | none => simp
  | some c => simp

theorem count_revoke (s : BadgeSystem) (entityId : String) :
    (s.revoke entityId).count = s.count := List.length_map ..

/-- A record comes into being with the first badge of an entity, and none goes. -/
theorem count_sync (s : BadgeSystem) (r : SyncRequest) :
    (s.sync r).2.count =
      s.count + if Badge.firstIssued (s.find? r.entityId) r then 1 else 0 := by
  cases haction : r.action with
  | create | update => simp [sync, haction, Badge.firstIssued, count_issue, Badge.issued]
  | delete =>
    simp only [sync, haction, Badge.firstIssued]
    split <;> simp [count_revoke]

/-! ### The same badges -/

/-- The same badges are on file. -/
structure Alike (s t : BadgeSystem) : Prop where
  /-- Each entity has the same badge, or none. -/
  badge : ∀ k, s.find? k = t.find? k
  /-- There are as many of them. -/
  count : s.count = t.count

namespace Alike

@[refl] theorem refl (s : BadgeSystem) : Alike s s := ⟨fun _ => rfl, rfl⟩

theorem trans (h : Alike s t) (h' : Alike t u) : Alike s u :=
  ⟨fun k => (h.badge k).trans (h'.badge k), h.count.trans h'.count⟩

/-- A change keeps badge systems alike. -/
theorem sync (h : Alike s t) (r : SyncRequest) : Alike (s.sync r).2 (t.sync r).2 := by
  constructor
  · intro k
    rw [find?_sync, find?_sync, h.badge]
  · rw [count_sync, count_sync, h.badge, h.count]

/-- A history keeps them alike. -/
theorem syncAll (h : Alike s t) (rs : List SyncRequest) :
    Alike (s.syncAll rs) (t.syncAll rs) := by
  induction rs generalizing s t with
  | nil => exact h
  | cons r rs ih => exact ih (h.sync r)

end Alike

/-! ### Histories -/

/-- The changes of others leave the badge of an entity as it was. -/
theorem find?_syncAll_of_others (s : BadgeSystem) {rs : List SyncRequest} {k : String}
    (h : ∀ q ∈ rs, q.entityId ≠ k) : (s.syncAll rs).find? k = s.find? k := by
  have hnone : rs.filter (fun q => q.entityId = k) = [] := by simpa using h
  rw [find?_syncAll, hnone, List.foldl_nil]

/-- A change that the badge of its entity shows already makes no difference. -/
theorem alike_sync_of_find? {r : SyncRequest} {b : Option Badge}
    (h : s.find? r.entityId = Badge.change b r) : Alike (s.sync r).2 s := by
  constructor
  · intro k
    rw [find?_sync]
    split
    · next hk => rw [hk, h, Badge.change_change]
    · rfl
  · rw [count_sync, h, Badge.firstIssued_change, if_neg Bool.false_ne_true, Nat.add_zero]

/-- Changes of different entities may change places. -/
theorem alike_swap (s : BadgeSystem) {q r : SyncRequest} (h : q.entityId ≠ r.entityId) :
    Alike (s.syncAll [q, r]) (s.syncAll [r, q]) := by
  have hq : (s.sync r).2.find? q.entityId = s.find? q.entityId := by
    rw [find?_sync, if_neg h]
  have hr : (s.sync q).2.find? r.entityId = s.find? r.entityId := by
    rw [find?_sync, if_neg h.symm]
  constructor
  · intro k
    simp only [find?_syncAll]
    congr 1
    -- The changes of one entity are at most one of the two.
    by_cases hk : q.entityId = k
    · simp [hk, hk ▸ h.symm]
    · simp [hk, List.filter_cons]
  · change ((s.sync q).2.sync r).2.count = ((s.sync r).2.sync q).2.count
    rw [count_sync, count_sync, count_sync, count_sync, hq, hr]
    omega

/-- The second history is the first one with some of its changes once more. -/
inductive Redelivered (rs : List SyncRequest) : List SyncRequest → Prop where
  /-- Every change reaches the badge system once. -/
  | once : Redelivered rs rs
  /-- A change reaches it again before the next one of the same entity. -/
  | again {before between after : List SyncRequest} {r : SyncRequest}
      (h : Redelivered rs (before ++ r :: between ++ after))
      (others : ∀ q ∈ between, q.entityId ≠ r.entityId) :
      Redelivered rs (before ++ r :: between ++ r :: after)

/-- One more time makes no difference. -/
theorem alike_again (s : BadgeSystem) (before : List SyncRequest) {between : List SyncRequest}
    (after : List SyncRequest) {r : SyncRequest} (others : ∀ q ∈ between, q.entityId ≠ r.entityId) :
    Alike (s.syncAll (before ++ r :: between ++ r :: after))
      (s.syncAll (before ++ r :: between ++ after)) := by
  rw [syncAll_append, syncAll_append _ _ after, syncAll_cons]
  refine Alike.syncAll (alike_sync_of_find? (b := (s.syncAll before).find? r.entityId) ?_) after
  rw [syncAll_append, syncAll_cons, find?_syncAll_of_others _ others, find?_sync, if_pos rfl]

theorem Redelivered.alike {rs rs' : List SyncRequest} (h : Redelivered rs rs')
    (s : BadgeSystem) : Alike (s.syncAll rs') (s.syncAll rs) := by
  induction h with
  | once => rfl
  | again _ others ih => exact (alike_again s _ _ others).trans ih

/-- Whatever badges are on file and whatever changes come: that some of them come again makes no
difference, nor does the order in which those of different entities come. The badge of an entity
comes from the one that it had and from its own changes. Every change is taken over, and a record
that is on file stays there. -/
theorem redelivery_converges (s : BadgeSystem) (rs : List SyncRequest) :
    (∀ rs', Redelivered rs rs' → Alike (s.syncAll rs') (s.syncAll rs)) ∧
      (∀ before q r after, rs = before ++ q :: r :: after → q.entityId ≠ r.entityId →
        Alike (s.syncAll (before ++ r :: q :: after)) (s.syncAll rs)) ∧
      (∀ k, (s.syncAll rs).find? k =
        (rs.filter fun r => r.entityId = k).foldl Badge.change (s.find? k)) ∧
      (∀ before r after, rs = before ++ r :: after →
        ((s.syncAll before).sync r).1.success = true) ∧
      ∀ k, (s.find? k).isSome → ((s.syncAll rs).find? k).isSome := by
  refine ⟨fun rs' h => h.alike s, ?_, s.find?_syncAll rs, ?_, ?_⟩
  · rintro before q r after rfl hne
    rw [syncAll_append, syncAll_append]
    exact ((s.syncAll before).alike_swap hne.symm).syncAll after
  · rintro before r after -
    exact success_sync _ r
  · intro k hk
    rw [find?_syncAll]
    exact Badge.isSome_foldl_change hk _

/-- An employee who comes. -/
def hired : SyncRequest := ⟨"EMP0001", .create, .object [("name", .text "Ada Lovelace")]⟩

/-- The same employee leaves. -/
def dismissed : SyncRequest := { hired with action := .delete, payload := .null }

/-- Another one is given a new department. -/
def transferred : SyncRequest := ⟨"EMP0002", .update, .object [("department", .text "Sales")]⟩

/-- That the employee comes is said again after the other one was transferred, and that the
employee leaves is said again at the end. There the badge is on file, and opens no doors. -/
theorem redelivery_converges_dismissed :
    Redelivered [hired, transferred, dismissed]
        [hired, transferred, hired, dismissed, dismissed] ∧
      Alike (syncAll {} [hired, transferred, hired, dismissed, dismissed])
        (syncAll {} [hired, transferred, dismissed]) ∧
      Alike (syncAll {} [transferred, hired, dismissed])
        (syncAll {} [hired, transferred, dismissed]) ∧
      ((syncAll {} [hired, transferred, dismissed]).find? hired.entityId).map Badge.active =
        some false := by
  have hfirst : Redelivered [hired, transferred, dismissed]
      ([] ++ hired :: [transferred] ++ hired :: [dismissed]) := .again .once (by decide)
  have hredelivered : Redelivered [hired, transferred, dismissed]
      ([hired, transferred, hired] ++ dismissed :: [] ++ dismissed :: []) :=
    .again hfirst (by simp)
  obtain ⟨hagain, hswap, hbadge, -⟩ :=
    redelivery_converges {} [hired, transferred, dismissed]
  refine ⟨hredelivered, hagain _ hredelivered, ?_, ?_⟩
  · exact hswap [] hired transferred [dismissed] rfl (by decide)
  · rw [hbadge]
    decide

end BadgeSystem

end Outbox
