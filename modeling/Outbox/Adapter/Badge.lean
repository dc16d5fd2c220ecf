import Outbox.Adapter.Call

/-!
# The badge system

A stand-in for the system that issues door badges. It keeps one record for each entity
that ever had a badge; a badge is revoked by making it inactive, and no record is ever
removed. Syncing a change again leads to the same record.
-/

namespace Outbox

/-- A badge. -/
structure Badge where
  /-- Who carries it. -/
  entityId : String
  /-- The name printed on it. -/
  holder : Option String
  /-- Where it opens doors. -/
  accessZone : String
  /-- It opens doors at all. -/
  active : Bool
  deriving DecidableEq, Repr

namespace Badge

/-- The access zone of an entity without a department. -/
def defaultZone : String := "general"

/-- The badge that is issued for an entity. -/
def issued (r : SyncRequest) : Badge where
  entityId := r.entityId
  holder := (r.payload.get? "name").bind Json.text?
  accessZone := ((r.payload.get? "department").bind Json.text?).getD defaultZone
  active := true

/-- The badge as it is when it is revoked. -/
def revoked (b : Badge) : Badge := { b with active := false }

/-- A badge as JSON. -/
def toJson (b : Badge) : Json :=
  .object
    [ ("access_zone", .text b.accessZone),
      ("active", .bool b.active),
      ("entity_id", .text b.entityId),
      ("holder", .ofOption .text b.holder) ]

end Badge

/-- The badges on file, each entity once. -/
structure BadgeSystem where
  /-- The badges, the first one issued first. -/
  badges : List Badge := []
  deriving DecidableEq, Repr

namespace BadgeSystem

/-- The name of the adapter. -/
def name : String := "badge"

/-- The badge of an entity. -/
def find? (s : BadgeSystem) (entityId : String) : Option Badge :=
  s.badges.find? fun b => b.entityId == entityId

/-- Puts a badge on file, in place of the one its entity has. -/
def issue (s : BadgeSystem) (b : Badge) : BadgeSystem :=
  if (s.find? b.entityId).isSome then
    ⟨s.badges.map fun c => if c.entityId = b.entityId then b else c⟩
  else ⟨s.badges ++ [b]⟩

/-- Makes the badge of an entity inactive. -/
def revoke (s : BadgeSystem) (entityId : String) : BadgeSystem :=
  ⟨s.badges.map fun c => if c.entityId = entityId then c.revoked else c⟩

/-- Takes over a change. -/
def sync (s : BadgeSystem) (r : SyncRequest) : SyncOutcome × BadgeSystem :=
  match r.action with
  | .create | .update =>
    (.ok ("badge issued for " ++ r.entityId), s.issue (.issued r))
  | .delete =>
    if (s.find? r.entityId).isSome then
      (.ok ("badge revoked for " ++ r.entityId), s.revoke r.entityId)
    else (.ok ("no badge on file for " ++ r.entityId), s)

/-- How many badges were ever issued. -/
def count (s : BadgeSystem) : Nat := s.badges.length

/-- The health of the badge system. -/
def health (s : BadgeSystem) : Health :=
  ⟨true, "mock badge system tracking " ++ toString s.count ++ " badges"⟩

end BadgeSystem

end Outbox
