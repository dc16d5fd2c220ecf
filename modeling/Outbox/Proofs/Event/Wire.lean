import Outbox.Event.Wire
import Outbox.Proofs.Json.Record
import Outbox.Proofs.Time.Timestamp

/-!
# The wire format of events

An event that was read from a text is written and read again without a change, in whatever order
its members are written and whatever form the text had. What has to be known of the event is that
its numbers are in their ranges and its payload is a value as it is read (`Readable`); that follows
from its having been read.
-/

namespace Outbox

namespace Event

open Json (Decoder Draft Field)

/-! ### What is read -/

/-- How deep the containers in a payload may be nested: the event around it is one more. -/
def maxPayloadDepth : Nat := 126

/-- An event as it is read. -/
structure Readable (e : Event) : Prop where
  /-- The number is in its range. -/
  id : minId ≤ e.id ∧ e.id ≤ maxId
  /-- The count of attempts is in its range. -/
  attempts : minAttempts ≤ e.attempts ∧ e.attempts ≤ maxAttempts
  /-- The payload is a value as it is read. -/
  payload : Json.Sound maxPayloadDepth e.payload

theorem readable_blank : Readable blank :=
  ⟨by decide, by decide, ⟨rfl, Nat.zero_le _⟩⟩

theorem bounds_of_integer {low high : Int} {depth : Nat} {d : Draft} {n : Int}
    (h : Decoder.integer low high depth d = .ok n) : low ≤ n ∧ n ≤ high := by
  unfold Decoder.integer at h
  split at h
  · split at h
    · next hbounds =>
      cases h
      exact hbounds
    · cases h
  · cases h

/-- Only three fields have a say in whether an event is readable. -/
theorem keeps_readable : ∀ f ∈ fields, f.Keeps Readable maxPayloadDepth := by
  simp only [fields, List.forall_mem_cons]
  refine ⟨?id, ?entityType, ?entityId, ?action, ?payload, ?status, ?attempts, ?lastError,
    ?nextRunAt, ?createdAt, ?processedAt, List.forall_mem_nil _⟩
  case id =>
    exact Field.keeps_required fun _ ha hr => ⟨bounds_of_integer ha, hr.attempts, hr.payload⟩
  case attempts =>
    exact Field.keeps_required fun _ ha hr => ⟨hr.id, bounds_of_integer ha, hr.payload⟩
  case payload =>
    exact Field.keeps_required fun hd ha hr => ⟨hr.id, hr.attempts, Json.sound_of_json _ hd ha⟩
  case entityType | entityId | action | status | createdAt =>
    exact Field.keeps_required fun _ _ hr => ⟨hr.id, hr.attempts, hr.payload⟩
  case lastError | nextRunAt | processedAt =>
    exact Field.keeps_nullable fun hr => ⟨hr.id, hr.attempts, hr.payload⟩

/-- An event that a text holds is readable. -/
theorem readable_of_ofText {s : String} {e : Event} (h : ofText s = .ok e) : Readable e := by
  obtain ⟨a, ha, h⟩ := Json.exists_of_bind_eq_ok h
  cases hdraft : Draft.ofText s.toList with
  | mk d alone =>
    rw [hdraft] at ha h
    cases alone with
    | false => cases h
    | true =>
      cases h
      exact Field.record_keeps keeps_readable readable_blank (Draft.fits_of_ofText hdraft) ha

/-! ### What is written -/

/-- A blank event with the fields at some places taken from another one. -/
def mixture (e : Event) (seen : List Nat) : Event where
  id := if 0 ∈ seen then e.id else blank.id
  entityType := if 1 ∈ seen then e.entityType else blank.entityType
  entityId := if 2 ∈ seen then e.entityId else blank.entityId
  action := if 3 ∈ seen then e.action else blank.action
  payload := if 4 ∈ seen then e.payload else blank.payload
  status := if 5 ∈ seen then e.status else blank.status
  attempts := if 6 ∈ seen then e.attempts else blank.attempts
  lastError := if 7 ∈ seen then e.lastError else blank.lastError
  nextRunAt := if 8 ∈ seen then e.nextRunAt else blank.nextRunAt
  createdAt := if 9 ∈ seen then e.createdAt else blank.createdAt
  processedAt := if 10 ∈ seen then e.processedAt else blank.processedAt

theorem mixture_of_forall_mem {e : Event} {seen : List Nat}
    (h : ∀ i < fields.length, i ∈ seen) : e.mixture seen = e := by
  have hlength : fields.length = 11 := rfl
  simp [mixture, h, hlength]

/-- The members with which an event is written. -/
def members (e : Event) : List (String × Json) :=
  match e.toJson with
  | .object members => members
  | _ => []

theorem toJson_eq (e : Event) : e.toJson = .object e.members := rfl

theorem covers_members (e : Event) : Field.Covers fields e.members := by
  show List.Perm [some 3, some 6, some 9, some 2, some 1, some 0, some 7, some 8, some 4, some 10,
    some 5] _
  decide

theorem decode_integer {low high n : Int} (h : low ≤ n ∧ n ≤ high) (depth : Nat) :
    Decoder.integer low high depth (Draft.ofJson (.integer n)) = .ok n :=
  if_pos h

theorem decode_instant (depth : Nat) (t : Instant) :
    Decoder.instant depth (Draft.ofJson t.toJson) = .ok t := by
  have htext : Decoder.text depth (Draft.ofJson t.toJson) = .ok t.timestamp := rfl
  rw [Decoder.instant, htext]
  simp only [bind, Except.bind, t.ofTimestamp?_timestamp]

/-- A name is read from the text that it is. -/
theorem decode_name {α : Type} {ofName? : String → Option α} {name : String} {a : α}
    (h : ofName? name = some a) (depth : Nat) :
    Decoder.name ofName? depth (Draft.ofJson (.text name)) = .ok a := by
  show (ofName? name).elim (.error Json.Fault.mismatch) Except.ok = _
  rw [h]
  rfl

/-- A text or nothing is written as a text or null. -/
theorem decode_optional {α : Type} {decode : Decoder α} {write : α → String} {depth : Nat}
    (h : ∀ a, decode depth (.text (some (write a))) = .ok a) (a : Option α) :
    Decoder.optional decode depth (Draft.ofJson (.ofOption (fun a => .text (write a)) a)) =
      .ok a := by
  cases a with
  | none => rfl
  | some a =>
    show (decode depth (.text (some (write a)))).map some = _
    rw [h a]
    rfl

/-- Each member of a readable event restores its field. -/
theorem restores_members {e : Event} (h : Readable e) :
    ∀ m ∈ e.members, Field.Restores fields e.mixture maxPayloadDepth m := by
  have hinstant := decode_optional (decode_instant maxPayloadDepth)
  simp only [members, toJson, List.forall_mem_cons]
  refine ⟨?action, ?attempts, ?createdAt, ?entityId, ?entityType, ?id, ?lastError, ?nextRunAt,
    ?payload, ?processedAt, ?status, List.forall_mem_nil _⟩
  case action =>
    exact Field.restores_required (i := 3) rfl rfl (decode_name e.action.ofName?_name _)
      fun seen => by simp [mixture]
  case attempts =>
    exact Field.restores_required (i := 6) rfl rfl (decode_integer h.attempts _)
      fun seen => by simp [mixture]
  case createdAt =>
    exact Field.restores_required (i := 9) rfl rfl (decode_instant _ _) fun seen => by
      simp [mixture]
  case entityId =>
    exact Field.restores_required (i := 2) (a := e.entityId) rfl rfl rfl fun seen => by
      simp [mixture]
  case entityType =>
    exact Field.restores_required (i := 1) (a := e.entityType) rfl rfl rfl fun seen => by
      simp [mixture]
  case id =>
    exact Field.restores_required (i := 0) rfl rfl (decode_integer h.id _) fun seen => by
      simp [mixture]
  case lastError =>
    exact Field.restores_nullable (i := 7) rfl rfl (decode_optional (fun _ => rfl) _)
      fun seen => by simp [mixture]
  case nextRunAt =>
    exact Field.restores_nullable (i := 8) rfl rfl (hinstant _) fun seen => by simp [mixture]
  case payload =>
    exact Field.restores_required (i := 4) rfl rfl
      (Json.json_ofJson h.payload.regular h.payload.shallow) fun seen => by simp [mixture]
  case processedAt =>
    exact Field.restores_nullable (i := 10) rfl rfl (hinstant _) fun seen => by simp [mixture]
  case status =>
    exact Field.restores_required (i := 5) rfl rfl (decode_name e.status.ofName?_name _)
      fun seen => by simp [mixture]

theorem all_isExact_integer {n : Int} (h : minId ≤ n ∧ n ≤ maxId) :
    (Json.integer n).all Json.isExact = true := by
  obtain ⟨hmin, hmax⟩ := h
  have hwhole : maxId ≤ (Json.Numeral.maxWhole : Int) := by decide
  exact decide_eq_true ⟨hmin, hmax.trans hwhole⟩

theorem all_isExact_ofOption {α : Type} (write : α → String) (a : Option α) :
    (Json.ofOption (fun a => .text (write a)) a).all Json.isExact = true := by
  cases a <;> rfl

/-- The values of a readable event's members survive being printed if no number in its payload is
in floating point. -/
theorem all_isExact_members {e : Event} (h : Readable e) (hfloat : e.payload.isFloatFree = true) :
    ∀ m ∈ e.members, m.2.all Json.isExact = true := by
  have hattempts : minId ≤ e.attempts ∧ e.attempts ≤ maxId := by
    obtain ⟨hmin, hmax⟩ := h.attempts
    have hlow : minId ≤ minAttempts := by decide
    have hhigh : maxAttempts ≤ maxId := by decide
    omega
  simp only [members, toJson, List.forall_mem_cons]
  refine ⟨rfl, all_isExact_integer hattempts, rfl, rfl, rfl, all_isExact_integer h.id,
    all_isExact_ofOption (fun s => s) _, all_isExact_ofOption Instant.timestamp _,
    Json.all_isExact h.payload.regular hfloat, all_isExact_ofOption Instant.timestamp _, rfl,
    List.forall_mem_nil _⟩

/-- A readable event is read from its members in any order. -/
theorem ofText_print {e : Event} (h : Readable e) (hfloat : e.payload.isFloatFree = true)
    {members : List (String × Json)} (hperm : members.Perm e.members) :
    ofText (Json.object members).print = .ok e := by
  have hexact : (Json.object members).all Json.isExact = true := by
    rw [Json.all, Bool.and_eq_true]
    refine ⟨rfl, Json.allMembers_iff.2 fun m hm => ?_⟩
    exact all_isExact_members h hfloat m (hperm.mem_iff.1 hm)
  have hrecord : decoder Json.maxDepth (Draft.ofJson (.object members)) = .ok e :=
    Field.record_of_restores (restores_members h) (covers_members e) hperm
      fun _ => mixture_of_forall_mem
  rw [ofText, Json.decodeText, Draft.ofText_print hexact, Json.decodeDraft, hrecord]
  rfl

/-- The wire format of events is stable. An event that a text holds, in whatever form and with
whatever besides, is written and read again as the same event, which is written as the same value;
the order in which the members are written makes no difference. Its status and its action are
written under their names, which are recognised as what they name. Only payloads with numbers in
floating point are left out. -/
theorem wire_stable {s : String} {e : Event} (h : ofText s = .ok e)
    (hfloat : e.payload.isFloatFree = true) :
    (ofText e.toJson.print = .ok e ∧ (ofText e.toJson.print).map toJson = .ok e.toJson) ∧
    (∀ members, members.Perm e.members → ofText (Json.object members).print = .ok e) ∧
    (e.toJson.get? "status" = some (.text e.status.name) ∧
      Status.parse? e.status.name = some e.status) ∧
    (e.toJson.get? "action" = some (.text e.action.name) ∧
      Action.parse? e.action.name = some e.action) := by
  have hread : ∀ members, members.Perm e.members →
      ofText (Json.object members).print = .ok e := fun members hperm =>
    ofText_print (readable_of_ofText h) hfloat hperm
  refine ⟨?_, hread, ⟨rfl, ?_⟩, ⟨rfl, ?_⟩⟩
  · rw [toJson_eq, hread e.members (.refl _)]
    exact ⟨rfl, rfl⟩
  · cases e.status <;> decide
  · cases e.action <;> decide

/-- A text that makes use of what the reader allows: an unknown member, an escape, an action as an
object, blanks and short numbers in a timestamp with an offset and a leap second, and members left
out. -/
def lenientText : String :=
  "\x7b\"id\":-7,\"extra\":[],\"entityType\":\"employee\",\"entityId\":\"E\\u0031\"," ++
    "\"action\":\x7b\"UPDATE\":null\x7d,\"payload\":[true,18446744073709551615]," ++
    "\"status\":\"FAILED\",\"attempts\":2,\"createdAt\":\" 2024-2-29t23:59:60.25+01:00\"\x7d"

/-- The event that `lenientText` holds. -/
def lenient : Event where
  id := -7
  entityType := "employee"
  entityId := "E1"
  action := .update
  payload := .array [.bool true, .integer 18446744073709551615]
  status := .failed
  attempts := 2
  lastError := none
  nextRunAt := none
  createdAt := ⟨1709247599, 1250000000, by decide⟩
  processedAt := none

theorem wire_stable_lenient :
    ofText lenientText = .ok lenient ∧ lenient.payload.isFloatFree = true ∧
      ofText (Json.object lenient.members.reverse).print = .ok lenient := by
  have hread : ofText lenientText = .ok lenient := by decide +kernel
  have hfloat : lenient.payload.isFloatFree = true := by decide
  exact ⟨hread, hfloat, (wire_stable hread hfloat).2.1 _ (List.reverse_perm _)⟩

end Event

end Outbox
