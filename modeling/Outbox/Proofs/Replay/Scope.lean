import Mathlib.Data.List.DropRight
import Outbox.Proofs.Replay.Window
import Outbox.Proofs.Store.Lookup

/-!
# What a replay resets

An operator asks for a replay in a `ReplayRequest`. Which events are meant is said here in the
request's own terms (`AsksFor`): each member that is given narrows the selection, and a blank
one counts as not given. A request can also be refused (`IsRefused`), for a status that is not
replayed or for a window that begins before the calendar does.

`replay_scope` brings the two together with what is carried out: a request that is not refused
comes to a filter that selects the events it asks for, so these are reset and no others; and
however a filter is built, it selects failed and dead events only.
-/

namespace Outbox

/-! ### Names of statuses -/

namespace Text

/-- Nothing is left of a text without the blanks around it exactly if it is blank. -/
theorem trim_eq_empty_iff (s : String) : trim s = "" ↔ isBlankText s = true := by
  have hchars : trim s = "" ↔ trimChars s.toList = [] := by
    rw [trim, ← String.toList_inj, String.toList_ofList, String.toList_empty]
  have hend : trimChars s.toList = [] ↔ dropBlanks (dropBlanks s.toList) = [] := by
    simp only [trimChars, List.reverse_eq_nil_iff, dropBlanks_eq_nil_iff, List.mem_reverse]
  rw [hchars, hend, dropBlanks, dropBlanks, List.dropWhile_idempotent, ← dropBlanks,
    dropBlanks_eq_nil_iff, isBlankText_iff]

end Text

namespace Status

theorem name_injective {s s' : Status} (h : s.name = s'.name) : s = s' := by
  have hname := ofName?_name s
  rw [h, ofName?_name] at hname
  exact (Option.some.inj hname).symm

theorem isReplayable_iff {s : Status} : s.isReplayable = true ↔ s = .failed ∨ s = .dead := by
  cases s <;> simp [isReplayable]

/-- A text is read as the status that has its name in upper case, or it is refused. -/
theorem parse_cases (text : String) :
    (∃ s : Status, Text.upper text = s.name ∧ parse text = .ok s) ∨
      (∀ s : Status, Text.upper text ≠ s.name) ∧
        parse text = .error (.invalid (.unknownStatus text)) := by
  by_cases h : ∃ s : Status, Text.upper text = s.name
  · obtain ⟨s, hs⟩ := h
    exact .inl ⟨s, hs, by rw [parse, parse?, hs, ofName?_name]⟩
  · have hname : ∀ s : Status, Text.upper text ≠ s.name := fun s hs => h ⟨s, hs⟩
    have hnone : ofName? (Text.upper text) = none := by
      rw [ofName?, List.find?_eq_none]
      exact fun s _ hs => hname s (beq_iff_eq.1 hs).symm
    exact .inr ⟨hname, by rw [parse, parse?, hnone]⟩

end Status

/-! ### Filters -/

/-- A filter that is made by the operations there are for it. -/
inductive ReplayFilter.Built : ReplayFilter → Prop where
  /-- The filter that asks for nothing. -/
  | default : Built {}
  /-- The filter for one status, or for both that can be replayed. -/
  | forStatus {status : Option Status} {f : ReplayFilter} :
      ReplayFilter.forStatus status = .ok f → Built f
  /-- A filter that asks for an entity type besides. -/
  | withEntityType {f : ReplayFilter} (s : String) : Built f → Built (f.withEntityType s)
  /-- A filter that asks for an entity id besides. -/
  | withEntityId {f : ReplayFilter} (s : String) : Built f → Built (f.withEntityId s)
  /-- A filter that asks for an earliest time besides. -/
  | withSince {f : ReplayFilter} (t : Instant) : Built f → Built (f.withSince t)

namespace ReplayFilter

theorem selects_iff {f : ReplayFilter} {e : Event} :
    f.selects e = true ↔
      e.status ∈ f.statuses ∧ (∀ s, f.entityType = some s → e.entityType = s) ∧
        (∀ s, f.entityId = some s → e.entityId = s) ∧ ∀ t, f.since = some t → t ≤ e.createdAt := by
  simp only [selects, Bool.and_eq_true, List.contains_iff_mem, Option.all_eq_true, beq_iff_eq,
    decide_eq_true_eq, and_assoc, @eq_comm _ _ e.entityType, @eq_comm _ _ e.entityId]

/-- The filter for a status that is named: there is one if the name is that of a status that is
replayed, in any case, and else the name is refused. -/
theorem forStatus_parse_cases (text : String) :
    (∃ s : Status, (s = .failed ∨ s = .dead) ∧ Text.upper text = s.name ∧
        ((Status.parse text).map some >>= forStatus) = .ok { statuses := [s] }) ∨
      Text.upper text ≠ "FAILED" ∧ Text.upper text ≠ "DEAD" ∧
        ∃ why, ((Status.parse text).map some >>= forStatus) = .error (.invalid why) := by
  obtain ⟨s, hname, hparse⟩ | ⟨hname, hparse⟩ := Status.parse_cases text
  · have hbind : ((Status.parse text).map some >>= forStatus) = forStatus (some s) := by
      rw [hparse]
      rfl
    by_cases hs : s.isReplayable
    · exact .inl ⟨s, Status.isReplayable_iff.1 hs, hname, by rw [hbind, forStatus, if_pos hs]⟩
    · have hnot : s ≠ .failed ∧ s ≠ .dead := by simpa [Status.isReplayable_iff] using hs
      have hother : ∀ s', s ≠ s' → Text.upper text ≠ s'.name := fun s' hne h =>
        hne (Status.name_injective (hname.symm.trans h))
      exact .inr ⟨hother .failed hnot.1, hother .dead hnot.2, .notReplayable s,
        by rw [hbind, forStatus, if_neg hs]⟩
  · exact .inr ⟨hname .failed, hname .dead, .unknownStatus text, by rw [hparse]; rfl⟩

/-- There is a filter for a status that is replayed, and for no status in particular: both
that are replayed then. -/
theorem forStatus_eq_ok_iff {status : Option Status} {f : ReplayFilter} :
    forStatus status = .ok f ↔
      (∀ s, status = some s → s.isReplayable = true) ∧
        f = { statuses := (status.map fun s => [s]).getD [.failed, .dead] } := by
  cases status with
  | none => simp [forStatus, @eq_comm ReplayFilter f]
  | some s => cases h : s.isReplayable <;> simp [forStatus, h, @eq_comm ReplayFilter f]

/-- A built filter asks for some status, and for none that is not replayed. -/
theorem Built.statuses {f : ReplayFilter} (h : f.Built) :
    f.statuses ≠ [] ∧ ∀ s ∈ f.statuses, s = .failed ∨ s = .dead := by
  induction h with
  | default => simp
  | @forStatus status f h =>
    obtain ⟨hreplay, rfl⟩ := forStatus_eq_ok_iff.1 h
    cases status with
    | none => simp
    | some s => cases s <;> simp_all [Status.isReplayable]
  | withEntityType s _ ih => exact ih
  | withEntityId s _ ih => exact ih
  | withSince t _ ih => exact ih

end ReplayFilter

/-! ### The log -/

namespace Store

theorem resetWhere_of_forall_not {s : Store} {select : Event → Bool}
    (h : ∀ e ∈ s.events, select e = false) : s.resetWhere select = (0, s) := by
  have hnone : s.events.filter select = [] := List.filter_eq_nil_iff.2 (by simpa using h)
  have hsame : (s.events.map fun e => if select e then e.reset else e) = s.events :=
    (List.map_congr_left fun e he => by simp [h e he]).trans (List.map_id _)
  rw [resetWhere, hnone, hsame]
  rfl

/-- A reset that does not select what it has reset finds nothing more to do. -/
theorem resetWhere_resetWhere {s : Store} {select : Event → Bool}
    (h : ∀ e : Event, select e.reset = false) :
    (s.resetWhere select).2.resetWhere select = (0, (s.resetWhere select).2) := by
  refine resetWhere_of_forall_not fun e he => ?_
  obtain ⟨d, -, rfl⟩ := List.mem_map.1 he
  split
  · exact h d
  · next hd => simpa using hd

end Store

/-! ### Requests -/

namespace ReplayRequest

open Instant

variable {r : ReplayRequest} {now : Instant} {e : Event}

/-- A text is given: it is there and not blank. -/
def Gives (s : Option String) (text : String) : Prop :=
  s = some text ∧ Text.isBlankText text = false

/-- The request asks for an event. -/
structure AsksFor (r : ReplayRequest) (now : Instant) (e : Event) : Prop where
  /-- The event has failed or is dead. -/
  replayable : e.status = .failed ∨ e.status = .dead
  /-- Its status is the one that is named, without the blanks around the name and in any case. -/
  status : ∀ text, Gives r.status text → Text.upper (Text.trim text) = e.status.name
  /-- Its entity type is the one given. -/
  entityType : ∀ text, Gives r.entityType text → e.entityType = text
  /-- Its entity id is the one given. -/
  entityId : ∀ text, Gives r.entityId text → e.entityId = text
  /-- It was not appended before the date. -/
  fromDate : ∀ t, r.fromDate = some t → t ≤ e.createdAt
  /-- Without a date, it was not appended before so many days ago. -/
  fromDays : r.fromDate = none → ∀ days, r.fromDays = some days →
    ∃ t : Instant, t.IsDaysBefore now days ∧ t ≤ e.createdAt

/-- The request names something else than a status that is replayed. -/
def NamesOther (r : ReplayRequest) : Prop :=
  ∃ text, Gives r.status text ∧ Text.upper (Text.trim text) ≠ "FAILED" ∧
    Text.upper (Text.trim text) ≠ "DEAD"

/-- The request gives no date, and more days than the calendar goes back. -/
def LeavesCalendar (r : ReplayRequest) (now : Instant) : Prop :=
  r.fromDate = none ∧ ∃ days, r.fromDays = some days ∧
    now.nanosSinceEpoch - days * nanosPerDay < minSecond * nanosPerSecond

/-- The request is refused. -/
def IsRefused (r : ReplayRequest) (now : Instant) : Prop :=
  r.NamesOther ∨ r.LeavesCalendar now

theorem given_eq_some_iff {s : Option String} {text : String} :
    given s = some text ↔ Gives s text := by
  simp [given, Gives, Option.filter_eq_some_iff]

/-- The status asked for is read from the name if one is given. -/
theorem wantedStatus_eq (r : ReplayRequest) :
    r.wantedStatus =
      ((given r.status).map fun text => (Status.parse (Text.trim text)).map some).getD
        (.ok none) := by
  unfold wantedStatus given
  cases r.status with
  | none => rfl
  | some text =>
    cases hb : Text.isBlankText text with
    | true => simp [Option.filter, hb, (Text.trim_eq_empty_iff text).2 hb]
    | false =>
      have hne : Text.trim text ≠ "" := by simp [Text.trim_eq_empty_iff, hb]
      simp [Option.filter, hb]

/-- The request names no other status than those that are replayed, and the filter for its
statuses is the one it asks for; or the name is refused. -/
theorem forStatus_cases (r : ReplayRequest) :
    (¬ r.NamesOther ∧ ∃ statuses,
        (r.wantedStatus >>= ReplayFilter.forStatus) = .ok { statuses := statuses } ∧
        ∀ s, s ∈ statuses ↔ (s = .failed ∨ s = .dead) ∧
          ∀ text, Gives r.status text → Text.upper (Text.trim text) = s.name) ∨
      r.NamesOther ∧ ∃ why,
        (r.wantedStatus >>= ReplayFilter.forStatus) = .error (.invalid why) := by
  rw [wantedStatus_eq]
  cases hgiven : given r.status with
  | none =>
    have hgives : ∀ text, ¬ Gives r.status text := fun text h => by
      simp [given_eq_some_iff.2 h] at hgiven
    exact .inl ⟨fun ⟨text, h, _⟩ => hgives text h, _, rfl, fun s => by simp [hgives]⟩
  | some text =>
    have hgives : ∀ other, Gives r.status other ↔ other = text := fun other => by
      rw [← given_eq_some_iff, hgiven, Option.some.injEq, eq_comm]
    rw [Option.map_some, Option.getD_some]
    obtain ⟨s, hreplay, hname, hfilter⟩ | ⟨hfailed, hdead, why, hfilter⟩ :=
      ReplayFilter.forStatus_parse_cases (Text.trim text)
    · refine .inl ⟨?_, [s], hfilter, fun t => ?_⟩
      · rintro ⟨other, h, hfailed, hdead⟩
        obtain rfl := (hgives other).1 h
        rcases hreplay with rfl | rfl
        · exact hfailed hname
        · exact hdead hname
      · simp only [List.mem_singleton, hgives, forall_eq, hname]
        constructor
        · rintro rfl
          exact ⟨hreplay, rfl⟩
        · exact fun h => (Status.name_injective h.2).symm
    · exact .inr ⟨⟨text, (hgives text).2 rfl, hfailed, hdead⟩, why, hfilter⟩

/-- The window of the request is in the calendar, and the earliest time is the one it asks for;
or the window is refused. -/
theorem wantedSince_cases (r : ReplayRequest) (now : Instant) :
    (¬ r.LeavesCalendar now ∧ ∃ since, r.wantedSince now = .ok since ∧
        ∀ u, (∀ t, since = some t → t ≤ u) ↔ (∀ t, r.fromDate = some t → t ≤ u) ∧
          (r.fromDate = none → ∀ days, r.fromDays = some days →
            ∃ t : Instant, t.IsDaysBefore now days ∧ t ≤ u)) ∨
      r.LeavesCalendar now ∧ ∃ why, r.wantedSince now = .error (.invalid why) := by
  unfold wantedSince LeavesCalendar
  cases r.fromDate with
  | some t => exact .inl ⟨by simp, some t, rfl, by simp⟩
  | none =>
    cases r.fromDays with
    | none => exact .inl ⟨by simp, none, rfl, by simp⟩
    | some days =>
      cases hback : daysBefore? now days with
      | none =>
        refine .inr ⟨⟨rfl, days, rfl, daysBefore?_eq_none_iff.1 hback⟩, .windowOutOfRange days, ?_⟩
        simp only [hback]
      | some t =>
        refine .inl ⟨?_, some t, by simp only [hback], fun u => ?_⟩
        · rintro ⟨-, days', hdays, hleaves⟩
          obtain rfl := Option.some.inj hdays
          simp [daysBefore?_eq_none_iff.2 hleaves] at hback
        · have hunique : ∀ t' : Instant, t'.IsDaysBefore now days ↔ t' = t := fun t' => by
            rw [← daysBefore?_eq_some_iff, hback, Option.some.injEq, eq_comm]
          simp [hunique]

/-- The request comes to a filter that selects the events it asks for, or it is refused. -/
theorem filter_cases (r : ReplayRequest) (now : Instant) :
    (¬ r.IsRefused now ∧ ∃ f, r.filter now = .ok f ∧
        ∀ e, f.selects e = true ↔ r.AsksFor now e) ∨
      r.IsRefused now ∧ ∃ why, r.filter now = .error (.invalid why) := by
  have hfilter : r.filter now = ((r.wantedStatus >>= ReplayFilter.forStatus) >>= fun f =>
      r.wantedSince now >>= fun since => .ok { f with
        entityType := given r.entityType, entityId := given r.entityId, since := since }) := by
    rw [ReplayRequest.filter, bind_assoc]
  obtain ⟨hnames, statuses, hstatus, hstatuses⟩ | ⟨hnames, why, hstatus⟩ := r.forStatus_cases
  · obtain ⟨hleaves, since, hsince, hwindow⟩ | ⟨hleaves, why, hsince⟩ := r.wantedSince_cases now
    · refine .inl ⟨by simp [IsRefused, hnames, hleaves], _, by rw [hfilter, hstatus, hsince]; rfl,
        fun e => ?_⟩
      rw [ReplayFilter.selects_iff]
      simp only [given_eq_some_iff, hstatuses, hwindow]
      constructor
      · rintro ⟨⟨hreplay, hname⟩, htype, hid, hdate, hdays⟩
        exact ⟨hreplay, hname, htype, hid, hdate, hdays⟩
      · rintro ⟨hreplay, hname, htype, hid, hdate, hdays⟩
        exact ⟨⟨hreplay, hname⟩, htype, hid, hdate, hdays⟩
    · exact .inr ⟨.inr hleaves, why, by rw [hfilter, hstatus, hsince]; rfl⟩
  · exact .inr ⟨.inl hnames, why, by rw [hfilter, hstatus]; rfl⟩

/-- A request that is refused comes to an error, so that nothing is carried out. One that is not
resets the events that it asks for, in any log, and counts them: they are pending again, with no
attempts, no failure and no schedule, and what else is said of them stays, as do the other
events. The same request finds nothing more to reset. And no filter that can be built selects
events other than failed and dead ones. -/
theorem replay_scope (r : ReplayRequest) (now : Instant) (s : Store)
    [DecidablePred (r.AsksFor now)] :
    (r.IsRefused now → ∃ why, (r.filter now).map s.replay = .error (.invalid why)) ∧
      (¬ r.IsRefused now →
        let fresh (e : Event) : Event :=
          { e with status := .pending, attempts := 0, lastError := none, nextRunAt := none }
        let after (e : Event) : Event := if r.AsksFor now e then fresh e else e
        let next : Store := { s with events := s.events.map after }
        (r.filter now).map s.replay = .ok (s.events.countP (r.AsksFor now ·), next) ∧
          (r.filter now).map next.replay = .ok (0, next)) ∧
      ∀ f : ReplayFilter, f.Built → f.statuses ≠ [] ∧
        ∀ e, f.selects e = true → e.status = .failed ∨ e.status = .dead := by
  refine ⟨fun hrefused => ?_, fun hnot => ?_, fun f hf => ?_⟩
  · obtain ⟨hnot, -⟩ | ⟨-, why, hfilter⟩ := r.filter_cases now
    · exact absurd hrefused hnot
    · exact ⟨why, by rw [hfilter]; rfl⟩
  · obtain ⟨-, f, hfilter, hselects⟩ | ⟨hrefused, -⟩ := r.filter_cases now
    · have hselect : f.selects = fun e => decide (r.AsksFor now e) := by
        funext e
        rw [Bool.eq_iff_iff, hselects, decide_eq_true_iff]
      have hreset : ∀ e : Event, f.selects e.reset = false := fun e => by
        rw [Bool.eq_false_iff, ne_eq, hselects]
        rintro ⟨hreplay, -⟩
        simp [Event.reset] at hreplay
      intro fresh after next
      have hfirst : s.replay f = (s.events.countP (r.AsksFor now ·), next) := by
        simp only [Store.replay, Store.resetWhere, ← List.countP_eq_length_filter, hselect,
          decide_eq_true_eq]
        rfl
      have hagain : next.replay f = (0, next) := by
        have hnext : next = (s.replay f).2 := by rw [hfirst]
        rw [hnext]
        exact Store.resetWhere_resetWhere hreset
      rw [hfilter]
      exact ⟨congrArg Except.ok hfirst, congrArg Except.ok hagain⟩
    · exact absurd hrefused hnot
  · exact ⟨hf.statuses.1, fun e he => hf.statuses.2 _ (ReplayFilter.status_of_selects he)⟩

end ReplayRequest

end Outbox
