import Outbox.Proofs.Fleet.Duty
import Outbox.Proofs.Retry.Standing

/-!
# How often an event is tried

A worker that is alone with a log keeps to the retry policy over whole runs, whatever other
events there are, however the dispatches go and however the clock moves on meanwhile. The
number of failures, the message of the last one and the time of the next trial stay in step
with the trials that the event has had in the course of the run.

Three things carry the proof. The event is absent, or at rest with its record as the trials
demand, or under way. While it is at rest, the worker's batch shows it just as the log does,
so a failure is counted from the right number. While it is under way, it is not in the rest of
the batch, so it is tried once only. `phase_turn` and `phase_other` say that every step keeps
that.
-/

namespace Outbox

instance (p : RetryPolicy) (attempts : Nat) (failedAt : Instant) :
    Decidable (∃ t, p.Schedules attempts failedAt t) :=
  decidable_of_iff (attempts < p.maxAttempts ∧ p.plainDelay attempts ≤ Instant.maxShift ∧
      (failedAt.after? (p.plainDelay attempts)).isSome) (by
    simp only [RetryPolicy.Schedules, Option.isSome_iff_exists, exists_and_left])

namespace Fleet

/-! ### A worker that is alone -/

/-- A worker that is alone with a log into which these events were put. -/
def alone (events : List Event) (now : Instant) (adapters : List String) (limit : Span)
    (w : WorkerSettings) : Fleet Unit :=
  { start now adapters limit (fun _ => w) with store := .ofEvents events }

variable {events : List Event} {now : Instant} {adapters : List String} {limit : Span}
  {w : WorkerSettings}

theorem sound_alone : (alone events now adapters limit w).Sound where
  ordered := Store.ordered_ofEvents events
  orderly _ := ⟨rfl, fun _ => rfl, nofun⟩
  known _ _ he := absurd he List.not_mem_nil
  current _ _ hc := by cases hc

theorem onDuty_alone : (alone events now adapters limit w).OnDuty () w {} := ⟨rfl, nofun, rfl⟩

/-! ### Trials -/

/-- The trial of the event with a given number that a step brings to its end. -/
def trialAt (id : Int) (s : Fleet Unit) (m : Move Unit) : List Trial :=
  match s.settledBy m with
  | some (e, result) => if e.id = id then [⟨s.now, result⟩] else []
  | none => []

/-- The trials of the event with a given number in the course of a run. -/
def trials (id : Int) : Fleet Unit → List (Move Unit) → List Trial := trace (trialAt id)

/-- The step is not an operator's that touches the event, the outcome of the event is written
if one is to be, and the time of the next trial is in the calendar. -/
structure Undisturbed (id : Int) (s : Fleet Unit) (m : Move Unit) : Prop where
  /-- No operator touches the event. -/
  untouched : m.IsOperator → (s.step m).store.find? id = s.store.find? id
  /-- The write is not made to fail. -/
  written : ∀ x ∈ s.settledBy m, x.1.id = id → s.store.outcomeFailures = 0
  /-- The time of the next trial is in the calendar. -/
  scheduled : ∀ x ∈ s.settledBy m, x.1.id = id → x.2 ≠ .success →
    x.1.nextFailure < (s.member ()).worker.settings.retry.maxAttempts →
    ∃ t, (s.member ()).worker.settings.retry.Schedules x.1.nextFailure s.now t

instance (id : Int) (s : Fleet Unit) (m : Move Unit) : Decidable (Undisturbed id s m) :=
  decidable_of_iff (_ ∧ _ ∧ _) ⟨fun h => ⟨h.1, h.2.1, h.2.2⟩,
    fun h => ⟨h.untouched, h.written, h.scheduled⟩⟩

variable {id : Int} {s : Fleet Unit} {e : Event} {result : AttemptResult}
  {answer : CallEnd SyncOutcome} {chance : Chance}

/-- A step in which no outcome is to be written ends no trial. -/
theorem trialAt_of_not_settling (hsettling : s.settling? () = none) :
    trialAt id s (.proceed () answer chance) = [] := by
  simp [trialAt, settledBy, hsettling]

/-- A step in which an outcome is to be written ends a trial of that event. -/
theorem trialAt_of_settling (hsettling : s.settling? () = some (e, result)) :
    trialAt id s (.proceed () answer chance) = if e.id = id then [⟨s.now, result⟩] else [] := by
  simp [trialAt, settledBy, hsettling]

/-- An outcome that is not written is not one of the event. -/
theorem Undisturbed.ne_of_unwritten (hm : s.Undisturbed id (.proceed () answer chance))
    (hsteady : (s.member ()).worker.settings.retry.Steady)
    (hsettling : s.settling? () = some (e, result))
    (hwhy : (∃ message, result = .failure message) ∧
        (s.member ()).worker.settings.retry.decision e.nextFailure s.now chance = .pastCalendar ∨
      0 < s.store.outcomeFailures) : e.id ≠ id := by
  intro hid
  obtain ⟨⟨message, rfl⟩, hdecision⟩ | hpos := hwhy
  · have hover := hsteady.pastCalendar_iff_overruns.1 hdecision
    obtain ⟨t, ht⟩ := hm.scheduled _ hsettling hid (by simp) hover.1
    exact hover.not_schedules t ht
  · have hnone := hm.written _ hsettling hid
    omega

/-! ### Where the event is -/

/-- The event with a given number is absent, at rest or under way, and its record is as these
trials demand. -/
inductive Phase (p : RetryPolicy) (id : Int) (seen : List Trial) (s : Fleet Unit) (t : Duty) :
    Prop where
  /-- There is no such event yet. -/
  | absent (hfind : s.store.find? id = none) (hseen : seen = [])
      (hheld : ∀ e ∈ t.held, e.id ≠ id) (hrest : ∀ e ∈ t.rest, e.id ≠ id)
  /-- The event is at rest, and the worker's batch shows it as it is. -/
  | atRest {f : Event} (hfind : s.store.find? id = some f) (hstanding : p.Standing seen f)
      (hheld : ∀ e ∈ t.held, e.id ≠ id) (hrest : ∀ e ∈ t.rest, e.id = id → e = f)
  /-- The event is under way, and is not to be claimed again. -/
  | underWay {f : Event} {leaseEnd : Instant}
      (hfind : s.store.find? id = some (Store.claimed leaseEnd f)) (hready : p.Ready seen s.now)
      (hattempts : f.attempts = seen.length) (hheld : t.held = some f) (hid : f.id = id)
      (hrest : ∀ e ∈ t.rest, e.id ≠ id)

namespace Phase

variable {p : RetryPolicy} {seen : List Trial} {s' : Fleet Unit} {t t' : Duty}

/-- The event stays where it is if the record, the event under way and the batch tell the same
about it as before. -/
theorem kept (h : Phase p id seen s t) (hfind : s'.store.find? id = s.store.find? id)
    (hnow : s.now ≤ s'.now) (hheld : t'.held = t.held) (hrest : ∀ e ∈ t'.rest, e ∈ t.rest) :
    Phase p id seen s' t' := by
  cases h with
  | absent hnone hseen hheld₀ hrest₀ =>
    exact .absent (hfind.trans hnone) hseen (hheld ▸ hheld₀) fun e he => hrest₀ e (hrest e he)
  | atRest hfind₀ hstanding hheld₀ hrest₀ =>
    exact .atRest (hfind.trans hfind₀) hstanding (hheld ▸ hheld₀)
      fun e he => hrest₀ e (hrest e he)
  | underWay hfind₀ hready hattempts hheld₀ hid hrest₀ =>
    exact .underWay (hfind.trans hfind₀) (hready.later hnow) hattempts (hheld.trans hheld₀) hid
      fun e he => hrest₀ e (hrest e he)

/-- The event stays where it is when another event gets under way, or is so no more. -/
theorem kept_of_ne (h : Phase p id seen s t) (hfind : s'.store.find? id = s.store.find? id)
    (hother : ∀ e ∈ t.held, e.id ≠ id) (hother' : ∀ e ∈ t'.held, e.id ≠ id)
    (hrest : ∀ e ∈ t'.rest, e ∈ t.rest) : Phase p id seen s' t' := by
  cases h with
  | absent hnone hseen hheld hrest₀ =>
    exact .absent (hfind.trans hnone) hseen hother' fun e he => hrest₀ e (hrest e he)
  | atRest hfind₀ hstanding hheld hrest₀ =>
    exact .atRest (hfind.trans hfind₀) hstanding hother' fun e he => hrest₀ e (hrest e he)
  | underWay hfind₀ hready hattempts hheld hid hrest₀ => exact absurd hid (hother _ hheld)

/-- The event is where it was when the worker has fetched a batch. -/
theorem fetched (h : Phase p id seen s t) (hs : s.store.Ordered)
    (hfind : s'.store.find? id = s.store.find? id) (hheld : t.held = none)
    (hheld' : t'.held = none) (hmem : ∀ e ∈ t'.rest, e ∈ s.store.events) :
    Phase p id seen s' t' := by
  have hfree : ∀ e ∈ t'.held, e.id ≠ id := by simp [hheld']
  have hbatch : ∀ e ∈ t'.rest, e.id = id → s.store.find? id = some e := by
    rintro e he rfl
    exact hs.find?_of_mem (hmem e he)
  cases h with
  | absent hnone hseen hheld₀ hrest =>
    refine .absent (hfind.trans hnone) hseen hfree fun e he hid => ?_
    simp [hbatch e he hid] at hnone
  | atRest hfind₀ hstanding hheld₀ hrest =>
    refine .atRest (hfind.trans hfind₀) hstanding hfree fun e he hid => ?_
    simpa [hfind₀, eq_comm] using hbatch e he hid
  | underWay hfind₀ hready hattempts hheld₀ hid hrest => simp [hheld₀] at hheld

/-- The event is under way when the worker has won a claim of it. -/
theorem claimed {c : Claim} {called : List Nat} {rest : List Event} {m : Move Unit}
    (h : Phase p id seen s ⟨none, called, c.event :: rest⟩) (hpos : 0 < p.maxAttempts)
    (hwins : s.Wins m () c) (hid : c.event.id = id) (hnow : s'.now = s.now)
    (hdistinct : ∀ e ∈ rest, c.event.id ≠ e.id)
    (hstored : s'.store.find? id = (s.store.find? id).map (Store.claimed c.leaseEnd)) :
    Phase p id seen s' { held := some c.event, rest } := by
  have hfound := hwins.found
  rw [hid] at hfound
  cases h with
  | absent hnone hseen hheld hrest => simp [hfound] at hnone
  | @atRest f hfind hstanding hheld hrest =>
    -- What was fetched is what is claimed.
    have hevent : c.event = f := hrest _ List.mem_cons_self hid
    rw [hfind, Option.some.injEq] at hfound
    obtain ⟨hready, hattempts⟩ := hstanding.ready hpos (hfound ▸ hwins.due)
    rw [hfind, Option.map_some] at hstored
    refine .underWay hstored (hnow ▸ hready) hattempts (congrArg some hevent) (hevent ▸ hid) ?_
    intro e he
    exact hid ▸ (hdistinct e he).symm
  | underWay hfind hready hattempts hheld hid' hrest => cases hheld

/-- The event is at rest again when the worker has had the outcome written. -/
theorem settled {d : Disposition} {g : Event → Event} {called : List Nat} {rest : List Event}
    (h : Phase p id seen s ⟨some e, called, rest⟩) (hsteady : p.Steady)
    (hmax : (p.maxAttempts : Int) ≤ maxAttempts) (hid : e.id = id)
    (houtcome : Outcome p s.now chance e result d g)
    (hscheduled : result ≠ .success → e.nextFailure < p.maxAttempts →
      ∃ t, p.Schedules e.nextFailure s.now t)
    (hstored : s'.store.find? id = (s.store.find? id).map g) :
    Phase p id (seen ++ [⟨s.now, result⟩]) s' { rest } := by
  cases h with
  | absent hnone hseen hheld hrest => exact absurd hid (hheld e rfl)
  | atRest hfind hstanding hheld hrest => exact absurd hid (hheld e rfl)
  | @underWay f leaseEnd hfind hready hattempts hheld hid' hrest =>
    cases hheld
    have hstanding := RetryPolicy.Standing.outcome hready.toOpen hattempts hsteady hmax houtcome
      hscheduled leaseEnd
    rw [hfind, Option.map_some] at hstored
    exact .atRest hstored hstanding (by simp) fun e he hid' => absurd hid' (hrest e he)

end Phase

/-! ### Every step keeps it -/

/-- The worker keeps to a duty, and the event is where its trials demand. -/
def Budgeted (w : WorkerSettings) (id : Int) (seen : List Trial) (s : Fleet Unit) : Prop :=
  ∃ t, s.OnDuty () w t ∧ (t.rest.Pairwise fun a b => a.id ≠ b.id) ∧ s.Phase w.retry id seen t

variable {seen : List Trial} {m : Move Unit}

/-- A step that is not the worker's leaves the event as it is or appends it. -/
theorem find?_other (hs : s.store.Ordered) (hm : s.Undisturbed id m)
    (hother : ∀ answer chance, m ≠ .proceed () answer chance) :
    (s.step m).store.find? id = s.store.find? id ∨ s.store.find? id = none ∧
      ∃ change, (s.step m).store.find? id = some (.ofMutation change s.store.nextId s.now) := by
  cases step_effect hs m id with
  | kept hfind howner => exact .inl hfind
  | appended change hfree hfind howner => exact .inr ⟨hfree, change, hfind⟩
  | claimed hwins hid hholds =>
    obtain ⟨answer, chance, next, rfl, -⟩ := hwins.asked
    exact absurd rfl (hother answer chance)
  | settled hrecords hid houtcome hfind howner hfree =>
    obtain ⟨answer, chance, d, rfl, -⟩ := hrecords
    exact absurd rfl (hother answer chance)
  | reset hoperator hf hidle hfind howner => exact .inl (hm.untouched hoperator)

/-- A step that is not the worker's keeps the event where its trials demand. -/
theorem budgeted_other (h : s.Budgeted w id seen) (hs : s.Sound) (hm : s.Undisturbed id m)
    (hother : ∀ answer chance, m ≠ .proceed () answer chance) :
    (s.step m).Budgeted w id (seen ++ trialAt id s m) := by
  have hnone : trialAt id s m = [] := by
    cases m with
    | proceed i answer chance => exact absurd rfl (hother answer chance)
    | _ => rfl
  obtain ⟨t, hduty, hdistinct, hphase⟩ := h
  rw [hnone, List.append_nil]
  refine ⟨t, hduty.other (hs.orderly ()) hother, hdistinct, ?_⟩
  obtain hfind | ⟨hfree, change, hfind⟩ := find?_other hs.ordered hm hother
  · exact hphase.kept hfind (s.frame_step m).1 rfl fun _ he => he
  · cases hphase with
    | absent hnone hseen hheld hrest =>
      subst hseen
      exact .atRest hfind (.untried rfl rfl rfl) hheld fun e he hid => absurd hid (hrest e he)
    | atRest hfind₀ => simp [hfree] at hfind₀
    | underWay hfind₀ => simp [hfree] at hfind₀

/-- The step of the worker keeps the event where its trials demand. -/
theorem budgeted_proceed (h : s.Budgeted w id seen) (hs : s.Sound)
    (hsteady : w.retry.Steady) (hpos : 0 < w.retry.maxAttempts)
    (hmax : (w.retry.maxAttempts : Int) ≤ maxAttempts) (answer : CallEnd SyncOutcome)
    (chance : Chance) (hm : s.Undisturbed id (.proceed () answer chance)) :
    (s.step (.proceed () answer chance)).Budgeted w id
      (seen ++ trialAt id s (.proceed () answer chance)) := by
  obtain ⟨t, hduty, hdistinct, hphase⟩ := h
  obtain ⟨t', hduty', hturn⟩ := turn_proceed hduty hs.ordered answer chance
  have hnow : (s.step (.proceed () answer chance)).now = s.now :=
    (s.frame_proceed () answer chance).1
  have hnow' : s.now ≤ (s.step (.proceed () answer chance)).now := (s.frame_step _).1
  have hsettings := hduty.settings
  have hquiet (hnone : s.settling? () = none) :
      seen ++ trialAt id s (.proceed () answer chance) = seen := by
    rw [trialAt_of_not_settling hnone, List.append_nil]
  refine ⟨t', hduty', ?_⟩
  cases hturn with
  | stayed hq hstore =>
    rw [hquiet hq.2]
    exact ⟨hdistinct, hphase.kept (hstore id) hnow' rfl fun _ he => he⟩
  | @fetched called rest batch hq hbatch hstore =>
    rw [hquiet hq.2]
    have hmem : ∀ e ∈ batch, e ∈ s.store.events := by
      rintro e he
      obtain rfl | ⟨limit, hoverdue⟩ := hbatch
      · cases he
      · exact (hoverdue.due e he).1
    refine ⟨?_, hphase.fetched hs.ordered (hstore id) rfl rfl hmem⟩
    obtain rfl | ⟨limit, hoverdue⟩ := hbatch
    · exact .nil
    · exact List.pairwise_map.1 hoverdue.distinct
  | stopped hq hstore =>
    rw [hquiet hq.2]
    exact ⟨.nil, hphase.kept (hstore id) hnow' rfl (by simp)⟩
  | passed hq hlost hstore =>
    rw [hquiet hq.2]
    exact ⟨hdistinct.tail, hphase.kept (hstore id) hnow' rfl
      fun _ he => List.mem_cons_of_mem _ he⟩
  | @claimed c called rest hq hwins hstore =>
    rw [hquiet hq.2]
    obtain ⟨hfirst, hdistinct'⟩ := List.pairwise_cons.1 hdistinct
    refine ⟨hdistinct', ?_⟩
    by_cases hid : c.event.id = id
    · have hstored := hstore id
      rw [if_pos hid.symm] at hstored
      exact hphase.claimed hpos hwins hid hnow hfirst hstored
    · have hsame := hstore id
      rw [if_neg (Ne.symm hid)] at hsame
      exact hphase.kept_of_ne hsame (by simp) (by simpa using hid)
        fun _ he => List.mem_cons_of_mem _ he
  | called hcalling hstore =>
    rw [hquiet (settling?_of_calling? hcalling)]
    exact ⟨hdistinct, hphase.kept (hstore id) hnow' rfl fun _ he => he⟩
  | @settled e result d g rest hsettling houtcome hstore =>
    refine ⟨hdistinct, ?_⟩
    rw [trialAt_of_settling hsettling]
    by_cases hid : e.id = id
    · have hstored := hstore id
      rw [if_pos hid.symm] at hstored
      have hscheduled := hm.scheduled (e, result) hsettling hid
      rw [hsettings] at houtcome hscheduled
      rw [if_pos hid]
      exact hphase.settled hsteady hmax hid houtcome hscheduled hstored
    · have hsame := hstore id
      rw [if_neg (Ne.symm hid)] at hsame
      rw [if_neg hid, List.append_nil]
      exact hphase.kept_of_ne hsame (by simpa using hid) (by simp) fun _ he => he
  | @unwritten e result rest hsettling hwhy hstore =>
    refine ⟨hdistinct, ?_⟩
    have hid : e.id ≠ id := hm.ne_of_unwritten (by rwa [hsettings]) hsettling hwhy
    rw [trialAt_of_settling hsettling, if_neg hid, List.append_nil]
    exact hphase.kept_of_ne (hstore id) (by simpa using hid) (by simp) fun _ he => he

/-- Every step keeps the event where its trials demand. -/
theorem budgeted_step (h : s.Budgeted w id seen) (hs : s.Sound) (hsteady : w.retry.Steady)
    (hpos : 0 < w.retry.maxAttempts) (hmax : (w.retry.maxAttempts : Int) ≤ maxAttempts)
    (hm : s.Undisturbed id m) : (s.step m).Budgeted w id (seen ++ trialAt id s m) := by
  obtain ⟨answer, chance, rfl⟩ | hother := m.own_or_other ()
  · exact budgeted_proceed h hs hsteady hpos hmax answer chance hm
  · exact budgeted_other h hs hm hother

/-- Over every run the event is where its trials demand. -/
theorem budgeted_run {moves : List (Move Unit)} (hsteady : w.retry.Steady)
    (hpos : 0 < w.retry.maxAttempts) (hmax : (w.retry.maxAttempts : Int) ≤ maxAttempts)
    (hnew : (Store.ofEvents events).find? id = none)
    (hrun : Obeys (Undisturbed id) (alone events now adapters limit w) moves) :
    let s := alone events now adapters limit w
    (s.run moves).Sound ∧ (s.run moves).Budgeted w id (trials id s moves) := by
  intro s
  have hstart : s.Sound ∧ s.Budgeted w id [] :=
    ⟨sound_alone, {}, onDuty_alone, .nil, .absent hnew rfl (by simp) (by simp)⟩
  exact hrun.trace_induction (trialAt id) (P := fun seen s => s.Sound ∧ s.Budgeted w id seen)
    (fun _ _ m h hm => ⟨sound_step h.1 m, budgeted_step h.2 h.1 hsteady hpos hmax hm⟩) hstart

/-- Over every run of a worker that is alone with a log, an event that is appended in the
course of it is tried as its policy says, if no operator touches it, its outcomes are written
and the times of its next trials are in the calendar.

Whenever the event is not under way, and so between any two cycles, it is on record as its
trials demand. It is under way, and an adapter is called for it, only when none of its trials
was a success, they were fewer than the policy allows, and the delay after the last one is
over. The result of a trial is what the dispatch came to. After a success or the last failure
the event never gets under way again, and there is no other trial. -/
theorem retry_budget {moves : List (Move Unit)} {f : Event} (hsteady : w.retry.Steady)
    (hpos : 1 ≤ w.retry.maxAttempts) (hmax : (w.retry.maxAttempts : Int) ≤ maxAttempts)
    (hnew : (Store.ofEvents events).find? id = none)
    (hrun : Obeys (Undisturbed id) (alone events now adapters limit w) moves)
    (hf : ((alone events now adapters limit w).run moves).store.find? id = some f) :
    let start := alone events now adapters limit w
    let s := start.run moves
    ((s.member ()).program = none ∨ (∀ c, s.Holds () c → c.event.id ≠ id) →
      w.retry.Standing (trials id start moves) f) ∧
    (∀ c, s.Holds () c → c.event.id = id → w.retry.Ready (trials id start moves) s.now) ∧
    (∀ place r next, (s.member ()).program = some (.ask (.call place r) next) →
      ∃ c, s.Holds () c ∧ r = .ofEvent c.event) ∧
    (∀ e result, s.settling? () = some (e, result) →
      (s.member ()).notes.Earned s.adapters s.limit e result) ∧
    ∀ before after, moves = before ++ after → ¬ w.retry.Open (trials id start before) →
      trials id start moves = trials id start before ∧ ∀ c, s.Holds () c → c.event.id ≠ id := by
  intro start s
  obtain ⟨hsound, t, hduty, -, hphase⟩ := budgeted_run hsteady hpos hmax hnew hrun
  have hready (c : Claim) (hc : s.Holds () c) (hid : c.event.id = id) :
      w.retry.Ready (trials id start moves) s.now := by
    have hheld : t.held = some c.event := hduty.held_of_holds hc
    cases hphase with
    | absent hnone => simp [hf] at hnone
    | atRest hfind hstanding hother hrest => exact absurd hid (hother _ hheld)
    | underWay hfind hready => exact hready
  have hstanding (hrest : ∀ c, s.Holds () c → c.event.id ≠ id) :
      w.retry.Standing (trials id start moves) f := by
    cases hphase with
    | absent hnone => simp [hf] at hnone
    | atRest hfind hstanding =>
      rw [hf, Option.some.injEq] at hfind
      exact hfind ▸ hstanding
    | underWay hfind hready hattempts hheld hid =>
      obtain ⟨c, hc, rfl⟩ := hduty.holds_of_held hheld
      exact absurd hid (hrest c hc)
  refine ⟨?_, hready, ?_, fun e result => hsound.earned, ?_⟩
  · rintro (hidle | hrest)
    · refine hstanding fun c hc => ?_
      have hnone : (s.member ()).notes.claim = none := (hsound.orderly ()).idle hidle
      rw [Holds, hnone] at hc
      cases hc
    · exact hstanding hrest
  · intro place r next hp
    obtain ⟨c, hc, -, hr⟩ := hduty.calling (calling?_eq_some.2 ⟨next, hp⟩)
    exact ⟨c, hc, hr⟩
  · rintro before after rfl hclosed
    have htrials : trials id start (before ++ after) =
        trials id start before ++ trials id (start.run before) after := trace_append ..
    have hrest (c : Claim) (hc : s.Holds () c) : c.event.id ≠ id := by
      intro hid
      have hopen := (hready c hc hid).toOpen
      rw [htrials] at hopen
      exact hclosed hopen.of_append
    refine ⟨?_, hrest⟩
    cases hmore : trials id (start.run before) after with
    | nil => rw [htrials, hmore, List.append_nil]
    | cons x more =>
      -- There was room for each trial before it came to its end.
      have hstanding := hstanding hrest
      rw [htrials, hmore] at hstanding
      have hopen := hstanding.open_dropLast (by simp)
      rw [List.dropLast_append_of_ne_nil (by simp)] at hopen
      exact absurd hopen.of_append hclosed

/-- A worker that gives an event up after two failures. -/
def hasty : WorkerSettings := { retry := { maxAttempts := 2 } }

/-- A log with an event that was synced long ago. -/
def synced : List Event := [Store.succeeded .epoch (.ofMutation change 7 .epoch)]

/-- A cycle in which one event is dispatched and refused. -/
def refusedCycle : List (Move Unit) :=
  .begin () :: List.replicate 6 (.proceed () (.answered ⟨false, "refused"⟩) .middle)

/-- A run in which an event is refused twice. -/
def refusedTwice : List (Move Unit) :=
  .append change :: refusedCycle ++ [.advance ⟨90, 0, by decide⟩] ++ refusedCycle

/-- The event of that run as it is at the end. -/
def givenUp : Event := Store.failed 2 "refused" none (.ofMutation change 8 .epoch)

theorem retry_budget_refusedTwice :
    let start := alone synced .epoch ["payroll"] (.ofMillis 30000) hasty
    hasty.retry.Steady ∧ (Store.ofEvents synced).find? 8 = none ∧
      Obeys (Undisturbed 8) start refusedTwice ∧
        (start.run refusedTwice).store.find? 8 = some givenUp ∧
          hasty.retry.Standing (trials 8 start refusedTwice) givenUp := by
  intro start
  have hsteady : hasty.retry.Steady := by decide
  have hnew : (Store.ofEvents synced).find? 8 = none := by decide +kernel
  have hrun : Obeys (Undisturbed 8) start refusedTwice := by decide +kernel
  have hf : (start.run refusedTwice).store.find? 8 = some givenUp := by decide +kernel
  have hidle : ((start.run refusedTwice).member ()).program = none := by
    rw [← Option.not_isSome_iff_eq_none]
    decide +kernel
  obtain ⟨hstanding, -⟩ := retry_budget hsteady (by decide) (by decide) hnew hrun hf
  exact ⟨hsteady, hnew, hrun, hf, hstanding (.inl hidle)⟩

end Fleet

end Outbox
