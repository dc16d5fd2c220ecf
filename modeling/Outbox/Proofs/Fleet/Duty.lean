import Outbox.Proofs.Fleet.Invariant
import Outbox.Proofs.Store.Due

/-!
# What a worker has yet to do

A worker takes one event of its batch after the other. It claims the event, calls every
adapter for it and settles it, and does not come back to it in the same cycle. Its `Duty` is
what is left of that: the event that is under way, the places of the adapters that were called
for it, and the events that are yet to be claimed.

`serves_cycle` says that the cycle keeps to such a duty, whatever the surroundings answer, and
`turn_proceed` what a step of the worker does to the duty and to the log.
-/

namespace Outbox

/-- How far a worker is with its batch. -/
structure Duty where
  /-- The event under way. -/
  held : Option Event := none
  /-- The places of the adapters that were called for it. -/
  called : List Nat := []
  /-- The events that are yet to be claimed. -/
  rest : List Event := []

namespace Program

variable {α : Type} (adapters : List String) (limit : Span)

/-- The adapter that the program calls next, and the change with which it does. -/
def calling? : Program α → Option (Nat × SyncRequest)
  | .ask (.call place r) _ => some (place, r)
  | _ => none

theorem calling?_eq_some {p : Program α} {place : Nat} {r : SyncRequest} :
    p.calling? = some (place, r) ↔ ∃ next, p = .ask (.call place r) next := by
  cases p with
  | done a => simp [calling?]
  | ask q next => cases q <;> simp [calling?]

/-- What is asked for in the course of a duty: the next event is claimed and no other, adapters
are called for the event under way only, and that event is settled once every adapter was called.
If the worker is told to stop there is nothing left to do. -/
def course : Protocol Step.Answer Duty where
  May
    | t, .fetch => t.held = none
    | t, .claim e => t.held = none ∧ ∃ rest, t.rest = e :: rest
    | t, .call _ r => ∃ e, t.held = some e ∧ r = .ofEvent e
    | _, .await _ => True
    | t, .settle e _ => t.held = some e ∧ t.called = List.range adapters.length
  Leads
    | _, .fetch, a, t' => t' = { rest := a.toOption.getD [] }
    | t, .claim e, a, t' =>
      (a = .claimed ∧ t' = { held := some e, rest := t.rest.tail }) ∨ (a = .cancelled ∧ t' = {}) ∨
        (a ≠ .claimed ∧ a ≠ .cancelled ∧ t' = { rest := t.rest.tail })
    | t, .call place _, _, t' => t' = { t with called := t.called ++ [place] }
    | t, .await _, _, t' => t' = t
    | t, .settle .., _, t' => t' = { rest := t.rest }

/-- The program keeps to the duty. -/
abbrev Serves (post : α → Duty → Prop) (p : Program α) (t : Duty) : Prop :=
  p.Follows (course adapters) post t

/-- The calls of the adapters from a place on. -/
theorem serves_calls {e : Event} (names : List String) (first : Nat) (t : Duty)
    (hheld : t.held = some e) :
    Serves adapters
      (fun calls t' => calls = names.zipIdx first ∧
        t' = { t with called := t.called ++ List.range' first names.length })
      ((names.zipIdx first).mapM fun (name, place) => do
        return (name, ← dispatchHost.call place (.ofEvent e))) t := by
  induction names generalizing first t with
  | nil => exact ⟨rfl, by simp⟩
  | cons name names ih =>
    rw [List.zipIdx_cons, List.mapM_cons]
    refine ⟨⟨e, hheld, rfl⟩, ?_⟩
    rintro - _ rfl
    refine (ih (first + 1) { t with called := t.called ++ [first] } hheld).bind ?_
    rintro calls t' ⟨rfl, rfl⟩
    exact ⟨rfl, by simp [List.range'_succ]⟩

/-- The waits for calls leave the duty as it is. -/
theorem serves_waits (calls : List (String × Nat)) (t : Duty) :
    Serves adapters (fun _ t' => t' = t)
      (dispatchHost.awaitAll (AdapterOutcome.ofCall limit) calls) t := by
  have hwait : ∀ call : String × Nat, Dialogue.Keeps (course adapters) (· = t)
      (do return AdapterOutcome.ofCall limit call.1 (← dispatchHost.await call.2)) := by
    rintro call t' h
    refine ⟨trivial, ?_⟩
    rintro e _ rfl
    exact h
  exact Dialogue.keeps_mapM hwait calls t rfl

/-- A dispatch of the event under way calls every adapter for it. -/
theorem serves_dispatch {e : Event} (t : Duty) (hheld : t.held = some e) :
    Serves adapters
      (fun _ t' => t' = { t with called := t.called ++ List.range adapters.length })
      (dispatchHost.run adapters limit (.ofEvent e)) t := by
  have hfan : Serves adapters
      (fun _ t' => t' = { t with called := t.called ++ List.range' 0 adapters.length })
      (FanOut.run dispatchHost (AdapterOutcome.ofCall limit) adapters (.ofEvent e)) t := by
    refine (serves_calls adapters adapters 0 t hheld).bind ?_
    rintro calls t' ⟨rfl, rfl⟩
    exact serves_waits adapters limit _ _
  refine hfan.bind ?_
  rintro outcomes t' rfl
  rw [List.range_eq_range']
  rfl

/-- Working off events. -/
theorem serves_work (batch : List Event) (report : CycleReport) (called : List Nat) :
    Serves adapters (fun _ t => t.held = none) ((cycleHost adapters limit).work batch report)
      ⟨none, called, batch⟩ := by
  induction batch generalizing report called with
  | nil => rfl
  | cons e rest ih =>
    refine ⟨⟨rfl, rest, rfl⟩, ?_⟩
    rintro a t (⟨rfl, rfl⟩ | ⟨rfl, rfl⟩ | ⟨ha, hon, rfl⟩)
    · refine (serves_dispatch adapters limit _ rfl).bind ?_
      rintro d t rfl
      refine ⟨⟨rfl, rfl⟩, ?_⟩
      rintro d t rfl
      exact ih _ []
    · rfl
    · cases a with
      | cancelled => exact absurd rfl hon
      | conflict => exact ih _ []
      | failed error => exact ih _ []
      | claimed => exact absurd rfl ha

/-- The cycle keeps to its duty, whatever the surroundings answer. -/
theorem serves_cycle (t : Duty) (hfree : t.held = none) :
    Serves adapters (fun _ t => t.held = none) (cycle adapters limit) t := by
  refine ⟨hfree, ?_⟩
  rintro a t rfl
  cases a with
  | error e => rfl
  | ok batch => exact (serves_work adapters limit batch _ []).bind fun _ _ h => h

end Program

/-- A fetch gives the oldest work that is due, or nothing. -/
theorem Store.Ordered.fetch_batch {s : Store} (h : s.Ordered) (now : Instant) (limit : Nat) :
    let batch := (s.fetch now limit).1.toOption.getD []
    batch = [] ∨ s.IsOldestDue now limit batch := by
  unfold fetch
  split
  · exact .inl rfl
  · exact .inr (h.isOldestDue now limit)

namespace Fleet

variable {ι : Type} {s : Fleet ι} {i : ι} {m : Move ι} {w : WorkerSettings} {t : Duty}

/-- The adapter that a worker calls in its next step, and the change with which it does. -/
def calling? (s : Fleet ι) (i : ι) : Option (Nat × SyncRequest) :=
  (s.member i).program.bind Program.calling?

theorem calling?_eq_some {place : Nat} {r : SyncRequest} :
    s.calling? i = some (place, r) ↔
      ∃ next, (s.member i).program = some (.ask (.call place r) next) := by
  simp only [calling?, Option.bind_eq_some_iff, Program.calling?_eq_some]
  constructor
  · rintro ⟨p, hp, next, rfl⟩
    exact ⟨next, hp⟩
  · rintro ⟨next, hp⟩
    exact ⟨_, hp, next, rfl⟩

/-- The next step of the worker neither calls an adapter nor has an outcome written. -/
def Quiet (s : Fleet ι) (i : ι) : Prop := s.calling? i = none ∧ s.settling? i = none

theorem quiet_of_program {o : Option (Program (Except DeliveryError CycleReport))}
    (hp : (s.member i).program = o)
    (h : o.bind Program.calling? = none ∧ o.bind Program.settling? = none) : s.Quiet i := by
  rw [Quiet, calling?, settling?, hp]
  exact h

/-- A worker that calls an adapter does not have an outcome written. -/
theorem settling?_of_calling? {call : Nat × SyncRequest} (h : s.calling? i = some call) :
    s.settling? i = none := by
  obtain ⟨place, r⟩ := call
  obtain ⟨next, hp⟩ := calling?_eq_some.1 h
  rw [settling?, hp]
  rfl

/-- The worker has these settings and keeps to the duty, and the event under way is the one it
holds a claim of. -/
structure OnDuty (s : Fleet ι) (i : ι) (w : WorkerSettings) (t : Duty) : Prop where
  /-- The worker has these settings. -/
  settings : (s.member i).worker.settings = w
  /-- The rest of its cycle keeps to the duty. -/
  serves : ∀ p, (s.member i).program = some p → p.Serves s.adapters (fun _ t => t.held = none) t
  /-- The event under way is the one it holds a claim of. -/
  held : t.held = (s.member i).notes.claim.map Claim.event

/-- A worker that holds a claim has the event under way. -/
theorem OnDuty.held_of_holds (h : s.OnDuty i w t) {c : Claim} (hc : s.Holds i c) :
    t.held = some c.event := by
  rw [h.held, show (s.member i).notes.claim = some c from hc, Option.map_some]

/-- A worker that has an event under way holds a claim of it. -/
theorem OnDuty.holds_of_held (h : s.OnDuty i w t) {e : Event} (he : t.held = some e) :
    ∃ c, s.Holds i c ∧ c.event = e := by
  rw [h.held, Option.map_eq_some_iff] at he
  exact he

/-- An adapter is called for the event under way. -/
theorem OnDuty.calling (h : s.OnDuty i w t) {place : Nat} {r : SyncRequest}
    (hcalling : s.calling? i = some (place, r)) :
    ∃ c, s.Holds i c ∧ t.held = some c.event ∧ r = .ofEvent c.event := by
  obtain ⟨next, hp⟩ := calling?_eq_some.1 hcalling
  obtain ⟨⟨e, he, rfl⟩, -⟩ := h.serves _ hp
  obtain ⟨c, hc, rfl⟩ := h.holds_of_held he
  exact ⟨c, hc, he, rfl⟩

/-- An outcome is written for the event under way, when every adapter was called for it. -/
theorem OnDuty.settling (h : s.OnDuty i w t) {e : Event} {result : AttemptResult}
    (hsettling : s.settling? i = some (e, result)) :
    t.held = some e ∧ t.called = List.range s.adapters.length := by
  obtain ⟨next, hp⟩ := settling?_eq_some.1 hsettling
  exact (h.serves _ hp).1

theorem onDuty_start {now : Instant} {adapters : List String} {limit : Span}
    {settings : ι → WorkerSettings} :
    (start now adapters limit settings).OnDuty i (settings i) {} :=
  ⟨rfl, nofun, rfl⟩

/-- An outcome that is not recorded has broken the worker down, or its write was made to
fail. -/
theorem unwritten_cause {e : Event} {result : AttemptResult} {chance : Chance}
    (h : s.disposition i e result chance = .error .pastCalendar ∨
      ∃ why, s.disposition i e result chance = .ok (.unrecorded why)) :
    (∃ message, result = .failure message) ∧
        (s.member i).worker.settings.retry.decision e.nextFailure s.now chance = .pastCalendar ∨
      0 < s.store.outcomeFailures := by
  obtain ⟨hfailed, hd, -⟩ | ⟨hpos, -⟩ | ⟨d, g, houtcome, hsettle⟩ :=
    (s.member i).worker.settings.retry.settle_cases s.now e result s.store chance
  · exact .inl ⟨hfailed, hd⟩
  · exact .inr hpos
  · rw [disposition, hsettle] at h
    obtain h | ⟨why, h⟩ := h
    · cases h
    · exact absurd (Except.ok.inj h) (houtcome.recorded why)

variable [DecidableEq ι]

/-! ### The steps of others -/

/-- A worker that begins a cycle keeps to its duty. -/
theorem OnDuty.begin (h : s.OnDuty i w t) (horderly : (s.member i).Orderly s.adapters s.limit) :
    (s.step (.begin i)).OnDuty i w t := by
  have hbusy := horderly.busy
  have hsettings : (((s.step (.begin i))).member i).worker.settings = w := by
    rw [← h.settings]
    cases hb : (s.member i).worker.busy <;> simp [step, Member.begin, Worker.enter, hb]
  refine ⟨hsettings, ?_, by simpa [step] using h.held⟩
  cases hp : (s.member i).program with
  | some p =>
    rw [hp, Option.isSome_some] at hbusy
    have hserves := h.serves p hp
    simpa [step, Member.begin, Worker.enter, hbusy, hp] using hserves
  | none =>
    rw [hp, Option.isSome_none] at hbusy
    have hfree : t.held = none := by rw [h.held, horderly.idle hp, Option.map_none]
    have hserves := Program.serves_cycle s.adapters s.limit t hfree
    simpa [step, Member.begin, Worker.enter, hbusy] using hserves

/-- A step that is not the worker's own leaves its duty as it is. -/
theorem OnDuty.other (h : s.OnDuty i w t) (horderly : (s.member i).Orderly s.adapters s.limit)
    (hm : ∀ answer chance, m ≠ .proceed i answer chance) : (s.step m).OnDuty i w t := by
  have hsame (hw : ((s.step m).member i).worker.settings = (s.member i).worker.settings)
      (hp : ((s.step m).member i).program = (s.member i).program)
      (hn : ((s.step m).member i).notes = (s.member i).notes) : (s.step m).OnDuty i w t := by
    refine ⟨hw.trans h.settings, fun p hp' => ?_, by rw [hn]; exact h.held⟩
    rw [(s.frame_step m).2.1]
    exact h.serves p (hp ▸ hp')
  cases m with
  | retryOne id =>
    obtain ⟨f, -, -, hr⟩ | ⟨why, hr⟩ := s.store.retryOne_cases s.now id <;>
      exact hsame (by simp only [step, hr]) (by simp only [step, hr]) (by simp only [step, hr])
  | cancel j =>
    by_cases hj : i = j
    · subst hj
      exact hsame (by simp [step, Worker.cancel]) (by simp [step]) (by simp [step])
    · have hmember : (s.step (.cancel j)).member i = s.member i := member_setMember_of_ne hj ..
      exact hsame (by rw [hmember]) (by rw [hmember]) (by rw [hmember])
  | begin j =>
    by_cases hj : i = j
    · subst hj
      exact h.begin horderly
    · have hmember : (s.step (.begin j)).member i = s.member i := member_setMember_of_ne hj ..
      exact hsame (by rw [hmember]) (by rw [hmember]) (by rw [hmember])
  | proceed j answer chance =>
    have hj : i ≠ j := fun hj => hm answer chance (hj ▸ rfl)
    have hmember := member_proceed_of_ne (s := s) hj answer chance
    exact hsame (by rw [hmember]) (by rw [hmember]) (by rw [hmember])
  | _ => exact hsame rfl rfl rfl

/-! ### The steps of the worker -/

/-- What the step of a worker does to its duty and to the log. -/
inductive Turn (s : Fleet ι) (i : ι) (m : Move ι) (chance : Chance) : Duty → Duty → Prop where
  /-- Nothing. -/
  | stayed {t : Duty} (hquiet : s.Quiet i)
      (hstore : ∀ id, (s.step m).store.find? id = s.store.find? id) :
      Turn s i m chance t t
  /-- It has fetched a batch. -/
  | fetched {called : List Nat} {rest batch : List Event} (hquiet : s.Quiet i)
      (hbatch : batch = [] ∨ ∃ limit, s.store.IsOldestDue s.now limit batch)
      (hstore : ∀ id, (s.step m).store.find? id = s.store.find? id) :
      Turn s i m chance ⟨none, called, rest⟩ { rest := batch }
  /-- It was told to stop. -/
  | stopped {e : Event} {called : List Nat} {rest : List Event} (hquiet : s.Quiet i)
      (hstore : ∀ id, (s.step m).store.find? id = s.store.find? id) :
      Turn s i m chance ⟨none, called, e :: rest⟩ {}
  /-- It has not won a claim of the next event, as there is none to be won. -/
  | passed {e : Event} {called : List Nat} {rest : List Event} (hquiet : s.Quiet i)
      (hlost : s.store.claimable s.now e.id e.status = false)
      (hstore : ∀ id, (s.step m).store.find? id = s.store.find? id) :
      Turn s i m chance ⟨none, called, e :: rest⟩ { rest }
  /-- It has won a claim of the next event. -/
  | claimed {c : Claim} {called : List Nat} {rest : List Event} (hquiet : s.Quiet i)
      (hwins : s.Wins m i c)
      (hstore : ∀ id, (s.step m).store.find? id =
        if id = c.event.id then (s.store.find? id).map (Store.claimed c.leaseEnd)
        else s.store.find? id) :
      Turn s i m chance ⟨none, called, c.event :: rest⟩ { held := some c.event, rest }
  /-- It has called an adapter. -/
  | called {e : Event} {place : Nat} {called : List Nat} {rest : List Event}
      (hcalling : s.calling? i = some (place, .ofEvent e))
      (hstore : ∀ id, (s.step m).store.find? id = s.store.find? id) :
      Turn s i m chance ⟨some e, called, rest⟩ ⟨some e, called ++ [place], rest⟩
  /-- It has had an outcome written. -/
  | settled {e : Event} {result : AttemptResult} {d : Disposition} {g : Event → Event}
      {rest : List Event} (hsettling : s.settling? i = some (e, result))
      (houtcome : Outcome (s.member i).worker.settings.retry s.now chance e result d g)
      (hstore : ∀ id, (s.step m).store.find? id =
        if id = e.id then (s.store.find? id).map g else s.store.find? id) :
      Turn s i m chance ⟨some e, List.range s.adapters.length, rest⟩ { rest }
  /-- It has failed to have an outcome written, since it broke down or the write was made to
  fail. -/
  | unwritten {e : Event} {result : AttemptResult} {rest : List Event}
      (hsettling : s.settling? i = some (e, result))
      (hwhy : (∃ message, result = .failure message) ∧
          (s.member i).worker.settings.retry.decision e.nextFailure s.now chance = .pastCalendar ∨
        0 < s.store.outcomeFailures)
      (hstore : ∀ id, (s.step m).store.find? id = s.store.find? id) :
      Turn s i m chance ⟨some e, List.range s.adapters.length, rest⟩ { rest }

/-- A worker keeps to a duty if what it goes on with does. -/
theorem OnDuty.goOn (h : s.OnDuty i w t) {s' : Fleet ι} {t' : Duty} {n : Notes}
    {q : Program (Except DeliveryError CycleReport)}
    (hstep : s.step m = s'.setMember i ((s.member i).goOn q n))
    (hadapters : s'.adapters = s.adapters)
    (hserves : q.Serves s.adapters (fun _ t => t.held = none) t')
    (hheld : t'.held = n.claim.map Claim.event) : (s.step m).OnDuty i w t' := by
  rw [hstep]
  refine ⟨?_, ?_, by simpa using hheld⟩
  · rw [member_setMember_self]
    exact h.settings
  · rw [member_setMember_self, adapters_setMember, hadapters]
    rintro p ⟨⟩
    exact hserves

/-- A worker whose cycle has ended keeps to any duty. -/
theorem OnDuty.ended (h : s.OnDuty i w t) {s' : Fleet ι} {t' : Duty} {n : Member}
    (hstep : s.step m = s'.setMember i n)
    (hsettings : n.worker.settings = (s.member i).worker.settings) (hp : n.program = none)
    (hheld : t'.held = n.notes.claim.map Claim.event) : (s.step m).OnDuty i w t' := by
  rw [hstep]
  refine ⟨?_, ?_, by simpa using hheld⟩
  · rw [member_setMember_self, hsettings, h.settings]
  · rw [member_setMember_self, hp]
    exact nofun

/-- A step that fetches a batch. -/
theorem OnDuty.turn_fetch {next : _ → Program (Except DeliveryError CycleReport)}
    (h : s.OnDuty i w t) (hs : s.store.Ordered)
    (hp : (s.member i).program = some (.ask .fetch next)) (answer : CallEnd SyncOutcome)
    (chance : Chance) :
    ∃ t', (s.step (.proceed i answer chance)).OnDuty i w t' ∧
      s.Turn i (.proceed i answer chance) chance t t' := by
  obtain ⟨held, called, rest⟩ := t
  obtain ⟨rfl, hnext⟩ := h.serves _ hp
  obtain ⟨a, store, hfetch, hstep⟩ := step_fetch hp answer chance
  obtain ⟨hevents, -, -⟩ := s.store.fetch_cases s.now (s.member i).worker.settings.batchSize
  have hbatch := hs.fetch_batch s.now (s.member i).worker.settings.batchSize
  rw [hfetch] at hevents hbatch
  have hquiet : s.Quiet i := quiet_of_program hp ⟨rfl, rfl⟩
  refine ⟨_, h.goOn hstep rfl (hnext a _ rfl) h.held,
    .fetched hquiet (hbatch.imp_right fun h => ⟨_, h⟩) fun id => ?_⟩
  rw [hstep]
  exact Store.find?_congr hevents id

/-- A step that tries to claim the next event. -/
theorem OnDuty.turn_claim {e : Event} {next : _ → Program (Except DeliveryError CycleReport)}
    (h : s.OnDuty i w t) (hp : (s.member i).program = some (.ask (.claim e) next))
    (answer : CallEnd SyncOutcome) (chance : Chance) :
    ∃ t', (s.step (.proceed i answer chance)).OnDuty i w t' ∧
      s.Turn i (.proceed i answer chance) chance t t' := by
  obtain ⟨held, called, rest⟩ := t
  obtain ⟨⟨rfl, rest, rfl⟩, hnext⟩ := h.serves _ hp
  have hquiet : s.Quiet i := quiet_of_program hp ⟨rfl, rfl⟩
  obtain ⟨c, rfl, hwins, hstep⟩ | ⟨a, ha, hwhy, hstep⟩ := step_claim hp answer chance
  · have hserves := hnext .claimed _ (.inl ⟨rfl, rfl⟩)
    refine ⟨_, h.goOn hstep rfl hserves rfl, .claimed hquiet hwins fun id => ?_⟩
    rw [hstep, store_setMember]
    exact Store.find?_modify (Store.id_claimed _) id
  · have hstore (id : Int) :
        (s.step (.proceed i answer chance)).store.find? id = s.store.find? id := by
      rw [hstep, store_setMember]
    by_cases hcancelled : a = .cancelled
    · subst hcancelled
      have hserves := hnext .cancelled _ (.inr (.inl ⟨rfl, rfl⟩))
      exact ⟨_, h.goOn hstep rfl hserves h.held, .stopped hquiet hstore⟩
    · have hserves := hnext a _ (.inr (.inr ⟨ha, hcancelled, rfl⟩))
      exact ⟨_, h.goOn hstep rfl hserves h.held,
        .passed hquiet (hwhy.resolve_left hcancelled) hstore⟩

/-- A step that has the outcome of the event under way written. -/
theorem OnDuty.turn_settle {e : Event} {result : AttemptResult}
    {next : _ → Program (Except DeliveryError CycleReport)} (h : s.OnDuty i w t)
    (hp : (s.member i).program = some (.ask (.settle e result) next))
    (answer : CallEnd SyncOutcome) (chance : Chance) :
    ∃ t', (s.step (.proceed i answer chance)).OnDuty i w t' ∧
      s.Turn i (.proceed i answer chance) chance t t' := by
  obtain ⟨held, called, rest⟩ := t
  obtain ⟨⟨rfl, rfl⟩, hnext⟩ := h.serves _ hp
  have hsettling : s.settling? i = some (e, result) := settling?_eq_some.2 ⟨next, hp⟩
  obtain ⟨hd, hstep⟩ | ⟨why, hd, hstep⟩ | ⟨d, g, houtcome, -, hstep⟩ :=
    step_settle hp answer chance
  · have hwhy := unwritten_cause (.inl hd)
    refine ⟨_, h.ended hstep rfl rfl rfl, .unwritten hsettling hwhy fun id => ?_⟩
    rw [hstep, store_setMember]
  · have hwhy := unwritten_cause (.inr ⟨why, hd⟩)
    refine ⟨_, h.goOn hstep rfl (hnext _ _ rfl) rfl, .unwritten hsettling hwhy fun id => ?_⟩
    rw [hstep, store_setMember]
    rfl
  · refine ⟨_, h.goOn hstep rfl (hnext d _ rfl) rfl, .settled hsettling houtcome fun id => ?_⟩
    rw [hstep, store_setMember]
    exact Store.find?_modify houtcome.id_eq id

/-- The step of a worker takes a turn of its duty. -/
theorem turn_proceed (h : s.OnDuty i w t) (hs : s.store.Ordered) (answer : CallEnd SyncOutcome)
    (chance : Chance) :
    ∃ t', (s.step (.proceed i answer chance)).OnDuty i w t' ∧
      s.Turn i (.proceed i answer chance) chance t t' := by
  cases hp : (s.member i).program with
  | none =>
    have hquiet : s.Quiet i := quiet_of_program hp ⟨rfl, rfl⟩
    have hstep := step_idle hp answer chance
    exact ⟨t, by rwa [hstep], .stayed hquiet fun id => by rw [hstep]⟩
  | some p =>
    cases p with
    | done result =>
      have hstep := step_done hp answer chance
      have hsettings : ((s.member i).finish result).worker.settings =
          (s.member i).worker.settings := by cases result <;> rfl
      have hquiet : s.Quiet i := quiet_of_program hp ⟨rfl, rfl⟩
      refine ⟨t, h.ended hstep hsettings rfl h.held, .stayed hquiet fun id => ?_⟩
      rw [hstep, store_setMember]
    | ask q next =>
      cases q with
      | fetch => exact h.turn_fetch hs hp answer chance
      | claim e => exact h.turn_claim hp answer chance
      | settle e result => exact h.turn_settle hp answer chance
      | call place r =>
        obtain ⟨held, called, rest⟩ := t
        obtain ⟨⟨e, rfl, rfl⟩, hnext⟩ := h.serves _ hp
        have hstep := step_call hp answer chance
        have hcalling : s.calling? i = some (place, .ofEvent e) := calling?_eq_some.2 ⟨next, hp⟩
        refine ⟨_, h.goOn hstep rfl (hnext () _ rfl) h.held, .called hcalling fun id => ?_⟩
        rw [hstep, store_setMember]
      | await place =>
        obtain ⟨-, hnext⟩ := h.serves _ hp
        have hstep := step_await hp answer chance
        have hquiet : s.Quiet i := quiet_of_program hp ⟨rfl, rfl⟩
        refine ⟨t, h.goOn hstep rfl (hnext answer _ rfl) h.held, .stayed hquiet fun id => ?_⟩
        rw [hstep, store_setMember]

end Fleet

end Outbox
