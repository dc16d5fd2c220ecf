import Outbox.Proofs.Fleet.Orderly
import Outbox.Proofs.Worker.Outcome

/-!
# What one step does

Everything that a step of a fleet can do is said here once, from two sides. `step_effect`
tells what becomes of the event with a given number and of its owner: they stay as they are,
or the event is appended, claimed, settled or reset. `step_noted` tells what becomes of the
record of a worker, and with it where a claim comes from that the worker holds. Laws about
whole runs take it from there and open no operation of the event log any more.
-/

namespace Outbox

namespace Fleet

variable {ι : Type} [DecidableEq ι] {s : Fleet ι} {i : ι}

/-- The step wins the worker a claim: it asked for it, and found the event due and in the
status with which it was fetched. -/
structure Wins (s : Fleet ι) (m : Move ι) (i : ι) (c : Claim) : Prop where
  /-- The worker asked for the claim. -/
  asked : ∃ answer chance next, m = .proceed i answer chance ∧
    (s.member i).program = some (.ask (.claim c.event) next)
  /-- The event is as it was found. -/
  found : s.store.find? c.event.id = some c.found
  /-- Its status is the one with which it was fetched. -/
  status_eq : c.found.status = c.event.status
  /-- It is due. -/
  due : c.found.isDue s.now = true
  /-- The claim lasts as long as the worker's claims do. -/
  leaseEnd_eq : c.leaseEnd = s.leaseEnd i
  /-- Afterwards the event is under the claim. -/
  stored : (s.step m).store.find? c.event.id = some (Store.claimed c.leaseEnd c.found)
  /-- And the worker is its owner. -/
  owned : (s.step m).owner c.event.id = some i

/-- What comes of it if a worker has an outcome written now. -/
def disposition (s : Fleet ι) (i : ι) (e : Event) (result : AttemptResult) (chance : Chance) :
    Except Breakdown Disposition :=
  ((s.member i).worker.settings.retry.settle s.now e result s.store chance).1

/-- The step records an outcome of an event: the worker has it written, and neither breaks
down nor fails to. -/
def Records (s : Fleet ι) (m : Move ι) (i : ι) (e : Event) (result : AttemptResult) : Prop :=
  ∃ answer chance d, m = .proceed i answer chance ∧ s.settling? i = some (e, result) ∧
    s.disposition i e result chance = .ok d ∧ ∀ why, d ≠ .unrecorded why

/-! ### The steps of a worker -/

/-- A worker without a cycle in progress does nothing. -/
theorem step_idle (hp : (s.member i).program = none) (answer : CallEnd SyncOutcome)
    (chance : Chance) : s.step (.proceed i answer chance) = s := by
  simp only [step, proceed, hp]

/-- A worker that has come to a result ends its cycle. -/
theorem step_done {result : Except DeliveryError CycleReport}
    (hp : (s.member i).program = some (.done result)) (answer : CallEnd SyncOutcome)
    (chance : Chance) :
    s.step (.proceed i answer chance) = s.setMember i ((s.member i).finish result) := by
  simp only [step, proceed, hp]

theorem step_fetch {next : _ → Program (Except DeliveryError CycleReport)}
    (hp : (s.member i).program = some (.ask .fetch next)) (answer : CallEnd SyncOutcome)
    (chance : Chance) :
    ∃ a store, s.store.fetch s.now (s.member i).worker.settings.batchSize = (a, store) ∧
      s.step (.proceed i answer chance) = { s with store := store }.setMember i
        ((s.member i).goOn (next a) ((s.member i).notes.fetched a)) := by
  cases hfetch : s.store.fetch s.now (s.member i).worker.settings.batchSize with
  | mk a store => exact ⟨a, store, rfl, by simp only [step, proceed, hp, hfetch]⟩

theorem step_call {place : Nat} {r : SyncRequest}
    {next : _ → Program (Except DeliveryError CycleReport)}
    (hp : (s.member i).program = some (.ask (.call place r) next)) (answer : CallEnd SyncOutcome)
    (chance : Chance) :
    s.step (.proceed i answer chance) =
      s.setMember i ((s.member i).goOn (next ()) ((s.member i).notes.tell [.call place r])) := by
  simp only [step, proceed, hp]

theorem step_await {place : Nat} {next : _ → Program (Except DeliveryError CycleReport)}
    (hp : (s.member i).program = some (.ask (.await place) next)) (answer : CallEnd SyncOutcome)
    (chance : Chance) :
    s.step (.proceed i answer chance) = s.setMember i
      ((s.member i).goOn (next answer) ((s.member i).notes.tell [.answer place answer])) := by
  simp only [step, proceed, hp]

/-- A worker that tries to claim an event wins the claim and becomes the owner, or nothing
happens to the log: it was told to stop, or there is no such claim to be won. -/
theorem step_claim {e : Event} {next : ClaimEnd → Program (Except DeliveryError CycleReport)}
    (hp : (s.member i).program = some (.ask (.claim e) next)) (answer : CallEnd SyncOutcome)
    (chance : Chance) :
    (∃ c, c.event = e ∧ s.Wins (.proceed i answer chance) i c ∧
        s.step (.proceed i answer chance) =
          { s with
            store := s.store.modify e.id (Store.claimed c.leaseEnd)
            owner := Function.update s.owner e.id (some i) }.setMember i
            ((s.member i).goOn (next .claimed) { (s.member i).notes with claim := some c })) ∨
      ∃ a, a ≠ .claimed ∧
        (a = .cancelled ∨ s.store.claimable s.now e.id e.status = false) ∧
        s.step (.proceed i answer chance) =
          s.setMember i ((s.member i).goOn (next a) (s.member i).notes) := by
  have hstep : s.step (.proceed i answer chance) = s.claim i e next := by
    simp only [step, proceed, hp]
  obtain ⟨f, hf, hstatus, hdue, h⟩ | ⟨a, ha, hwhy, h⟩ := (s.member i).worker.settings.claim_cases
    s.now (s.member i).worker.cancelled e s.store
  · have hclaim : s.claim i e next =
        { s with
          store := s.store.modify e.id (Store.claimed (s.leaseEnd i))
          owner := Function.update s.owner e.id (some i) }.setMember i
          ((s.member i).goOn (next .claimed)
            { (s.member i).notes with claim := some ⟨e, f, s.leaseEnd i⟩ }) := by
      simp only [claim, h, hf, Option.getD_some]
      rfl
    rw [← hstep] at hclaim
    refine .inl ⟨⟨e, f, s.leaseEnd i⟩, rfl, ?_, hclaim⟩
    refine ⟨⟨answer, chance, next, rfl, hp⟩, hf, hstatus, hdue, rfl, ?_, ?_⟩
    · simp [hclaim, Store.find?_modify (Store.id_claimed _), hf]
    · simp [hclaim]
  · refine .inr ⟨a, ha, hwhy, ?_⟩
    rw [hstep]
    cases a with
    | claimed => exact absurd rfl ha
    | cancelled | conflict | failed => simp only [claim, h]

/-- A worker that has an outcome written breaks down, or fails to, or changes the event, which
then is nobody's. -/
theorem step_settle {e : Event} {result : AttemptResult}
    {next : Disposition → Program (Except DeliveryError CycleReport)}
    (hp : (s.member i).program = some (.ask (.settle e result) next)) (answer : CallEnd SyncOutcome)
    (chance : Chance) :
    (s.disposition i e result chance = .error .pastCalendar ∧
        s.step (.proceed i answer chance) = s.setMember i (s.member i).breakDown) ∨
      (∃ why, s.disposition i e result chance = .ok (.unrecorded why) ∧
        s.step (.proceed i answer chance) =
          { s with
            store := { s.store with outcomeFailures := s.store.outcomeFailures - 1 } }.setMember i
            ((s.member i).goOn (next (.unrecorded why)) (s.member i).notes.release)) ∨
      ∃ d g, Outcome (s.member i).worker.settings.retry s.now chance e result d g ∧
        s.disposition i e result chance = .ok d ∧
        s.step (.proceed i answer chance) =
          { s with
            store := s.store.modify e.id g
            owner := Function.update s.owner e.id none }.setMember i
            ((s.member i).goOn (next d) (s.member i).notes.release) := by
  have hstep : s.step (.proceed i answer chance) = s.settle i e result chance next := by
    simp only [step, proceed, hp]
  rw [hstep, disposition]
  obtain ⟨-, -, h⟩ | ⟨-, why, h⟩ | ⟨d, g, hg, h⟩ :=
    (s.member i).worker.settings.retry.settle_cases s.now e result s.store chance
  · exact .inl ⟨by rw [h], by simp only [settle, h]⟩
  · exact .inr (.inl ⟨why, by rw [h], by simp only [settle, h]⟩)
  · refine .inr (.inr ⟨d, g, hg, by rw [h], ?_⟩)
    cases hg <;> simp only [settle, h]

/-- A recorded outcome changes the event, which then is nobody's. -/
theorem Records.step_eq {m : Move ι} {e : Event} {result : AttemptResult}
    (h : s.Records m i e result) :
    ∃ chance d g n, Outcome (s.member i).worker.settings.retry s.now chance e result d g ∧
      s.step m =
        { s with
          store := s.store.modify e.id g
          owner := Function.update s.owner e.id none }.setMember i n := by
  obtain ⟨answer, chance, d, rfl, hsettling, hd, hrecorded⟩ := h
  obtain ⟨next, hp⟩ := settling?_eq_some.1 hsettling
  obtain ⟨hd', -⟩ | ⟨why, hd', -⟩ | ⟨d', g, hg, -, hstep⟩ := step_settle hp answer chance
  · simp [hd'] at hd
  · rw [hd', Except.ok.injEq] at hd
    exact absurd hd.symm (hrecorded why)
  · exact ⟨chance, d', g, _, hg, hstep⟩

/-- The step of a worker leaves the events and the owners alone, or wins a claim, or records an
outcome. -/
theorem step_proceed (s : Fleet ι) (i : ι) (answer : CallEnd SyncOutcome) (chance : Chance) :
    (∃ store m, store.events = s.store.events ∧ store.nextId = s.store.nextId ∧
        s.step (.proceed i answer chance) = { s with store := store }.setMember i m) ∨
      (∃ c m, s.Wins (.proceed i answer chance) i c ∧ m.notes.claim = some c ∧
        s.step (.proceed i answer chance) =
          { s with
            store := s.store.modify c.event.id (Store.claimed c.leaseEnd)
            owner := Function.update s.owner c.event.id (some i) }.setMember i m) ∨
      ∃ e result d g m, Outcome (s.member i).worker.settings.retry s.now chance e result d g ∧
        s.Records (.proceed i answer chance) i e result ∧ m.notes.claim = none ∧
          s.step (.proceed i answer chance) =
            { s with
              store := s.store.modify e.id g
              owner := Function.update s.owner e.id none }.setMember i m := by
  cases hp : (s.member i).program with
  | none => exact .inl ⟨s.store, s.member i, rfl, rfl, by simp [step_idle hp]⟩
  | some p =>
    cases p with
    | done result => exact .inl ⟨s.store, _, rfl, rfl, step_done hp answer chance⟩
    | ask q next =>
      cases q with
      | call place r => exact .inl ⟨s.store, _, rfl, rfl, step_call hp answer chance⟩
      | await place => exact .inl ⟨s.store, _, rfl, rfl, step_await hp answer chance⟩
      | fetch =>
        obtain ⟨a, store, hfetch, h⟩ := step_fetch hp answer chance
        obtain ⟨hevents, hnext, -⟩ :=
          s.store.fetch_cases s.now (s.member i).worker.settings.batchSize
        rw [hfetch] at hevents hnext
        exact .inl ⟨store, _, hevents, hnext, h⟩
      | claim e =>
        obtain ⟨c, rfl, hwins, h⟩ | ⟨a, -, -, h⟩ := step_claim hp answer chance
        · exact .inr (.inl ⟨c, _, hwins, rfl, h⟩)
        · exact .inl ⟨s.store, _, rfl, rfl, h⟩
      | settle e result =>
        obtain ⟨-, h⟩ | ⟨why, -, h⟩ | ⟨d, g, houtcome, hd, h⟩ := step_settle hp answer chance
        · exact .inl ⟨s.store, _, rfl, rfl, h⟩
        · refine .inl ⟨_, _, ?_, ?_, h⟩ <;> rfl
        · have hsettling : s.settling? i = some (e, result) := settling?_eq_some.2 ⟨next, hp⟩
          have hrecords : s.Records (.proceed i answer chance) i e result :=
            ⟨answer, chance, d, rfl, hsettling, hd, houtcome.recorded⟩
          exact .inr (.inr ⟨e, result, d, g, _, houtcome, hrecords, rfl, h⟩)

/-! ### The event with a given number -/

/-- What a step does to the event with a given number and to its owner. -/
inductive Effect (s : Fleet ι) (m : Move ι) (id : Int) : Prop where
  /-- Nothing. -/
  | kept (hfind : (s.step m).store.find? id = s.store.find? id)
      (howner : (s.step m).owner id = s.owner id)
  /-- The event is appended. -/
  | appended (change : Mutation) (hfree : s.store.find? id = none)
      (hfind : (s.step m).store.find? id = some (.ofMutation change s.store.nextId s.now))
      (howner : (s.step m).owner id = s.owner id)
  /-- A worker wins a claim of the event. -/
  | claimed {i : ι} {c : Claim} (hwins : s.Wins m i c) (hid : c.event.id = id)
      (hholds : (s.step m).Holds i c)
  /-- A worker records an outcome of the event, which then is nobody's. -/
  | settled {i : ι} {e : Event} {result : AttemptResult} {chance : Chance} {d : Disposition}
      {g : Event → Event} (hrecords : s.Records m i e result) (hid : e.id = id)
      (houtcome : Outcome (s.member i).worker.settings.retry s.now chance e result d g)
      (hfind : (s.step m).store.find? id = (s.store.find? id).map g)
      (howner : (s.step m).owner id = none)
      (hfree : ((s.step m).member i).notes.claim = none)
  /-- An operator resets the event, which no worker holds under a claim that lasts. -/
  | reset {f : Event} (hm : m.IsOperator) (hf : s.store.find? id = some f)
      (hidle : f.status = .processing → f.claimExpired s.now = true)
      (hfind : (s.step m).store.find? id = some f.reset)
      (howner : (s.step m).owner id = none)

/-- A reset of all events that a test selects, none of which a worker holds. -/
theorem effect_reset (m : Move ι) (select : Event → Bool) (hm : m.IsOperator)
    (hselect : ∀ f, select f = true → f.status ≠ .processing)
    (hstep : s.step m =
      { s with store := (s.store.resetWhere select).2, owner := s.disown select })
    (id : Int) : s.Effect m id := by
  have hfind := s.store.find?_resetWhere select id
  cases hf : s.store.find? id with
  | none =>
    refine .kept ?_ ?_
    · simp [hstep, hfind, hf]
    · simp [hstep, disown, hf]
  | some f =>
    cases hs : select f with
    | false =>
      refine .kept ?_ ?_
      · simp [hstep, hfind, hf, hs]
      · simp [hstep, disown, hf, hs]
    | true =>
      refine .reset hm hf (fun h => absurd h (hselect f hs)) ?_ ?_
      · simp [hstep, hfind, hf, hs]
      · simp [hstep, disown, hf, hs]

/-- What the step of a worker does to the event with a given number. -/
theorem effect_proceed (s : Fleet ι) (i : ι) (answer : CallEnd SyncOutcome) (chance : Chance)
    (id : Int) : s.Effect (.proceed i answer chance) id := by
  obtain ⟨store, m, hevents, -, h⟩ | ⟨c, m, hwins, hclaim, h⟩ |
    ⟨e, result, d, g, m, houtcome, hrecords, hfree, h⟩ := s.step_proceed i answer chance
  · refine .kept ?_ (by simp [h])
    rw [h, store_setMember]
    exact Store.find?_congr hevents id
  · by_cases hid : c.event.id = id
    · exact .claimed hwins hid (by simp [h, Holds, hclaim])
    · refine .kept ?_ ?_
      · simp [h, Store.find?_modify (Store.id_claimed _), Ne.symm hid]
      · simp [h, Function.update_of_ne (Ne.symm hid)]
  · by_cases hid : e.id = id
    · subst hid
      refine .settled hrecords rfl houtcome ?_ ?_ ?_
      · simp [h, Store.find?_modify houtcome.id_eq]
      · simp [h]
      · simp [h, hfree]
    · refine .kept ?_ ?_
      · simp [h, Store.find?_modify houtcome.id_eq, Ne.symm hid]
      · simp [h, Function.update_of_ne (Ne.symm hid)]

/-- What a step does to the event with a given number. -/
theorem step_effect (h : s.store.Ordered) (m : Move ι) (id : Int) : s.Effect m id := by
  cases m with
  | advance t => exact .kept rfl rfl
  | append change =>
    rcases h.find?_append s.now change id with hfind | ⟨hfree, hfind⟩
    · exact .kept hfind rfl
    · exact .appended change hfree hfind rfl
  | retryOne k =>
    obtain ⟨f, hf, hidle, hr⟩ | ⟨why, hr⟩ := s.store.retryOne_cases s.now k
    · by_cases hid : id = k
      · subst hid
        refine .reset trivial hf hidle ?_ ?_
        · simp [step, hr, Store.find?_modify Event.id_reset, hf]
        · simp [step, hr]
      · refine .kept ?_ ?_
        · simp [step, hr, Store.find?_modify Event.id_reset, hid]
        · simp [step, hr, Function.update_of_ne hid]
    · exact .kept (by simp [step, hr]) (by simp [step, hr])
  | retryAllDead =>
    refine effect_reset .retryAllDead (fun e => e.status == .dead) trivial ?_ rfl id
    intro f hf
    simp [eq_of_beq hf]
  | replay f hreplay =>
    refine effect_reset (.replay f hreplay) f.selects trivial ?_ rfl id
    intro e he hs
    have hstatus : e.status.isReplayable = true := hreplay _ (ReplayFilter.status_of_selects he)
    simp [hs, Status.isReplayable] at hstatus
  | failAppends count => exact .kept rfl rfl
  | failOutcomes count => exact .kept rfl rfl
  | failFetch why => exact .kept rfl rfl
  | cancel i => exact .kept rfl rfl
  | begin i => exact .kept rfl rfl
  | proceed i answer chance => exact s.effect_proceed i answer chance id

/-- Where an event comes from that is in the log after a step. -/
inductive Origin (s : Fleet ι) (m : Move ι) (f' : Event) : Prop where
  /-- It was there before. -/
  | kept (hf : s.store.find? f'.id = some f')
  /-- It is appended. -/
  | appended (change : Mutation) (heq : f' = .ofMutation change s.store.nextId s.now)
  /-- It is claimed. -/
  | claimed {i : ι} {c : Claim} (hwins : s.Wins m i c)
      (heq : f' = Store.claimed c.leaseEnd c.found)
  /-- An outcome of it is recorded. -/
  | settled {i : ι} {e f : Event} {result : AttemptResult} {chance : Chance} {d : Disposition}
      {g : Event → Event} (hrecords : s.Records m i e result)
      (houtcome : Outcome (s.member i).worker.settings.retry s.now chance e result d g)
      (hf : s.store.find? e.id = some f) (heq : f' = g f)
  /-- An operator has reset it. -/
  | reset {f : Event} (hm : m.IsOperator) (hf : s.store.find? f.id = some f)
      (hidle : f.status = .processing → f.claimExpired s.now = true) (heq : f' = f.reset)

/-- An event that is in the log after a step has an origin before it. -/
theorem origin_of_find? (h : s.store.Ordered) {m : Move ι} {id : Int} {f' : Event}
    (hf' : (s.step m).store.find? id = some f') : s.Origin m f' := by
  cases step_effect h m id with
  | kept hfind howner =>
    rw [hfind] at hf'
    exact .kept (by rwa [Store.id_of_find? hf'])
  | appended change hfree hfind howner =>
    rw [hfind, Option.some.injEq] at hf'
    exact .appended change hf'.symm
  | claimed hwins hid hholds =>
    subst hid
    rw [hwins.stored, Option.some.injEq] at hf'
    exact .claimed hwins hf'.symm
  | settled hrecords hid houtcome hfind howner hfree =>
    subst hid
    rw [hfind] at hf'
    obtain ⟨f, hf, rfl⟩ := Option.map_eq_some_iff.1 hf'
    exact .settled hrecords houtcome hf rfl
  | reset hm hf hidle hfind howner =>
    rw [hfind, Option.some.injEq] at hf'
    exact .reset hm (by rwa [Store.id_of_find? hf]) hidle hf'.symm

/-! ### The record of a worker -/

/-- What a step does to the record of a worker. -/
inductive Noted (s : Fleet ι) (m : Move ι) (j : ι) : Prop where
  /-- Nothing. -/
  | kept (h : ((s.step m).member j).notes = (s.member j).notes)
  /-- The worker has fetched a batch from the log, or failed to. -/
  | fetched (a : Except StoreError (List Event))
      (hmem : ∀ e ∈ a.toOption.getD [], e ∈ s.store.events)
      (h : ((s.step m).member j).notes = (s.member j).notes.fetched a)
  /-- It has won a claim. -/
  | won (c : Claim) (hwins : s.Wins m j c)
      (h : ((s.step m).member j).notes = { (s.member j).notes with claim := some c })
  /-- Something went on between it and the adapters. -/
  | told (xs : List Exchange) (h : ((s.step m).member j).notes = (s.member j).notes.tell xs)
  /-- It has settled the outcome of its claim. -/
  | released (h : ((s.step m).member j).notes = (s.member j).notes.release)

/-- The step of a worker leaves the others alone. -/
theorem member_proceed_of_ne {j : ι} (hj : j ≠ i) (answer : CallEnd SyncOutcome)
    (chance : Chance) : (s.step (.proceed i answer chance)).member j = s.member j := by
  obtain ⟨store, m, -, -, h⟩ | ⟨c, m, -, -, h⟩ | ⟨e, result, d, g, m, -, -, -, h⟩ :=
    s.step_proceed i answer chance <;>
    rw [h, member_setMember_of_ne hj]

/-- What its own step does to the record of a worker. -/
theorem noted_proceed (s : Fleet ι) (i : ι) (answer : CallEnd SyncOutcome) (chance : Chance) :
    s.Noted (.proceed i answer chance) i := by
  cases hp : (s.member i).program with
  | none => exact .kept (by simp [step_idle hp])
  | some p =>
    cases p with
    | done result => exact .kept (by simp [step_done hp])
    | ask q next =>
      cases q with
      | call place r => exact .told [.call place r] (by simp [step_call hp])
      | await place => exact .told [.answer place answer] (by simp [step_await hp])
      | fetch =>
        obtain ⟨a, store, hfetch, h⟩ := step_fetch hp answer chance
        have hmem := (s.store.fetch_cases s.now (s.member i).worker.settings.batchSize).2.2
        rw [hfetch] at hmem
        exact .fetched a hmem (by simp [h])
      | claim e =>
        obtain ⟨c, -, hwins, h⟩ | ⟨a, -, -, h⟩ := step_claim hp answer chance
        · exact .won c hwins (by simp [h])
        · exact .kept (by simp [h])
      | settle e result =>
        obtain ⟨-, h⟩ | ⟨why, -, h⟩ | ⟨d, g, -, -, h⟩ := step_settle hp answer chance
        · exact .released (by simp [h])
        · exact .released (by simp [h])
        · exact .released (by simp [h])

/-- What a step does to the record of a worker. -/
theorem step_noted (s : Fleet ι) (m : Move ι) (j : ι) : s.Noted m j := by
  cases m with
  | retryOne k =>
    refine .kept ?_
    obtain ⟨f, -, -, hr⟩ | ⟨why, hr⟩ := s.store.retryOne_cases s.now k <;> simp [step, hr]
  | cancel i =>
    by_cases h : j = i
    · subst h; exact .kept (by simp [step])
    · exact .kept (by simp [step, member_setMember_of_ne h])
  | begin i =>
    by_cases h : j = i
    · subst h; exact .kept (by simp [step])
    · exact .kept (by simp [step, member_setMember_of_ne h])
  | proceed i answer chance =>
    by_cases h : j = i
    · subst h; exact s.noted_proceed j answer chance
    · exact .kept (by rw [member_proceed_of_ne h answer chance])
  | _ => exact .kept rfl

/-- A claim that a worker holds after a step was held before, or the step has won it. -/
theorem holds_step {m : Move ι} {c : Claim} (h : (s.step m).Holds i c) :
    s.Holds i c ∨ s.Wins m i c := by
  unfold Holds at h ⊢
  cases s.step_noted m i with
  | kept hn => exact .inl (by rwa [hn] at h)
  | fetched a hmem hn => exact .inl (by rwa [hn] at h)
  | won d hwins hn =>
    rw [hn, Option.some.injEq] at h
    exact .inr (h ▸ hwins)
  | told xs hn => exact .inl (by rwa [hn] at h)
  | released hn => simp [hn, Notes.release] at h

/-- An event of a worker's batch after a step was in it before, or comes from the log. -/
theorem batch_step {m : Move ι} {e : Event} (h : e ∈ ((s.step m).member i).notes.batch) :
    e ∈ (s.member i).notes.batch ∨ e ∈ s.store.events := by
  cases s.step_noted m i with
  | kept hn => exact .inl (by rwa [hn] at h)
  | fetched a hmem hn => exact .inr (hmem e (by rwa [hn] at h))
  | won d hwins hn => exact .inl (by rwa [hn] at h)
  | told xs hn => exact .inl (by rwa [hn] at h)
  | released hn => exact .inl (by rwa [hn] at h)

/-- What went on between a worker and the adapters is not forgotten. -/
theorem exchanges_step (s : Fleet ι) (m : Move ι) (i : ι) :
    (s.member i).notes.exchanges <+: ((s.step m).member i).notes.exchanges := by
  cases s.step_noted m i with
  | kept hn => exact ⟨[], by simp [hn]⟩
  | fetched a hmem hn => exact ⟨[], by simp [hn, Notes.fetched]⟩
  | won d hwins hn => exact ⟨[], by simp [hn]⟩
  | told xs hn => exact ⟨xs, by simp [hn]⟩
  | released hn => exact ⟨[], by simp [hn, Notes.release]⟩

end Fleet

end Outbox
