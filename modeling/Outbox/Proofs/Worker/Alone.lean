import Outbox.Proofs.Worker.Outcome

/-!
# A cycle from beginning to end

What a call of a worker comes to is asked here of a worker that is watched from beginning to
end. It works on one scene: the event log, the clock and itself. What it has no say in is its
`Fate`. How each dispatch goes belongs to that, and everything that happens in the meantime:
others may write to the log, the clock may move on, the worker may be told to stop.

The cycle is `CycleHost.run`, with surroundings that carry out each operation on the scene and
keep a record: of which events a claim was tried, and how each dispatch was attempted and
settled. The dispatches of a cycle may all have one fate, or each its own (`Fates`).
`Fates.work_cases` says what working off a batch can come to, and the rest of the theory takes it
from there.
-/

namespace Outbox

/-! ### The surroundings -/

/-- What a worker works on. -/
structure Scene where
  /-- The event log. -/
  store : Store
  /-- The time. -/
  now : Instant
  /-- The worker itself. -/
  worker : Worker

/-- What a worker has no say in. -/
structure Fate where
  /-- How a dispatch goes, and what becomes of the scene meanwhile. -/
  dispatch : SyncRequest → Scene → DispatchResult × Scene
  /-- The chances by which delays are spread, attempt by attempt. -/
  chance : Nat → Chance

/-- A dispatch of an event, and how it was settled. -/
structure Attempt where
  /-- The event as it was fetched. -/
  event : Event
  /-- How the dispatch went. -/
  result : AttemptResult
  /-- When the outcome was to be written. -/
  time : Instant
  /-- The event log before that. -/
  before : Store
  /-- What came of it. -/
  ended : Except Breakdown Disposition
  /-- The event log after that. -/
  after : Store

/-- The attempt was settled as the worker settles outcomes. -/
def Attempt.IsSettled (w : WorkerSettings) (x : Attempt) : Prop :=
  ∃ chance, w.retry.settle x.time x.event x.result x.before chance = (x.ended, x.after)

/-- How far a cycle has come. -/
structure Course where
  /-- What the worker works on. -/
  scene : Scene
  /-- The events of which a claim was tried, in order. -/
  tried : List Event := []
  /-- The dispatches, in order. -/
  attempts : List Attempt := []

/-- What runs on something and may break down. -/
abbrev Running (σ : Type) := ExceptT Breakdown (StateM σ)

/-- What runs on a scene and may break down. -/
abbrev Solo := Running Course

namespace Course

/-- The course with another event log. -/
def setStore (c : Course) (store : Store) : Course := { c with scene := { c.scene with store } }

/-- The course on which a claim of an event is tried, with this end. -/
def claim (c : Course) (w : WorkerSettings) (e : Event) : ClaimEnd × Course :=
  match w.claim c.scene.now c.scene.worker.cancelled e c.scene.store with
  | (.cancelled, store) => (.cancelled, c.setStore store)
  | (a, store) => (a, { c.setStore store with tried := c.tried ++ [e] })

/-- How the dispatch of an event is settled on the course. -/
def attempt (c : Course) (w : WorkerSettings) (chance : Chance) (e : Event)
    (result : AttemptResult) : Attempt :=
  let settled := w.retry.settle c.scene.now e result c.scene.store chance
  ⟨e, result, c.scene.now, c.scene.store, settled.1, settled.2⟩

/-- The course after an attempt. -/
def add (c : Course) (x : Attempt) : Course :=
  { c.setStore x.after with attempts := c.attempts ++ [x] }

end Course

namespace Fate

/-- A dispatch takes its course. -/
def meet (fate : Fate) (r : SyncRequest) (c : Course) : DispatchResult × Course :=
  let (d, scene) := fate.dispatch r c.scene
  (d, { c with scene := scene })

/-- A dispatch that has come to a result is settled. -/
def settle (fate : Fate) (w : WorkerSettings) (e : Event) (result : AttemptResult) (c : Course) :
    Attempt × Course :=
  let x := c.attempt w (fate.chance c.attempts.length) e result
  (x, c.add x)

/-- The surroundings of a cycle. -/
def host (fate : Fate) (w : WorkerSettings) : CycleHost Solo where
  fetch := fun c =>
    let (batch, store) := c.scene.store.fetch c.scene.now w.batchSize
    (.ok batch, c.setStore store)
  claim e := fun c =>
    let (a, c) := c.claim w e
    (.ok a, c)
  dispatch r := fun c =>
    let (d, c) := fate.meet r c
    (.ok d, c)
  settle e result := fun c =>
    let (x, c) := fate.settle w e result c
    (x.ended, c)

/-- A call of the worker: it runs a cycle, unless one is in progress. -/
def poll (fate : Fate) (s : Scene) : Except Breakdown (Except DeliveryError CycleReport) × Course :=
  match s.worker.enter with
  | (false, w) => (.ok (.ok { skipped := true }), { scene := { s with worker := w } })
  | (true, w) =>
    let (result, c) := (fate.host w.settings).run { scene := { s with worker := w } }
    let w := match result with
      | .ok (.ok report) => c.scene.worker.record report
      | _ => c.scene.worker
    (result, { c with scene := { c.scene with worker := w.leave } })

end Fate

/-- The fates of the dispatches of a cycle, by their numbers. -/
abbrev Fates := Nat → Fate

/-- The surroundings of a cycle in which each dispatch has its own fate. -/
def Fates.cycle (fates : Fates) (w : WorkerSettings) : CycleHost Solo where
  fetch := ((fates 0).host w).fetch
  claim := ((fates 0).host w).claim
  dispatch r := fun c => ((fates c.attempts.length).host w).dispatch r c
  settle e result := fun c => ((fates c.attempts.length).host w).settle e result c

/-! ### What the parts leave alone -/

namespace Course

/-- A claim is not tried if the worker was told to stop; else it is lost or won. -/
theorem claim_cases (c : Course) (w : WorkerSettings) (e : Event) :
    (c.scene.worker.cancelled = true ∧ c.claim w e = (.cancelled, c)) ∨
      ∃ c', c'.tried = c.tried ++ [e] ∧ c'.attempts = c.attempts ∧
        (c.claim w e = (.conflict, c') ∨ c.claim w e = (.claimed, c')) := by
  cases hcancelled : c.scene.worker.cancelled with
  | true => exact .inl ⟨rfl, by simp [claim, WorkerSettings.claim, hcancelled, setStore]⟩
  | false =>
    cases hclaim : c.scene.store.claim c.scene.now e.id e.status (w.leaseEnd c.scene.now) with
    | mk won store =>
      refine .inr ⟨{ c.setStore store with tried := c.tried ++ [e] }, rfl, rfl, ?_⟩
      cases won with
      | false => exact .inl (by simp [claim, WorkerSettings.claim, hcancelled, hclaim])
      | true => exact .inr (by simp [claim, WorkerSettings.claim, hcancelled, hclaim])

end Course

namespace Fate

theorem meet_frame {fate : Fate} {r : SyncRequest} {c c' : Course} {d : DispatchResult}
    (h : fate.meet r c = (d, c')) : c'.tried = c.tried ∧ c'.attempts = c.attempts := by
  obtain ⟨-, rfl⟩ := Prod.mk.inj h
  exact ⟨rfl, rfl⟩

theorem settle_frame {fate : Fate} {w : WorkerSettings} {e : Event} {result : AttemptResult}
    {c c' : Course} {x : Attempt} (h : fate.settle w e result c = (x, c')) :
    x.IsSettled w ∧ x.event = e ∧ c'.tried = c.tried ∧ c'.attempts = c.attempts ++ [x] := by
  obtain ⟨rfl, rfl⟩ := Prod.mk.inj h
  exact ⟨⟨_, rfl⟩, rfl, rfl, rfl⟩

end Fate

/-! ### One part after another -/

namespace Running

variable {σ α β : Type}

theorem pure_apply (a : α) (c : σ) : (pure a : Running σ α) c = (.ok a, c) := rfl

theorem bind_of_ok {m : Running σ α} {f : α → Running σ β} {a : α} {c c' : σ}
    (h : m c = (.ok a, c')) : (m >>= f) c = f a c' := by
  change (match m c with | (a, c) => ExceptT.bindCont f a c : _ × σ) = _
  rw [h]
  rfl

theorem bind_of_error {m : Running σ α} {f : α → Running σ β} {why : Breakdown} {c c' : σ}
    (h : m c = (.error why, c')) : (m >>= f) c = (.error why, c') := by
  change (match m c with | (a, c) => ExceptT.bindCont f a c : _ × σ) = _
  rw [h]
  rfl

end Running

namespace Fates

variable (fates : Fates) (w : WorkerSettings)

theorem work_of_cancelled {e : Event} {c c' : Course} (h : c.claim w e = (.cancelled, c'))
    (rest : List Event) (r : CycleReport) :
    (fates.cycle w).work (e :: rest) r c = (.ok r, c') := by
  have hclaim : (fates.cycle w).claim e c = (.ok .cancelled, c') := by
    simp only [cycle, Fate.host, h]
  rw [CycleHost.work, Running.bind_of_ok hclaim]
  rfl

theorem work_of_conflict {e : Event} {c c' : Course} (h : c.claim w e = (.conflict, c'))
    (rest : List Event) (r : CycleReport) :
    (fates.cycle w).work (e :: rest) r c = (fates.cycle w).work rest r.conflict c' := by
  have hclaim : (fates.cycle w).claim e c = (.ok .conflict, c') := by
    simp only [cycle, Fate.host, h]
  rw [CycleHost.work, Running.bind_of_ok hclaim]

/-- A claimed event is dispatched and settled before the next one is tried, and a breakdown
ends the cycle. -/
theorem work_of_claimed {e : Event} {c c₁ c₂ c₃ : Course} {d : DispatchResult} {x : Attempt}
    (hclaim : c.claim w e = (.claimed, c₁))
    (hmeet : (fates c₁.attempts.length).meet (.ofEvent e) c₁ = (d, c₂))
    (hsettle : (fates c₂.attempts.length).settle w e d.attempt c₂ = (x, c₃))
    (rest : List Event) (r : CycleReport) :
    (fates.cycle w).work (e :: rest) r c =
      match x.ended with
      | .ok disposition => (fates.cycle w).work rest ((r.claim e).settle disposition) c₃
      | .error why => (.error why, c₃) := by
  have hclaim' : (fates.cycle w).claim e c = (.ok .claimed, c₁) := by
    simp only [cycle, Fate.host, hclaim]
  have hmeet' : (fates.cycle w).dispatch (.ofEvent e) c₁ = (.ok d, c₂) := by
    simp only [cycle, Fate.host, hmeet]
  have hsettle' : (fates.cycle w).settle e d.attempt c₂ = (x.ended, c₃) := by
    simp only [cycle, Fate.host, hsettle]
  rw [CycleHost.work, Running.bind_of_ok hclaim']
  refine (Running.bind_of_ok hmeet').trans ?_
  cases hended : x.ended with
  | ok disposition =>
    rw [hended] at hsettle'
    exact Running.bind_of_ok hsettle'
  | error why =>
    rw [hended] at hsettle'
    exact Running.bind_of_error hsettle'

end Fates

namespace Fate

variable (fate : Fate) (w : WorkerSettings)

/-- A call of an idle worker works off the oldest due events, if the log gives them. -/
theorem poll_of_work {s : Scene} (hidle : s.worker.busy = false)
    (hfetch : s.store.fetchFailure = none) {result : Except Breakdown CycleReport} {c : Course}
    (h : (fate.host s.worker.settings).work
      (s.store.oldestDue s.now s.worker.settings.batchSize)
      { fetched := (s.store.oldestDue s.now s.worker.settings.batchSize).length }
      { scene := { s with worker := { s.worker with busy := true } } } = (result, c)) :
    fate.poll s =
      (result.map .ok, { c with scene := { c.scene with worker := (match result with
        | .ok report => c.scene.worker.record report
        | .error _ => c.scene.worker).leave } }) := by
  have hrun : (fate.host s.worker.settings).run
      { scene := { s with worker := { s.worker with busy := true } } } = (result.map .ok, c) := by
    have hbatch : (fate.host s.worker.settings).fetch
        { scene := { s with worker := { s.worker with busy := true } } } =
        (.ok (.ok (s.store.oldestDue s.now s.worker.settings.batchSize)),
          { scene := { s with worker := { s.worker with busy := true } } }) := by
      simp [host, Store.fetch, hfetch, Course.setStore]
    rw [CycleHost.run, Running.bind_of_ok hbatch]
    simp only [map_eq_pure_bind]
    cases result with
    | ok report => exact Running.bind_of_ok h
    | error why => exact Running.bind_of_error h
  simp only [poll, Worker.enter, hidle, Bool.false_eq_true, if_false, hrun]
  cases result <;> rfl

end Fate

/-! ### What working off a batch comes to -/

/-- A batch is worked off from its beginning on. Each attempt is settled by the policy of the
worker. Either all of them were settled, and then the worker has tried the whole batch or was
told to stop; or the last one broke the worker down. -/
theorem Fates.work_cases (fates : Fates) (w : WorkerSettings) {batch : List Event}
    {r : CycleReport} {c c' : Course} {result : Except Breakdown CycleReport}
    (h : (fates.cycle w).work batch r c = (result, c')) :
    ∃ tried rest attempts, batch = tried ++ rest ∧ c'.tried = c.tried ++ tried ∧
      c'.attempts = c.attempts ++ attempts ∧ (∀ x ∈ attempts, x.IsSettled w) ∧
      ((∃ report, result = .ok report) ∧ (∀ x ∈ attempts, ∃ d, x.ended = .ok d) ∧
          (rest = [] ∨ c'.scene.worker.cancelled = true) ∨
        result = .error .pastCalendar ∧ ∃ done x, attempts = done ++ [x] ∧
          (∀ y ∈ done, ∃ d, y.ended = .ok d) ∧ x.ended = .error .pastCalendar) := by
  induction batch generalizing r c with
  | nil =>
    obtain ⟨rfl, rfl⟩ := Prod.mk.inj h
    exact ⟨[], [], [], rfl, by simp, by simp, by simp, .inl ⟨⟨r, rfl⟩, by simp, .inl rfl⟩⟩
  | cons e rest ih =>
    obtain ⟨hcancelled, hclaim⟩ | ⟨c₁, htried, hattempts, hclaim | hclaim⟩ := c.claim_cases w e
    · rw [fates.work_of_cancelled w hclaim] at h
      obtain ⟨rfl, rfl⟩ := Prod.mk.inj h
      exact ⟨[], e :: rest, [], rfl, by simp, by simp, by simp,
        .inl ⟨⟨r, rfl⟩, by simp, .inr hcancelled⟩⟩
    · rw [fates.work_of_conflict w hclaim] at h
      obtain ⟨tried, left, attempts, rfl, htried', hattempts', hsettled, hend⟩ := ih h
      refine ⟨e :: tried, left, attempts, rfl, ?_, ?_, hsettled, hend⟩
      · rw [htried', htried, List.append_assoc, List.singleton_append]
      · rw [hattempts', hattempts]
    · obtain ⟨d, c₂, hmeet⟩ : ∃ d c₂, (fates c₁.attempts.length).meet (.ofEvent e) c₁ = (d, c₂) :=
        ⟨_, _, rfl⟩
      obtain ⟨htried₂, hattempts₂⟩ := Fate.meet_frame hmeet
      obtain ⟨x, c₃, hsettle⟩ :
          ∃ x c₃, (fates c₂.attempts.length).settle w e d.attempt c₂ = (x, c₃) := ⟨_, _, rfl⟩
      obtain ⟨hx, -, htried₃, hattempts₃⟩ := Fate.settle_frame hsettle
      rw [fates.work_of_claimed w hclaim hmeet hsettle] at h
      rw [htried₂, htried] at htried₃
      rw [hattempts₂, hattempts] at hattempts₃
      cases hended : x.ended with
      | error why =>
        cases why
        rw [hended] at h
        obtain ⟨rfl, rfl⟩ := Prod.mk.inj h
        exact ⟨[e], rest, [x], rfl, htried₃, hattempts₃, by simpa using hx,
          .inr ⟨rfl, [], x, rfl, by simp, hended⟩⟩
      | ok disposition =>
        rw [hended] at h
        obtain ⟨tried, left, attempts, rfl, htried', hattempts', hsettled, hend⟩ := ih h
        refine ⟨e :: tried, left, x :: attempts, rfl, ?_, ?_, ?_, ?_⟩
        · rw [htried', htried₃, List.append_assoc, List.singleton_append]
        · rw [hattempts', hattempts₃, List.append_assoc, List.singleton_append]
        · exact List.forall_mem_cons.2 ⟨hx, hsettled⟩
        · have hfirst : ∃ d, x.ended = .ok d := ⟨disposition, hended⟩
          obtain ⟨hreport, hall, hleft⟩ | ⟨hbroken, done, y, rfl, hdone, hy⟩ := hend
          · exact .inl ⟨hreport, List.forall_mem_cons.2 ⟨hfirst, hall⟩, hleft⟩
          · exact .inr ⟨hbroken, x :: done, y, rfl, List.forall_mem_cons.2 ⟨hfirst, hdone⟩, hy⟩

end Outbox
