import Outbox.Proofs.Adapter.Alike
import Outbox.Proofs.Publish
import Outbox.Proofs.Worker.Isolation

/-!
# Two ways to propagate a change

A change is dispatched to the adapters at once, or it is appended to the event log, and a worker
dispatches it in its next cycle. Here a producer and a worker share their `Premises`, and what
they do there is written down as an inquiry (`Conduct`): the adapters are asked, and the log is
changed in between. So both ways can be followed while the tasks of the adapters end in any order.

Neither way does anything to an adapter but to dispatch the change. To publish at once is that
dispatch and nothing else (`Occasion.publish_inline`), and a cycle with one event in the log is the
same dispatch, followed by a record of its result (`Premises.IsReady.poll_holding`). Two dispatches
of one change come to the same but for the numbers of tasks, and so do the two ways
(`propagation_agrees`).
-/

namespace Outbox

/-- What a producer and a worker have in common. -/
structure Premises where
  /-- The event log. -/
  store : Store
  /-- The worker. -/
  worker : Worker

/-- What is done at the premises, where adapters can be asked. It may break down. -/
abbrev Conduct := ExceptT Breakdown (StateT Premises (Inquiry SyncRequest SyncOutcome))

namespace Conduct

variable {α β γ : Type}

/-- To ask adapters, and to leave the premises as they are. -/
def ask (p : Inquiry SyncRequest SyncOutcome α) : Conduct α := fun s =>
  p.bind fun x => .done (.ok x, s)

variable {m : Conduct α} {f : α → Conduct β} {s t : Premises} {x : α}

/-- One thing after another that asks adapters. -/
theorem bind_of_asks {p : Inquiry SyncRequest SyncOutcome γ} {g : γ → α} {after : γ → Premises}
    (h : m s = p.bind fun y => .done (.ok (g y), after y)) :
    (m >>= f) s = p.bind fun y => f (g y) (after y) := by
  change (m s).bind (fun q => ExceptT.bindCont f q.1 q.2) = _
  rw [h, Dialogue.bind_assoc]
  rfl

/-- One thing after another that asks nobody. -/
theorem bind_of_done (h : m s = .done (.ok x, t)) : (m >>= f) s = f x t := by
  change (m s).bind (fun q => ExceptT.bindCont f q.1 q.2) = _
  rw [h]
  rfl

/-- To ask nobody and not to break down. -/
def IsSilent (m : Conduct α) : Prop := ∀ s, ∃ x t, m s = .done (.ok x, t)

theorem isSilent_pure (x : α) : IsSilent (pure x) := fun s => ⟨x, s, rfl⟩

theorem IsSilent.bind (h : m.IsSilent) (hf : ∀ x, (f x).IsSilent) : (m >>= f).IsSilent := by
  intro s
  obtain ⟨x, t, hx⟩ := h s
  rw [bind_of_done hx]
  exact hf x t

theorem ask_pure (x : α) : ask (pure x) = pure x := rfl

theorem ask_bind (p : Inquiry SyncRequest SyncOutcome α)
    (f : α → Inquiry SyncRequest SyncOutcome β) :
    ask (p >>= f) = ask p >>= fun x => ask (f x) := by
  funext s
  refine Eq.trans ?_ (bind_of_asks (g := id) (p := p) rfl).symm
  exact Dialogue.bind_assoc ..

theorem ask_mapM (xs : List α) (f : α → Inquiry SyncRequest SyncOutcome β) :
    ask (xs.mapM f) = xs.mapM fun x => ask (f x) := by
  induction xs with
  | nil => rfl
  | cons x xs ih => simp only [List.mapM_cons, ask_bind, ask_pure, ih]

/-- What a dispatch needs. -/
def dispatchHost : DispatchHost Conduct Nat where
  call place r := ask (Inquiry.host.call place r)
  await task := ask (Inquiry.host.await task)

/-- A dispatch asks the adapters and does nothing else. -/
theorem dispatch_eq (names : List String) (limit : Span) (r : SyncRequest) :
    DispatchHost.run dispatchHost names limit r =
      ask (DispatchHost.run Inquiry.host names limit r) := by
  simp only [DispatchHost.run, FanOut.run, FanOut.callAll, FanOut.awaitAll, ask_bind, ask_mapM,
    ask_pure, dispatchHost]

end Conduct

/-! ### The surroundings -/

/-- What the clock shows at each step of an event that is appended and then delivered once, and
the chance by which its delay is spread. -/
structure Occasion where
  /-- When it is appended. -/
  appended : Instant
  /-- When it is fetched. -/
  fetched : Instant
  /-- When it is claimed. -/
  claimed : Instant
  /-- When the outcome is recorded. -/
  settled : Instant
  /-- The chance. -/
  chance : Chance

namespace Occasion

variable (x : Occasion) (names : List String) (limit : Span)

/-- What a publisher needs. -/
def publishHost : PublishHost Conduct where
  append change := fun s =>
    let (result, store) := s.store.append x.appended change
    .done (.ok result, { s with store := store })
  sleep _ := pure ()
  dispatch := Conduct.dispatchHost.run names limit

/-- What a call of the worker needs. -/
def pollHost (w : WorkerSettings) : PollHost Conduct where
  fetch := fun s =>
    let (batch, store) := s.store.fetch x.fetched w.batchSize
    .done (.ok batch, { s with store := store })
  claim e := fun s =>
    let (a, store) := w.claim x.claimed s.worker.cancelled e s.store
    .done (.ok a, { s with store := store })
  dispatch := Conduct.dispatchHost.run names limit
  settle e result := fun s =>
    let (d, store) := w.retry.settle x.settled e result s.store x.chance
    .done (d, { s with store := store })
  enter := fun s =>
    let (entered, worker) := s.worker.enter
    .done (.ok entered, { s with worker := worker })
  leaveAfter m := fun s =>
    (m s).bind fun (result, s) => .done (result, { s with worker := s.worker.leave })
  record r := fun s => .done (.ok (), { s with worker := s.worker.record r })

/-! ### Publishing -/

variable {x names limit} {change : Mutation} {s : Premises} (retries : Nat) (delay : Span)

/-- A change that is refused is refused either way, and nothing else happens. -/
theorem publish_of_refused {why : InvalidInput} (h : change.refusal? = some why)
    (outboxEnabled : Bool) (s : Premises) :
    (x.publishHost names limit).publish outboxEnabled retries delay change s =
      .done (.ok (.error (.invalid why)), s) := by
  cases outboxEnabled with
  | true =>
    simp only [PublishHost.publish, if_true, EnqueueHost.enqueue, Mutation.validate, h]
    rfl
  | false =>
    simp only [PublishHost.publish, Bool.false_eq_true, if_false, Mutation.validate, h]
    rfl

/-- Without the outbox the adapters are asked, and the premises stay as they are. -/
theorem publish_inline (h : change.refusal? = none) (s : Premises) :
    (x.publishHost names limit).publish false retries delay change s =
      (DispatchHost.run Inquiry.host names limit (.ofMutation change)).bind fun d =>
        .done (.ok (.ok (.synced d)), s) := by
  have hdispatch : (x.publishHost names limit).dispatch =
      fun r => Conduct.ask (DispatchHost.run Inquiry.host names limit r) :=
    funext fun r => Conduct.dispatch_eq names limit r
  simp only [PublishHost.publish, Bool.false_eq_true, if_false, Mutation.validate, h, hdispatch]
  exact Conduct.bind_of_asks (g := id) rfl

theorem isSilent_tryAppend (change : Mutation) (retries : Nat) (delay : Span) :
    ((x.publishHost names limit).tryAppend change retries delay).IsSilent := by
  have happend : ((x.publishHost names limit).append change).IsSilent := fun s => ⟨_, _, rfl⟩
  induction retries generalizing delay with
  | zero =>
    unfold EnqueueHost.tryAppend
    refine happend.bind fun r => ?_
    rcases r with e | _
    · cases e <;> exact Conduct.isSilent_pure _
    · exact Conduct.isSilent_pure _
  | succ retries ih =>
    unfold EnqueueHost.tryAppend
    refine happend.bind fun r => ?_
    rcases r with e | _
    · cases e with
      | invalid why => exact Conduct.isSilent_pure _
      | database | notFound | conflict =>
        exact (Conduct.isSilent_pure ()).bind fun _ => ih delay.double
    · exact Conduct.isSilent_pure _

/-- With the outbox nobody is asked, whatever becomes of the change. -/
theorem isSilent_publish (change : Mutation) :
    ((x.publishHost names limit).publish true retries delay change).IsSilent := by
  have henqueue : ((x.publishHost names limit).enqueue change retries delay).IsSilent := by
    unfold EnqueueHost.enqueue
    split
    · exact Conduct.isSilent_pure _
    · exact isSilent_tryAppend change retries delay
  exact henqueue.bind fun _ => Conduct.isSilent_pure _

end Occasion

/-! ### Delivering -/

namespace Premises

/-- The log is empty, and the worker has nothing against taking up an event. -/
structure IsReady (x : Occasion) (s : Premises) : Prop where
  /-- There is no event in the log. -/
  empty : s.store.events = []
  /-- Appends succeed, and so do fetches and writes. -/
  appends : s.store.appendFailures = 0
  fetches : s.store.fetchFailure = none
  writes : s.store.outcomeFailures = 0
  /-- No cycle is in progress. -/
  idle : s.worker.busy = false
  /-- The worker was not told to stop. -/
  going : s.worker.cancelled = false
  /-- It fetches at least one event. -/
  batch : 0 < s.worker.settings.batchSize
  /-- The time of the next attempt can be formed, if there is one. -/
  time : s.worker.settings.retry.decision 1 x.settled x.chance ≠ .pastCalendar

/-- The event that is appended. -/
def event (x : Occasion) (change : Mutation) (s : Premises) : Event :=
  .ofMutation change s.store.nextId x.appended

/-- The premises when the event has been appended. -/
def holding (x : Occasion) (change : Mutation) (s : Premises) : Premises :=
  { s with
    store := { s.store with
      events := [s.event x change]
      nextId := s.store.nextId + 1 } }

variable {x : Occasion} {names : List String} {limit : Span} {change : Mutation} {s : Premises}

theorem IsReady.publish_queued (h : s.IsReady x) (hvalid : change.refusal? = none) (retries : Nat)
    (delay : Span) :
    (x.publishHost names limit).publish true retries delay change s =
      .done (.ok (.ok (.queued (s.event x change))), s.holding x change) := by
  have happend : (x.publishHost names limit).append change s =
      .done (.ok (.ok (s.event x change)), s.holding x change) := by
    simp only [Occasion.publishHost, Store.append, h.appends, Nat.lt_irrefl, if_false,
      Mutation.validate, hvalid, h.empty, Store.place, event, holding]
  have henqueue : (x.publishHost names limit).enqueue change retries delay s =
      .done (.ok (.ok (s.event x change)), s.holding x change) := by
    rw [EnqueueHost.enqueue, Mutation.validate, hvalid]
    unfold EnqueueHost.tryAppend
    exact Conduct.bind_of_done happend
  simp only [PublishHost.publish, if_true]
  exact Conduct.bind_of_done henqueue

/-- The premises when the worker has begun a cycle. -/
def begun (x : Occasion) (change : Mutation) (s : Premises) : Premises :=
  { s.holding x change with worker := { s.worker with busy := true } }

/-- The premises when the worker has claimed the event. -/
def claiming (x : Occasion) (change : Mutation) (s : Premises) : Premises where
  store := (s.holding x change).store.modify (s.event x change).id
    (Store.claimed (s.worker.settings.leaseEnd x.claimed))
  worker := { s.worker with busy := true }

theorem oldestDue_begun (x : Occasion) (change : Mutation) (s : Premises) (now : Instant)
    {limit : Nat} (h : 0 < limit) :
    (s.begun x change).store.oldestDue now limit = [s.event x change] := by
  have hdue : (s.event x change).isDue now = true := rfl
  rw [Store.oldestDue, begun, holding, List.filter_singleton, hdue, cond_true,
    List.mergeSort_singleton, List.take_of_length_le h]

/-- The claim of the event is won. -/
theorem IsReady.claim_begun (h : s.IsReady x) (change : Mutation) :
    s.worker.settings.claim x.claimed (s.begun x change).worker.cancelled (s.event x change)
        (s.begun x change).store =
      (.claimed, (s.claiming x change).store) := by
  have hfound : (s.begun x change).store.find? (s.event x change).id =
      some (s.event x change) := by simp [Store.find?, begun, holding]
  have hwon : (s.begun x change).store.claimable x.claimed (s.event x change).id
      (s.event x change).status = true := Store.claimable_of_find? hfound rfl
  have hgoing : (s.begun x change).worker.cancelled = false := h.going
  rw [WorkerSettings.claim, hgoing, if_neg Bool.false_ne_true, Store.claim, if_pos hwon]
  rfl

/-- The event is recorded as its dispatch has it. -/
theorem IsReady.settle_claiming (h : s.IsReady x) (change : Mutation) (d : DispatchResult) :
    ∃ disposition store,
      s.worker.settings.retry.settle x.settled (s.event x change) d.attempt
          (s.claiming x change).store x.chance = (.ok disposition, store) ∧
        store.events =
          [(s.event x change).delivered s.worker.settings.retry x.settled x.chance d] := by
  have hcount : (s.event x change).IsCountable s.worker.settings.retry x.settled x.chance :=
    ⟨⟨Int.le_refl 0, show (0 : Int) < maxAttempts by decide⟩, h.time⟩
  obtain ⟨-, hpast, -⟩ | ⟨hpos, -⟩ | ⟨disposition, g, houtcome, hsettle⟩ :=
    s.worker.settings.retry.settle_cases x.settled (s.event x change) d.attempt
      (s.claiming x change).store x.chance
  · rw [hcount.nextFailure_eq] at hpast
    exact absurd hpast hcount.time
  · exact absurd hpos (by simp [claiming, holding, Store.modify, h.writes])
  · refine ⟨disposition, _, hsettle, ?_⟩
    rw [← houtcome.eq_delivered hcount (s.worker.settings.leaseEnd x.claimed)]
    simp [claiming, holding]

/-- Working off the event asks the adapters about the change, and leaves the event as the dispatch
has it. -/
theorem IsReady.work_holding (h : s.IsReady x) (names : List String) (limit : Span)
    (change : Mutation) (r : CycleReport) :
    ∃ (report : DispatchResult → CycleReport) (after : DispatchResult → Premises),
      (x.pollHost names limit s.worker.settings).work [s.event x change] r
          (s.begun x change) =
        (DispatchHost.run Inquiry.host names limit (.ofMutation change)).bind (fun d =>
          .done (.ok (report d), after d)) ∧
      ∀ d, (after d).store.events =
        [(s.event x change).delivered s.worker.settings.retry x.settled x.chance d] := by
  choose disposition store hsettle hevents using h.settle_claiming change
  refine ⟨fun d => (r.claim (s.event x change)).settle (disposition d),
    fun d => ⟨store d, (s.claiming x change).worker⟩, ?_, hevents⟩
  have hclaim : (x.pollHost names limit s.worker.settings).claim (s.event x change)
      (s.begun x change) =
      .done (.ok .claimed, s.claiming x change) := by
    simp only [Occasion.pollHost, h.claim_begun change]
    rfl
  have hdispatch : (x.pollHost names limit s.worker.settings).dispatch
      (.ofEvent (s.event x change)) (s.claiming x change) =
      (DispatchHost.run Inquiry.host names limit (.ofMutation change)).bind fun d =>
        .done (.ok d, s.claiming x change) := by
    have hask := Conduct.dispatch_eq names limit (.ofEvent (s.event x change))
    exact congrFun hask (s.claiming x change)
  rw [CycleHost.work, Conduct.bind_of_done hclaim]
  refine (Conduct.bind_of_asks (g := id) hdispatch).trans ?_
  congr 1
  funext d
  have hsettled : (x.pollHost names limit s.worker.settings).settle (s.event x change) d.attempt
      (s.claiming x change) =
      .done (.ok (disposition d), ⟨store d, (s.claiming x change).worker⟩) := by
    simp only [Occasion.pollHost, hsettle]
  exact Conduct.bind_of_done hsettled

/-- A call of the worker does so as well, and then ends its cycle. -/
theorem IsReady.poll_holding (h : s.IsReady x) (names : List String) (limit : Span)
    (change : Mutation) :
    ∃ (report : DispatchResult → CycleReport) (after : DispatchResult → Premises),
      (x.pollHost names limit s.worker.settings).poll (s.holding x change) =
        (DispatchHost.run Inquiry.host names limit (.ofMutation change)).bind (fun d =>
          .done (.ok (.ok (report d)), after d)) ∧
      ∀ d, (after d).store.events =
        [(s.event x change).delivered s.worker.settings.retry x.settled x.chance d] := by
  obtain ⟨report, after, hwork, hevents⟩ := h.work_holding names limit change { fetched := 1 }
  refine ⟨report, fun d => { after d with
    worker := ((after d).worker.record (report d)).leave }, ?_, hevents⟩
  have henter : (x.pollHost names limit s.worker.settings).enter (s.holding x change) =
      .done (.ok true, (s.begun x change)) := by
    have hidle : (s.holding x change).worker.busy = false := h.idle
    simp only [Occasion.pollHost, Worker.enter_of_idle hidle]
    rfl
  have hfetch : (x.pollHost names limit s.worker.settings).fetch
      (s.begun x change) =
      .done (.ok (.ok [s.event x change]),
        (s.begun x change)) := by
    have hfetches : (s.begun x change).store.fetchFailure = none := h.fetches
    simp only [Occasion.pollHost, Store.fetch, hfetches, s.oldestDue_begun x change _ h.batch]
  have hcomplete : (x.pollHost names limit s.worker.settings).complete
      (s.begun x change) =
      (DispatchHost.run Inquiry.host names limit (.ofMutation change)).bind fun d =>
        .done (.ok (.ok (report d)),
          { after d with worker := (after d).worker.record (report d) }) := by
    have hrun : (x.pollHost names limit s.worker.settings).run
        (s.begun x change) =
        (DispatchHost.run Inquiry.host names limit (.ofMutation change)).bind fun d =>
          .done (.ok (.ok (report d)), after d) := by
      rw [CycleHost.run, Conduct.bind_of_done hfetch]
      simp only [map_eq_pure_bind]
      exact Conduct.bind_of_asks hwork
    exact Conduct.bind_of_asks hrun
  rw [PollHost.poll, Conduct.bind_of_done henter, if_pos rfl]
  simp only [Occasion.pollHost] at hcomplete ⊢
  rw [hcomplete, Dialogue.bind_assoc]
  rfl

end Premises

/-! ### Both ways -/

/-- An inquiry may come to this result when these adapters have been asked. -/
def Inquiry.Ends {ρ β α : Type} (a : Audience ρ β) (p : Inquiry ρ β α) (y : α)
    (asked : List (Asked ρ)) : Prop :=
  ∃ k t, Survey.Steps a ⟨p, [], []⟩ k t ∧ t.program = .done y ∧ t.asked = asked

variable {α : Type} {a : Audience SyncRequest SyncOutcome} {names : List String}
  {r : SyncRequest} {d : DispatchResult} {asked asked' : List (Asked SyncRequest)}

theorem Inquiry.follows_dispatch (a : Audience SyncRequest SyncOutcome) (names : List String)
    (r : SyncRequest) :
    Dialogue.Follows (protocol a) (fun d t => Dispatched a names r d t.asked)
      (DispatchHost.run host names a.limit r) ⟨[], 3 * names.length⟩ :=
  (follows_run a (AdapterOutcome.ofCall a.limit) names r).bind fun _ _ h => h.dispatched

/-- What ends with a dispatch settles as the dispatch does. -/
theorem Survey.settles_dispatch (a : Audience SyncRequest SyncOutcome) (names : List String)
    (r : SyncRequest) (result : DispatchResult → α) :
    Settles a
      ⟨(DispatchHost.run Inquiry.host names a.limit r).bind fun d => .done (result d), [], []⟩
      (3 * names.length) fun y asked => ∃ d, y = result d ∧ Dispatched a names r d asked :=
  settles_of_follows ((Inquiry.follows_dispatch a names r).bind fun d _ h => ⟨d, rfl, h⟩)

/-- The result of a dispatch and an event tell of one delivery, in which the same was asked. -/
structure Agree (a : Audience SyncRequest SyncOutcome) (r : SyncRequest) (d : DispatchResult)
    (asked : List (Asked SyncRequest)) (f : Event) (asked' : List (Asked SyncRequest)) : Prop where
  /-- The same adapters were called in the same order, with the same arguments and ends. -/
  calls : List.Forall₂ (Asked.Alike a) asked asked'
  /-- Both are a success, or neither is. -/
  success : d.success = true ↔ f.status = .success
  /-- They give the same messages, but for the numbers of tasks. -/
  message : d.success = false → ∃ messages messages',
    d.message = String.intercalate "; " messages ∧
      f.lastError = some (String.intercalate "; " messages') ∧
        List.Forall₂ SameButForTask messages messages'
  /-- Where no task breaks down there is no such difference. -/
  exact : d.success = false → (∀ place message, a.react place r ≠ .panic message) →
    f.lastError = some d.message

/-- A dispatch and an event that is as another dispatch of it has it. -/
theorem Dispatched.agree {d' : DispatchResult} (h : Dispatched a names r d asked)
    (h' : Dispatched a names r d' asked') (e : Event) (p : RetryPolicy) (now : Instant)
    (chance : Chance) : Agree a r d asked (e.delivered p now chance d') asked' := by
  have halike := h.alike h'
  constructor
  · exact h.asked_alike h'
  · rw [halike.success, Event.status_delivered]
  · intro hfailed
    rw [Event.lastError_delivered e (halike.success ▸ hfailed)]
    obtain ⟨messages, messages', hm, hm', hsame⟩ := halike.message hfailed
    exact ⟨messages, messages', hm, congrArg some hm', hsame⟩
  · intro hfailed hcalm
    have hfailed' : d'.success = false := halike.success ▸ hfailed
    rw [Event.lastError_delivered e hfailed', h.message hfailed, h'.message hfailed',
      h.eq_of_no_panic h' hcalm]

/-- A change can be propagated at once or by way of the outbox. If it is refused, it is refused
either way, and nothing else happens. At once means that adapters are asked and nothing else
happens; by way of the outbox nobody is asked. Then there is one event in the log, and a cycle
asks the adapters what is asked at once, whatever the order in which they answer. Both ways come
to an end, and in the end the event is a success if and only if what is done at once is one, with
the same message if it is not. -/
theorem propagation_agrees (x : Occasion) (names : List String)
    (a : Audience SyncRequest SyncOutcome) (retries : Nat) (delay : Span) (change : Mutation) :
    let publish := fun outboxEnabled =>
      (x.publishHost names a.limit).publish outboxEnabled retries delay change
    (∀ why, change.refusal? = some why →
        ∀ outboxEnabled s, publish outboxEnabled s = .done (.ok (.error (.invalid why)), s)) ∧
      (∀ s, (∃ p : Inquiry _ _ _, publish false s = p.bind fun result => .done (.ok result, s)) ∧
        ∃ result t, publish true s = .done (.ok result, t)) ∧
      (change.refusal? = none → ∀ s : Premises, s.IsReady x →
        ∃ e t, publish true s = .done (.ok (.ok (.queued e)), t) ∧ t.store.events = [e] ∧
          let poll := (x.pollHost names a.limit s.worker.settings).poll
          Survey.Settles a ⟨publish false s, [], []⟩ (3 * names.length) (fun y asked =>
              ∃ d, y = (.ok (.ok (.synced d)), s) ∧
                Dispatched a names (.ofMutation change) d asked) ∧
            Survey.Settles a ⟨poll t, [], []⟩ (3 * names.length) (fun y asked =>
              ∃ report f u, y = (.ok (.ok report), u) ∧ u.store.events = [f] ∧
                Inquiry.IsAsked names (.ofMutation change) asked) ∧
            ∀ d asked report u asked',
              Inquiry.Ends a (publish false s) (.ok (.ok (.synced d)), s) asked →
              Inquiry.Ends a (poll t) (.ok (.ok report), u) asked' →
                ∃ f, u.store.events = [f] ∧ f.id = e.id ∧
                  Agree a (.ofMutation change) d asked f asked') := by
  intro publish
  refine ⟨?_, ?_, ?_⟩
  · intro why hwhy outboxEnabled s
    exact Occasion.publish_of_refused retries delay hwhy outboxEnabled s
  · intro s
    refine ⟨?_, Occasion.isSilent_publish retries delay change s⟩
    cases hvalid : change.refusal? with
    | some why =>
      exact ⟨.done (.error (.invalid why)),
        Occasion.publish_of_refused retries delay hvalid false s⟩
    | none =>
      refine ⟨(DispatchHost.run Inquiry.host names a.limit (.ofMutation change)).bind fun d =>
        .done (.ok (.synced d)), ?_⟩
      rw [Dialogue.bind_assoc]
      exact Occasion.publish_inline retries delay hvalid s
  · intro hvalid s hready
    obtain ⟨report, after, hpoll, hevents⟩ := hready.poll_holding names a.limit change
    have hinline := Survey.settles_dispatch a names (.ofMutation change) fun d =>
      ((.ok (.ok (.synced d)), s) : Except Breakdown (Except StoreError Published) × Premises)
    rw [← Occasion.publish_inline (x := x) retries delay hvalid s] at hinline
    have hcycle := Survey.settles_dispatch a names (.ofMutation change) fun d =>
      ((.ok (.ok (report d)), after d) :
        Except Breakdown (Except DeliveryError CycleReport) × Premises)
    rw [← hpoll] at hcycle
    refine ⟨s.event x change, s.holding x change, hready.publish_queued hvalid retries delay, rfl,
      ?_, ?_, ?_⟩
    · exact hinline
    · refine hcycle.imp ?_
      rintro y asked ⟨d, rfl, h⟩
      exact ⟨report d, _, after d, rfl, hevents d, h.asked⟩
    · rintro d asked report' u asked' ⟨k, t, hsteps, hdone, rfl⟩ ⟨k', t', hsteps', hdone', rfl⟩
      obtain ⟨d₁, hd₁, h⟩ := hinline.result k t _ hsteps hdone
      obtain ⟨d₂, hd₂, h'⟩ := hcycle.result k' t' _ hsteps' hdone'
      cases hd₁
      cases hd₂
      exact ⟨_, hevents d₂, Event.id_delivered _, h.agree h' _ _ _ _⟩

/-- The time does not go on. -/
def Occasion.still : Occasion := ⟨.epoch, .epoch, .epoch, .epoch, .middle⟩

/-- An empty log and a worker that has done nothing yet. -/
def Premises.fresh : Premises := ⟨{}, {}⟩

theorem Premises.isReady_fresh : fresh.IsReady .still := by
  constructor <;> decide +kernel

/-- The first adapter takes over every change, and the others refuse it. -/
def Audience.divided : Audience SyncRequest SyncOutcome where
  react place _ := .answer .zero ⟨place == 0, "closed for the year"⟩
  limit := .ofMillis 10000

/-- There a change of an employee is a failure either way, with one message. -/
theorem propagation_agrees_divided :
    (⟨"employee", "EMP0001", .update, .null⟩ : Mutation).refusal? = none ∧
      Premises.fresh.IsReady .still ∧
      ∃ d f asked asked', d.success = false ∧ f.status ≠ .success ∧ f.lastError = some d.message ∧
        Agree .divided ⟨"EMP0001", .update, .null⟩ d asked f asked' := by
  have hvalid : (⟨"employee", "EMP0001", .update, .null⟩ : Mutation).refusal? = none := by decide
  obtain ⟨-, -, hagree⟩ := propagation_agrees .still ["badge", "payroll"] .divided 3 .zero
    ⟨"employee", "EMP0001", .update, .null⟩
  obtain ⟨e, t, -, -, hinline, hcycle, hboth⟩ := hagree hvalid .fresh Premises.isReady_fresh
  obtain ⟨k, u, y, hsteps, hdone⟩ := hinline.exists_result
  obtain ⟨k', u', z, hsteps', hdone'⟩ := hcycle.exists_result
  obtain ⟨d, rfl, hd⟩ := hinline.result k u y hsteps hdone
  obtain ⟨report, f, premises, rfl, -, -⟩ := hcycle.result k' u' z hsteps' hdone'
  obtain ⟨f', -, -, hsame⟩ := hboth d _ report premises _ ⟨k, u, hsteps, hdone, rfl⟩
    ⟨k', u', hsteps', hdone', rfl⟩
  have hfailed : d.success = false := by
    have hsecond : 1 < d.outcomes.length := by simp [hd.length]
    rw [Bool.eq_false_iff, Ne, hd.success]
    intro hall
    have hgood := (hd.entry_success 1 _ (List.getElem?_eq_getElem hsecond)).1
      (hall _ (List.getElem_mem hsecond))
    obtain ⟨after, answer, hreact, -, hsuccess⟩ := hgood
    cases hreact
    exact absurd hsuccess (by decide)
  have hexact := hsame.exact hfailed fun place message hpanic => by cases hpanic
  refine ⟨hvalid, Premises.isReady_fresh, d, f', _, _, hfailed, ?_, hexact, hsame⟩
  rw [Ne, ← hsame.success, hfailed]
  decide

end Outbox
