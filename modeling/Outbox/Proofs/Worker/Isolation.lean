import Outbox.Proofs.Worker.Alone
import Outbox.Proofs.Dispatch
import Mathlib.Data.List.Forall2

/-!
# What one cycle does

A worker that nobody disturbs works on a `Bench`: the event log, the clock, which stands still,
and itself. All else is given with its `Surroundings`, the ends of the calls to adapters among
them, one after the other in the order in which the calls are begun. The call of the worker is
`PollHost.poll` and every dispatch in it is `DispatchHost.run`; here they run on the bench, which
writes down with every call of an adapter what the log was when the call began.

`Event.delivered` says what the end of its own dispatch makes of an event. `worked` shows by
induction on the batch that this is what becomes of each event of it, and that no other event is
touched: an iteration changes the event under its number only, and the numbers of a batch are
different ones. `cycle_isolates` says so of a whole call.
-/

namespace Outbox

/-! ### What is due to an event -/

/-- What the end of its dispatch makes of an event: it is synced, or there is one more failed
attempt, with the message of the dispatch, and the policy says whether and when it is tried
again. -/
def Event.delivered (e : Event) (p : RetryPolicy) (now : Instant) (chance : Chance)
    (d : DispatchResult) : Event :=
  if d.success then
    { e with status := .success, processedAt := some now, lastError := none, nextRunAt := none }
  else
    match p.decision (e.attempts + 1).toNat now chance with
    | .retry t =>
      { e with
        status := .failed, attempts := e.attempts + 1, lastError := some d.message
        nextRunAt := some t }
    | _ =>
      { e with
        status := .dead, attempts := e.attempts + 1, lastError := some d.message
        nextRunAt := none }

namespace Event

variable {p : RetryPolicy} {now : Instant} {chance : Chance} {d : DispatchResult}

theorem id_delivered (e : Event) : (e.delivered p now chance d).id = e.id := by
  unfold delivered
  split
  · rfl
  · split <;> rfl

/-- Only a dispatch that was a success makes one of the event. -/
theorem status_delivered (e : Event) :
    (e.delivered p now chance d).status = .success ↔ d.success = true := by
  unfold delivered
  split
  · simp [*]
  · split <;> simp [*]

/-- The message of one that was not stays with the event. -/
theorem lastError_delivered (e : Event) (h : d.success = false) :
    (e.delivered p now chance d).lastError = some d.message := by
  unfold delivered
  split
  · simp_all
  · split <;> rfl

end Event

/-- The event's counter can go up, and its next attempt, if there is one, is in the calendar. -/
structure Event.IsCountable (e : Event) (p : RetryPolicy) (now : Instant) (chance : Chance) :
    Prop where
  attempts : 0 ≤ e.attempts ∧ e.attempts < maxAttempts
  time : p.decision (e.attempts + 1).toNat now chance ≠ .pastCalendar

theorem Event.IsCountable.nextFailure_eq {e : Event} {p : RetryPolicy} {now : Instant}
    {chance : Chance} (h : e.IsCountable p now chance) :
    e.nextFailure = (e.attempts + 1).toNat := by
  have hpos := h.attempts.1
  rw [Event.nextFailure]
  omega

/-- An outcome makes of a claimed event what is due to it. -/
theorem Outcome.eq_delivered {p : RetryPolicy} {now : Instant} {chance : Chance} {e : Event}
    {d : DispatchResult} {disposition : Disposition} {g : Event → Event}
    (h : Outcome p now chance e d.attempt disposition g) (he : e.IsCountable p now chance)
    (leaseEnd : Instant) : g (Store.claimed leaseEnd e) = e.delivered p now chance d := by
  obtain ⟨hpos, hmax⟩ := he.attempts
  have hnext := he.nextFailure_eq
  have hstored : Event.storedFailures e.nextFailure = e.attempts + 1 := by
    rw [Event.storedFailures, hnext]
    omega
  unfold DispatchResult.attempt at h
  cases hsuccess : d.success with
  | true =>
    simp only [hsuccess, if_true] at h
    cases h
    simp [Event.delivered, hsuccess, Store.succeeded, Store.claimed]
  | false =>
    simp only [hsuccess, Bool.false_eq_true, if_false] at h
    cases h with
    | retried h =>
      rw [hnext] at h
      simp [Event.delivered, hsuccess, h, hstored, Store.failed, Store.claimed]
    | deadLettered h =>
      rw [hnext] at h
      rcases h with ⟨n, h⟩ | h <;>
        simp [Event.delivered, hsuccess, h, hstored, Store.failed, Store.claimed]

/-! ### A worker that nobody disturbs -/

/-- A call of an adapter that was begun. -/
structure Bench.Call where
  /-- The place of the adapter. -/
  place : Nat
  /-- The change it was called with. -/
  request : SyncRequest
  /-- The event log at that moment. -/
  log : Store

/-- What a worker works on that nobody disturbs. -/
structure Bench where
  /-- The event log. -/
  store : Store
  /-- The time. -/
  now : Instant
  /-- The worker itself. -/
  worker : Worker
  /-- The calls of adapters that were begun. -/
  calls : List Bench.Call := []

/-- What is given to a worker that nobody disturbs. -/
structure Surroundings where
  /-- The names of the adapters. -/
  adapters : List String
  /-- How long a call to an adapter may take. -/
  limit : Span
  /-- How the calls of adapters end, by the number of the call. -/
  ends : Nat → CallEnd SyncOutcome
  /-- The chances by which the delays of events are spread, by the number of the event. -/
  chance : Int → Chance

namespace Surroundings

variable (x : Surroundings)

/-- What a dispatch needs. -/
def dispatchHost : DispatchHost (Running Bench) Nat where
  call place r := fun s =>
    (.ok s.calls.length, { s with calls := s.calls ++ [⟨place, r, s.store⟩] })
  await number := fun s => (.ok (x.ends number), s)

/-- What a call of the worker needs. -/
def host (w : WorkerSettings) : PollHost (Running Bench) where
  fetch := fun s =>
    let (batch, store) := s.store.fetch s.now w.batchSize
    (.ok batch, { s with store := store })
  claim e := fun s =>
    let (a, store) := w.claim s.now s.worker.cancelled e s.store
    (.ok a, { s with store := store })
  dispatch := x.dispatchHost.run x.adapters x.limit
  settle e result := fun s =>
    let (d, store) := w.retry.settle s.now e result s.store (x.chance e.id)
    (d, { s with store := store })
  enter := fun s =>
    let (entered, worker) := s.worker.enter
    (.ok entered, { s with worker := worker })
  leaveAfter m := fun s =>
    let (result, s) := m s
    (result, { s with worker := s.worker.leave })
  record r := fun s => (.ok (), { s with worker := s.worker.record r })

/-- The calls of one dispatch, during which nothing happens to the log. -/
def callsFor (r : SyncRequest) (log : Store) : List Bench.Call :=
  (List.range x.adapters.length).map fun place => ⟨place, r, log⟩

/-- What the dispatch comes to of which the first call has a number. -/
def dispatched (first : Nat) : DispatchResult :=
  .ofOutcomes (AdapterOutcome.ofEnds x.limit x.adapters
    ((List.range' first x.adapters.length).map x.ends))

/-! ### A dispatch -/

/-- The calls of the adapters from a place on are numbered one after the other. -/
theorem calls_eq (r : SyncRequest) (names : List String) (first : Nat) (s : Bench) :
    ((names.zipIdx first).mapM fun (name, place) => do
        return (name, ← x.dispatchHost.call place r) : Running Bench (List (String × Nat))) s =
      (.ok (names.zip (List.range' s.calls.length names.length)),
        { s with calls := s.calls ++
          (List.range' first names.length).map fun place => ⟨place, r, s.store⟩ }) := by
  induction names generalizing first s with
  | nil =>
    show (Except.ok [], s) = _
    simp
  | cons name names ih =>
    have hcall : (do return (name, ← x.dispatchHost.call first r) :
        Running Bench (String × Nat)) s =
        (.ok (name, s.calls.length), { s with calls := s.calls ++ [⟨first, r, s.store⟩] }) := rfl
    have hrest := ih (first + 1) { s with calls := s.calls ++ [⟨first, r, s.store⟩] }
    rw [List.zipIdx_cons, List.mapM_cons]
    refine (Running.bind_of_ok hcall).trans ((Running.bind_of_ok hrest).trans ?_)
    simp [Running.pure_apply, List.range'_succ]

/-- The waits for calls with these numbers. -/
theorem waits_eq (names : List String) (numbers : List Nat) (s : Bench) :
    x.dispatchHost.awaitAll (AdapterOutcome.ofCall x.limit) (names.zip numbers) s =
      (.ok (AdapterOutcome.ofEnds x.limit names (numbers.map x.ends)), s) := by
  unfold FanOut.awaitAll
  induction names generalizing numbers with
  | nil => rfl
  | cons name names ih =>
    cases numbers with
    | nil => rfl
    | cons number numbers =>
      have hwait : (do return .ofCall x.limit name (← x.dispatchHost.await number) :
          Running Bench AdapterOutcome) s =
          (.ok (AdapterOutcome.ofCall x.limit name (x.ends number)), s) := rfl
      rw [List.zip_cons_cons, List.mapM_cons]
      exact (Running.bind_of_ok hwait).trans (Running.bind_of_ok (ih numbers))

/-- A dispatch calls every adapter, and its result is that of the ends of these calls. -/
theorem dispatch_eq (r : SyncRequest) (s : Bench) :
    x.dispatchHost.run x.adapters x.limit r s =
      (.ok (x.dispatched s.calls.length), { s with calls := s.calls ++ x.callsFor r s.store }) := by
  have hrun : FanOut.run x.dispatchHost (AdapterOutcome.ofCall x.limit) x.adapters r s =
      (.ok (AdapterOutcome.ofEnds x.limit x.adapters
        ((List.range' s.calls.length x.adapters.length).map x.ends)),
        { s with calls := s.calls ++ x.callsFor r s.store }) := by
    refine (Running.bind_of_ok (x.calls_eq r x.adapters 0 s)).trans ?_
    rw [x.waits_eq, callsFor, List.range_eq_range']
  exact Running.bind_of_ok hrun

end Surroundings

/-! ### Working off a batch -/

namespace Bench

/-- The event is found in the log as it was fetched, and a claim of it will be won. -/
structure Awaits (s : Bench) (e : Event) : Prop where
  found : s.store.find? e.id = some e
  due : e.isDue s.now = true

/-- Nothing keeps the worker from going on. -/
structure Undisturbed (s : Bench) : Prop where
  /-- It was not told to stop. -/
  going : s.worker.cancelled = false
  /-- The writes of outcomes succeed. -/
  writes : s.store.outcomeFailures = 0

/-- What becomes of a bench when a batch is worked off. -/
structure Worked (x : Surroundings) (w : WorkerSettings) (batch : List Event) (s t : Bench) :
    Prop where
  /-- The clock stands still, and the worker notes nothing before the cycle is complete. -/
  now : t.now = s.now
  worker : t.worker = s.worker
  failures : t.store.outcomeFailures = s.store.outcomeFailures
  /-- No event is added or lost. -/
  ids : t.store.events.map Event.id = s.store.events.map Event.id
  /-- The adapters are called for one event after the other, each of which is then under the
  worker's claim. -/
  calls : ∃ logs : List Store,
    List.Forall₂ (fun e log => log.find? e.id = some (Store.claimed (w.leaseEnd s.now) e))
      batch logs ∧
    t.calls = s.calls ++ (batch.zip logs).flatMap fun (e, log) => x.callsFor (.ofEvent e) log
  /-- An event of the batch is as its own dispatch has it. -/
  delivered : ∀ (j : Nat) (e : Event), batch[j]? = some e →
    t.store.find? e.id = some (e.delivered w.retry s.now (x.chance e.id)
      (x.dispatched (s.calls.length + j * x.adapters.length)))
  /-- Other events are as they were. -/
  others : ∀ id, id ∉ batch.map Event.id → t.store.find? id = s.store.find? id

namespace Worked

variable {x : Surroundings} {w : WorkerSettings} {s t u : Bench} {e : Event} {batch : List Event}

theorem nil (x : Surroundings) (w : WorkerSettings) (s : Bench) : Worked x w [] s s := by
  refine ⟨rfl, rfl, rfl, rfl, ⟨[], .nil, by simp⟩, ?_, fun _ _ => rfl⟩
  intro j e he
  simp at he

theorem undisturbed (h : Worked x w batch s t) (hs : s.Undisturbed) : t.Undisturbed :=
  ⟨by rw [h.worker, hs.going], by rw [h.failures, hs.writes]⟩

/-- What waits for its turn goes on to, if it is not in the batch. -/
theorem awaits {d : Event} (h : Worked x w batch s t) (hd : s.Awaits d)
    (hmem : d.id ∉ batch.map Event.id) : t.Awaits d :=
  ⟨by rw [h.others d.id hmem, hd.found], by rw [h.now, hd.due]⟩

/-- One event, and after it the others. -/
theorem cons (hfirst : Worked x w [e] s t) (hrest : Worked x w batch t u)
    (hnew : e.id ∉ batch.map Event.id) : Worked x w (e :: batch) s u := by
  obtain ⟨_, hlogs, hcalls⟩ := hfirst.calls
  obtain ⟨log, _, hlog, hnil, rfl⟩ := List.forall₂_cons_left_iff.1 hlogs
  obtain rfl := List.forall₂_nil_left_iff.1 hnil
  obtain ⟨logs, hlogs', hcalls'⟩ := hrest.calls
  have hlength : t.calls.length = s.calls.length + x.adapters.length := by
    simp [hcalls, Surroundings.callsFor]
  constructor
  · rw [hrest.now, hfirst.now]
  · rw [hrest.worker, hfirst.worker]
  · rw [hrest.failures, hfirst.failures]
  · rw [hrest.ids, hfirst.ids]
  · rw [hfirst.now] at hlogs'
    refine ⟨log :: logs, .cons hlog hlogs', ?_⟩
    rw [hcalls', hcalls, List.append_assoc, ← List.flatMap_append]
    rfl
  · intro j d hd
    cases j with
    | zero =>
      obtain rfl : e = d := by simpa using hd
      rw [hrest.others e.id hnew]
      exact hfirst.delivered 0 e rfl
    | succ j =>
      have hd' := hrest.delivered j d (by simpa using hd)
      rw [hfirst.now, hlength] at hd'
      rw [hd', Nat.add_mul, Nat.one_mul, Nat.add_assoc, Nat.add_comm x.adapters.length]
  · intro id hid
    rw [List.map_cons, List.mem_cons, not_or] at hid
    rw [hrest.others id hid.2, hfirst.others id (by simpa using hid.1)]

end Worked

end Bench

namespace Surroundings

open Bench

variable (x : Surroundings) (w : WorkerSettings) {s t : Bench} {e : Event}

/-- What a claim and the record of an outcome make of the log, if nothing else happens to it. -/
theorem worked_modify (hs : s.Awaits e) {g : Event → Event} (hid : ∀ f, (g f).id = f.id)
    (hg : g (Store.claimed (w.leaseEnd s.now) e) = e.delivered w.retry s.now (x.chance e.id)
      (x.dispatched s.calls.length)) :
    Worked x w [e] s { s with
      store := (s.store.modify e.id (Store.claimed (w.leaseEnd s.now))).modify e.id g
      calls := s.calls ++
        x.callsFor (.ofEvent e) (s.store.modify e.id (Store.claimed (w.leaseEnd s.now))) } := by
  have hfind : ∀ id, ((s.store.modify e.id (Store.claimed (w.leaseEnd s.now))).modify e.id g).find?
      id = if id = e.id then (s.store.find? id).map (g ∘ Store.claimed (w.leaseEnd s.now))
        else s.store.find? id := by
    intro id
    rw [Store.find?_modify hid, Store.find?_modify (Store.id_claimed _)]
    by_cases h : id = e.id
    · simp [h]
    · simp [h]
  have hids : ∀ (store : Store) (f : Event → Event), (∀ d, (f d).id = d.id) →
      (store.modify e.id f).events.map Event.id = store.events.map Event.id := by
    intro store f hf
    rw [Store.events_modify, List.map_map]
    refine List.map_congr_left fun d _ => ?_
    show (if d.id = e.id then f d else d).id = d.id
    split
    · exact hf d
    · rfl
  constructor
  · rfl
  · rfl
  · rfl
  · exact (hids _ g hid).trans (hids _ _ (Store.id_claimed _))
  · refine ⟨[s.store.modify e.id (Store.claimed (w.leaseEnd s.now))], .cons ?_ .nil, by simp⟩
    rw [Store.find?_modify (Store.id_claimed _), if_pos rfl, hs.found, Option.map_some]
  · intro j d hd
    obtain ⟨rfl, rfl⟩ : j = 0 ∧ e = d := by
      cases j with
      | zero => exact ⟨rfl, by simpa using hd⟩
      | succ j => simp at hd
    rw [hfind, if_pos rfl, hs.found, Option.map_some, Function.comp_apply, hg, Nat.zero_mul,
      Nat.add_zero]
  · intro id hmem
    rw [hfind, if_neg (by simpa using hmem)]

/-- The first event of a batch is claimed, dispatched and settled before the next one is tried. -/
theorem work_cons (hs : s.Undisturbed) (he : s.Awaits e)
    (hcount : e.IsCountable w.retry s.now (x.chance e.id)) (rest : List Event) (r : CycleReport) :
    ∃ d t, (x.host w).work (e :: rest) r s = (x.host w).work rest ((r.claim e).settle d) t ∧
      Worked x w [e] s t := by
  have hclaimable : s.store.claimable s.now e.id e.status = true := by
    simp [Store.claimable, he.found, he.due]
  let claimed := s.store.modify e.id (Store.claimed (w.leaseEnd s.now))
  have hwon : w.claim s.now s.worker.cancelled e s.store = (.claimed, claimed) := by
    simp [WorkerSettings.claim, hs.going, Store.claim, hclaimable, claimed]
  have hclaim : (x.host w).claim e s = (.ok .claimed, { s with store := claimed }) := by
    simp only [host, hwon]
  have hdispatch : (x.host w).dispatch (.ofEvent e) { s with store := claimed } =
      (.ok (x.dispatched s.calls.length),
        { s with store := claimed, calls := s.calls ++ x.callsFor (.ofEvent e) claimed }) :=
    x.dispatch_eq _ _
  obtain ⟨-, hpast, -⟩ | ⟨hpos, -⟩ | ⟨d, g, houtcome, hsettled⟩ := w.retry.settle_cases s.now e
    (x.dispatched s.calls.length).attempt claimed (x.chance e.id)
  · rw [hcount.nextFailure_eq] at hpast
    exact absurd hpast hcount.time
  · have hwrites : claimed.outcomeFailures = 0 := hs.writes
    rw [hwrites] at hpos
    exact absurd hpos (Nat.lt_irrefl 0)
  · have hsettle : (x.host w).settle e (x.dispatched s.calls.length).attempt
        { s with store := claimed, calls := s.calls ++ x.callsFor (.ofEvent e) claimed } =
        (.ok d, { s with
          store := claimed.modify e.id g
          calls := s.calls ++ x.callsFor (.ofEvent e) claimed }) := by
      simp only [host, hsettled]
    refine ⟨d, _, ?_, x.worked_modify w he houtcome.id_eq (houtcome.eq_delivered hcount _)⟩
    rw [CycleHost.work, Running.bind_of_ok hclaim]
    exact (Running.bind_of_ok hdispatch).trans (Running.bind_of_ok hsettle)

/-- What a cycle counts of a batch that is worked off. -/
structure Counted (n : Nat) (r r' : CycleReport) : Prop where
  skipped : r'.skipped = r.skipped
  fetched : r'.fetched = r.fetched
  claimed : r'.claimed = r.claimed + n
  conflicts : r'.conflicts = r.conflicts

theorem counted_settle (r : CycleReport) (e : Event) (d : Disposition) :
    Counted 1 r ((r.claim e).settle d) := by
  cases d <;> exact ⟨rfl, rfl, rfl, rfl⟩

/-- A batch is worked off event by event. The induction is on the batch; what carries it is that
the events that are still to come are as they were fetched. -/
theorem worked {batch : List Event} (hs : s.Undisturbed)
    (hawaits : ∀ e ∈ batch, s.Awaits e) (hdistinct : batch.Pairwise fun a b => a.id ≠ b.id)
    (hcount : ∀ e ∈ batch, e.IsCountable w.retry s.now (x.chance e.id)) (r : CycleReport) :
    ∃ r' t, (x.host w).work batch r s = (.ok r', t) ∧ Worked x w batch s t ∧
      Counted batch.length r r' := by
  induction batch generalizing s r with
  | nil => exact ⟨r, s, rfl, .nil x w s, rfl, rfl, rfl, rfl⟩
  | cons e rest ih =>
    obtain ⟨hne, hrest⟩ := List.pairwise_cons.1 hdistinct
    have hnew : e.id ∉ rest.map Event.id := by
      intro hmem
      obtain ⟨d, hd, hid⟩ := List.mem_map.1 hmem
      exact hne d hd hid.symm
    obtain ⟨d, t, hwork, hfirst⟩ := x.work_cons w hs (hawaits e List.mem_cons_self)
      (hcount e List.mem_cons_self) rest r
    have hawaits' : ∀ d ∈ rest, t.Awaits d := by
      intro d hd
      refine hfirst.awaits (hawaits d (List.mem_cons_of_mem _ hd)) ?_
      simpa using (hne d hd).symm
    have hcount' : ∀ d ∈ rest, d.IsCountable w.retry t.now (x.chance d.id) := by
      rw [hfirst.now]
      exact fun d hd => hcount d (List.mem_cons_of_mem _ hd)
    obtain ⟨r', u, hwork', hworked, hcounted⟩ := ih (hfirst.undisturbed hs) hawaits' hrest hcount'
      ((r.claim e).settle d)
    have hone := counted_settle r e d
    refine ⟨r', u, hwork.trans hwork', hfirst.cons hworked hnew, ?_⟩
    constructor
    · rw [hcounted.skipped, hone.skipped]
    · rw [hcounted.fetched, hone.fetched]
    · rw [hcounted.claimed, hone.claimed, List.length_cons]
      omega
    · rw [hcounted.conflicts, hone.conflicts]

end Surroundings

/-! ### A whole call -/

namespace Bench

/-- The bench when a cycle has begun. -/
def entered (s : Bench) : Bench := { s with worker := { s.worker with busy := true } }

/-- The events that the worker fetches. -/
def batch (s : Bench) : List Event := s.store.oldestDue s.now s.worker.settings.batchSize

/-- The worker can go to work, and nothing will disturb it. -/
structure IsReady (x : Surroundings) (s : Bench) : Prop extends s.Undisturbed where
  /-- No cycle is in progress. -/
  idle : s.worker.busy = false
  /-- The events are in the order of their numbers. -/
  ordered : s.store.Ordered
  /-- The fetch succeeds. -/
  fetches : s.store.fetchFailure = none
  /-- The counters can go up, and retry times are in the calendar. -/
  countable : ∀ e ∈ s.batch, e.IsCountable s.worker.settings.retry s.now (x.chance e.id)

/-- What a call of a worker comes to that nobody disturbs. -/
structure Completed (x : Surroundings) (s : Bench) (report : CycleReport) (t : Bench) : Prop where
  /-- Every event of the batch is claimed. -/
  fetched : report.fetched = s.batch.length
  claimed : report.claimed = s.batch.length
  conflicts : report.conflicts = 0
  skipped : report.skipped = false
  /-- An event of the batch is as its own dispatch has it. -/
  delivered : ∀ (j : Nat) (e : Event), s.batch[j]? = some e →
    t.store.find? e.id = some (e.delivered s.worker.settings.retry s.now (x.chance e.id)
      (x.dispatched (s.calls.length + j * x.adapters.length)))
  /-- Every other event is as it was, and none is added or lost. -/
  others : ∀ e ∈ s.store.events, e ∉ s.batch → t.store.find? e.id = some e
  ids : t.store.events.map Event.id = s.store.events.map Event.id
  /-- The adapters are called for one event after the other, each of which is then in processing
  until the worker's claim of it ends. -/
  calls : ∃ logs : List Store,
    List.Forall₂ (fun e log => log.find? e.id = some { e with
      status := .processing, nextRunAt := some (s.worker.settings.leaseEnd s.now) }) s.batch logs ∧
    t.calls = s.calls ++ (s.batch.zip logs).flatMap fun (e, log) => x.callsFor (.ofEvent e) log
  /-- The events stand in the batch as they were appended. -/
  ascending : s.batch.Pairwise fun a b =>
    a.createdAt < b.createdAt ∨ a.createdAt = b.createdAt ∧ a.id < b.id
  /-- The worker has added what it did, and is idle. -/
  worker : t.worker = s.worker.record report

end Bench

namespace Surroundings

open Bench

variable (x : Surroundings) {s t : Bench}

theorem leaveAfter_eq {w : WorkerSettings}
    {m : Running Bench (Except DeliveryError CycleReport)}
    {result : Except Breakdown (Except DeliveryError CycleReport)} (h : m s = (result, t)) :
    (x.host w).leaveAfter m s = (result, { t with worker := t.worker.leave }) := by
  simp only [host, h]

/-- A call of an idle worker runs a cycle and adds what that did. -/
theorem poll_eq (hidle : s.worker.busy = false) (hfetch : s.store.fetchFailure = none)
    {report : CycleReport}
    (hwork : (x.host s.worker.settings).work s.batch { fetched := s.batch.length } s.entered =
      (.ok report, t)) :
    (x.host s.worker.settings).poll s =
      (.ok (.ok report), { t with worker := (t.worker.record report).leave }) := by
  have henter : (x.host s.worker.settings).enter s = (.ok true, s.entered) := by
    simp only [host, Worker.enter_of_idle hidle, entered]
  have hbatch : (x.host s.worker.settings).fetch s.entered = (.ok (.ok s.batch), s.entered) := by
    simp only [host, entered, Store.fetch, hfetch, batch]
  have hrun : (x.host s.worker.settings).run s.entered = (.ok (.ok report), t) := by
    rw [CycleHost.run, Running.bind_of_ok hbatch]
    simp only [map_eq_pure_bind]
    exact Running.bind_of_ok hwork
  have hcomplete : (x.host s.worker.settings).complete s.entered =
      (.ok (.ok report), { t with worker := t.worker.record report }) := by
    rw [PollHost.complete, Running.bind_of_ok hrun]
    rfl
  rw [PollHost.poll, Running.bind_of_ok henter]
  exact x.leaveAfter_eq hcomplete

end Surroundings

open Bench in
/-- A worker that nobody disturbs delivers every event of its batch as the dispatch of that event
has it, and nothing else happens to the log. -/
theorem cycle_isolates {x : Surroundings} {s : Bench} (h : s.IsReady x) :
    ∃ report t, (x.host s.worker.settings).poll s = (.ok (.ok report), t) ∧
      Completed x s report t := by
  have hundisturbed : s.entered.Undisturbed :=
    ⟨h.going, h.writes⟩
  have hawaits : ∀ e ∈ s.batch, s.entered.Awaits e := by
    intro e he
    obtain ⟨hmem, hdue⟩ := Store.of_mem_oldestDue he
    exact ⟨h.ordered.find?_of_mem hmem, hdue⟩
  obtain ⟨report, t, hwork, hworked, hcounted⟩ := x.worked s.worker.settings hundisturbed hawaits
    (h.ordered.oldestDue_distinct ..) h.countable { fetched := s.batch.length }
  refine ⟨report, _, x.poll_eq h.idle h.fetches hwork, ?_⟩
  constructor
  · exact hcounted.fetched
  · rw [hcounted.claimed, Nat.zero_add]
  · exact hcounted.conflicts
  · exact hcounted.skipped
  · exact hworked.delivered
  · intro e he hmem
    have hid : e.id ∉ s.batch.map Event.id := by
      intro hid
      obtain ⟨d, hd, heq⟩ := List.mem_map.1 hid
      -- An event of the batch with this number is the same, as the numbers are different ones.
      have hfound := h.ordered.find?_of_mem (Store.of_mem_oldestDue hd).1
      rw [heq, h.ordered.find?_of_mem he, Option.some_inj] at hfound
      exact hmem (hfound ▸ hd)
    exact (hworked.others e.id hid).trans (h.ordered.find?_of_mem he)
  · exact hworked.ids
  · exact hworked.calls
  · exact (h.ordered.oldestDue_ascending ..).imp Event.precedes_iff.1
  · show (t.worker.record report).leave = _
    rw [hworked.worker]
    simp [entered, Worker.record, Worker.leave, h.idle]

namespace Bench

/-- The first of two changes of employees. -/
def hiring : Event := .ofMutation ⟨"employee", "EMP0001", .create, .null⟩ 1 .epoch

/-- The second of them. -/
def moving : Event := .ofMutation ⟨"employee", "EMP0002", .update, .null⟩ 2 .epoch

/-- A log with the two changes, and a worker for them. -/
def two : Bench where
  store := .ofEvents [moving, hiring]
  now := .epoch
  worker := {}

theorem batch_two : two.batch = [hiring, moving] := by
  unfold batch Store.oldestDue
  rw [List.mergeSort_of_pairwise (by decide)]
  decide

end Bench

/-- An adapter that refuses the first change and takes over all others. -/
def Surroundings.refusing : Surroundings where
  adapters := ["payroll"]
  limit := .ofMillis 10000
  ends n := .answered ⟨n != 0, "refused"⟩
  chance _ := .middle

theorem Bench.isReady_two : Bench.two.IsReady .refusing := by
  constructor
  · exact ⟨rfl, rfl⟩
  · rfl
  · exact Store.ordered_ofEvents _
  · rfl
  · rw [batch_two]
    simp only [List.forall_mem_cons]
    refine ⟨⟨?_, ?_⟩, ⟨?_, ?_⟩, fun _ h => absurd h List.not_mem_nil⟩ <;> decide

/-- The first change is refused, and the second one is synced in spite of that. -/
theorem cycle_isolates_refused :
    Bench.two.IsReady .refusing ∧
      ∃ report t, (Surroundings.refusing.host {}).poll Bench.two = (.ok (.ok report), t) ∧
        t.store.find? 1 = some { Bench.hiring with
          status := .failed, attempts := 1, lastError := some "refused"
          nextRunAt := Instant.epoch.after? (.ofMillis 5000) } ∧
        t.store.find? 2 = some { Bench.moving with
          status := .success, processedAt := some .epoch } := by
  refine ⟨Bench.isReady_two, ?_⟩
  obtain ⟨report, t, hpoll, hcompleted⟩ := cycle_isolates Bench.isReady_two
  have hdelivered := hcompleted.delivered
  rw [Bench.batch_two] at hdelivered
  refine ⟨report, t, hpoll, ?_, ?_⟩
  · refine (hdelivered 0 Bench.hiring rfl).trans ?_
    decide
  · exact hdelivered 1 Bench.moving rfl

end Outbox
