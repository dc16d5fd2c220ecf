import Outbox.Proofs.Dialogue
import Outbox.Proofs.Fleet.Basic

/-!
# One cycle at a time

A worker may be called from many sides: by its own loop, by the engine, and even by an adapter
that it has called itself. `PollHost.poll` is what such a call does. It runs here as a dialogue: a
`Routine` is the tree of the atomic steps that are still to be taken. Any step that asks the event
log or the adapters may break down, and the routine of a cycle goes on with its end then
(`Routine.leaving`).

A `Workplace` is a worker with all the calls that were made of it. Any of them may take the next
step at any time, and between two steps anything may happen to the event log and to the clock.
`Guarded` ties the worker's flag to the one call, if any, whose cycle is in progress, and every
step keeps it. So the flag can neither be set twice nor be left behind.
-/

namespace Outbox

/-! ### What a call does -/

/-- What a call of a worker asks of its surroundings, in one atomic step. -/
inductive Ask where
  /-- To begin a cycle, unless one is in progress. -/
  | enter
  /-- To end the cycle. -/
  | leave
  /-- To add what the cycle did. -/
  | record (r : CycleReport)
  /-- To fetch a batch. -/
  | fetch
  /-- To claim an event. -/
  | claim (e : Event)
  /-- To begin the call of the adapter at a place. -/
  | call (place : Nat) (r : SyncRequest)
  /-- To wait for the end of the call of the adapter at a place. -/
  | await (place : Nat)
  /-- To record how the dispatch of an event went. -/
  | settle (e : Event) (result : AttemptResult)
  deriving DecidableEq

namespace Ask

/-- What is answered. -/
def Answer : Ask → Type
  | enter => Bool
  | leave => Unit
  | record _ => Unit
  | fetch => Except StoreError (List Event)
  | claim _ => ClaimEnd
  | call .. => Unit
  | await _ => CallEnd SyncOutcome
  | settle .. => Disposition

/-- It begins or ends a cycle. -/
def isGuard : Ask → Bool
  | enter | leave => true
  | _ => false

/-- It is the worker's own affair, in which nothing can break down. -/
def isOwn : Ask → Bool
  | enter | leave | record _ => true
  | _ => false

end Ask

/-- What is still to be done by a call, one atomic step after the other. There may be no answer to
what it asks, and no result if it has broken down. -/
abbrev Routine : Type → Type := OptionT (Dialogue fun q : Ask => Option q.Answer)

namespace Routine

variable {α β : Type}

/-- To ask for something, and to break down if that does. -/
def asking (q : Ask) : Routine q.Answer := .ask q .done

/-- To do something and to end the cycle after it, also if it breaks down. -/
def leaving : Routine α → Routine α
  | .done a => .ask .leave fun _ => .done a
  | .ask q next => .ask q fun a => leaving (next a)

/-- A dispatch asks for calls and waits for their ends. -/
def dispatchHost : DispatchHost Routine Nat where
  call place r := do
    let _ ← asking (.call place r)
    return place
  await place := asking (.await place)

/-- A call asks the worker, the event log and the adapters with these names. -/
def pollHost (adapters : List String) (limit : Span) : PollHost Routine where
  fetch := asking .fetch
  claim e := asking (.claim e)
  dispatch := dispatchHost.run adapters limit
  settle e result := asking (.settle e result)
  enter := asking .enter
  leaveAfter := leaving
  record r := asking (.record r)

/-- A whole call. -/
def poll (adapters : List String) (limit : Span) : Routine (Except DeliveryError CycleReport) :=
  (pollHost adapters limit).poll

/-- A cycle of the call has begun and not ended. -/
def IsInCycle : Routine α → Prop
  | .ask q _ => q ≠ .enter
  | .done _ => False

/-- The call has come to an end. -/
def IsOver : Routine α → Prop
  | .ask .. => False
  | .done _ => True

/-- The call has come to an end that a cycle has: a report, an error or a breakdown. -/
def EndsCycle : Routine (Except DeliveryError CycleReport) → Prop
  | .done (some (.ok r)) => r.skipped = false
  | .done (some (.error _)) => True
  | .done none => True
  | .ask .. => False

/-! ### The routine of a cycle -/

/-- Anything may be asked for but to begin or to end a cycle. -/
def aside : Protocol (fun q : Ask => Option q.Answer) Unit where
  May _ q := q.isGuard = false
  Leads _ _ _ _ := True

/-- The routine neither begins nor ends a cycle, and comes to what it should, unless it breaks
down. -/
def Works (post : α → Prop) (p : Routine α) : Prop :=
  Dialogue.Follows aside (fun result _ => ∀ a, result = some a → post a) p ()

theorem works_done {post : α → Prop} {a : α} (h : post a) : Works post (.done (some a)) := by
  rintro _ ⟨⟩
  exact h

theorem works_asking {q : Ask} (h : q.isGuard = false) : Works (fun _ => True) (asking q) :=
  ⟨h, fun _ _ _ _ _ => trivial⟩

theorem Works.bind {post : α → Prop} {post' : β → Prop} {p : Routine α} {f : α → Routine β}
    (h : Works post p) (hf : ∀ a, post a → Works post' (f a)) : Works post' (p >>= f) :=
  Dialogue.Follows.bindOption h (fun a _ ha => hf a (ha a rfl)) fun _ _ => nofun

variable (adapters : List String) (limit : Span)

/-- A dispatch keeps what each call and each wait for its end keeps. -/
theorem keeps_dispatch {σ : Type} {r : Protocol (fun q : Ask => Option q.Answer) σ}
    {inv : σ → Prop} {change : SyncRequest}
    (hcall : ∀ place, Dialogue.Keeps r inv (asking (.call place change)))
    (hawait : ∀ place, Dialogue.Keeps r inv (asking (.await place))) :
    Dialogue.Keeps r inv (dispatchHost.run adapters limit change) := by
  have hcalls : Dialogue.Keeps r inv (dispatchHost.callAll adapters change) :=
    Dialogue.keeps_mapM_option (fun (_, place) => ((hcall place).bindOption fun _ _ hs => hs :
      Dialogue.Keeps r inv (dispatchHost.call place change)).bindOption fun _ _ hs => hs) _
  have hwaits (calls : List (String × Nat)) : Dialogue.Keeps r inv
      (dispatchHost.awaitAll (AdapterOutcome.ofCall limit) calls) :=
    Dialogue.keeps_mapM_option (fun (_, place) => (hawait place).bindOption fun _ _ hs => hs) _
  exact (hcalls.bindOption hwaits).bindOption fun _ _ hs => hs

theorem works_dispatch (r : SyncRequest) :
    Works (fun _ => True) (dispatchHost.run adapters limit r) := by
  have hkeeps : Dialogue.Keeps aside (fun _ => True) (dispatchHost.run adapters limit r) :=
    keeps_dispatch adapters limit (fun _ _ _ => ⟨rfl, fun _ _ _ => trivial⟩)
      fun _ _ _ => ⟨rfl, fun _ _ _ => trivial⟩
  exact (hkeeps () trivial).imp fun _ _ _ _ _ => trivial

/-- To count what came of an event does not make a skipped cycle of it. -/
theorem skipped_settle (r : CycleReport) (d : Disposition) : (r.settle d).skipped = r.skipped := by
  cases d <;> rfl

theorem works_work (batch : List Event) {r : CycleReport} (h : r.skipped = false) :
    Works (fun report => report.skipped = false) ((pollHost adapters limit).work batch r) := by
  induction batch generalizing r with
  | nil => exact works_done h
  | cons e rest ih =>
    refine (works_asking rfl : Works _ (asking (.claim e))).bind fun a _ => ?_
    cases a with
    | cancelled => exact works_done h
    | conflict => exact ih h
    | failed error => exact ih h
    | claimed =>
      refine (works_dispatch adapters limit (.ofEvent e)).bind fun d _ => ?_
      have hsettle : Works _ (asking (.settle e d.attempt)) := works_asking rfl
      refine hsettle.bind fun disposition _ => ?_
      exact ih ((skipped_settle (r.claim e) disposition).trans h)

/-- A cycle comes to a report of a cycle that was not skipped, or to an error. -/
theorem works_complete :
    Works (fun result => EndsCycle (.done (some result))) (pollHost adapters limit).complete := by
  have hrun : Works (fun result => EndsCycle (.done (some result)))
      (pollHost adapters limit).run := by
    refine (works_asking rfl : Works _ (asking .fetch)).bind fun a _ => ?_
    cases a with
    | error e => exact works_done trivial
    | ok batch => exact (works_work adapters limit batch rfl).bind fun report h => works_done h
  refine hrun.bind fun result hresult => ?_
  cases result with
  | error e => exact works_done trivial
  | ok report =>
    exact (works_asking rfl : Works _ (asking (.record report))).bind fun _ _ => works_done hresult

/-- A cycle is in progress, and however it goes on, the routine ends it, and itself after that. -/
inductive Closes : Routine (Except DeliveryError CycleReport) → Prop where
  /-- The next step does not end it. -/
  | goesOn {q : Ask} {next : Option q.Answer → Routine (Except DeliveryError CycleReport)}
      (hq : q.isGuard = false) (h : ∀ a, Closes (next a)) : Closes (.ask q next)
  /-- The next step ends it. -/
  | ends {next : Option Unit → Routine (Except DeliveryError CycleReport)}
      (h : (next (some ())).EndsCycle) : Closes (.ask .leave next)

theorem Works.closes {p : Routine (Except DeliveryError CycleReport)}
    (h : Works (fun result => EndsCycle (.done (some result))) p) : p.leaving.Closes := by
  induction p with
  | done result =>
    cases result with
    | none => exact .ends trivial
    | some result => exact .ends (h result rfl)
  | ask q next ih => exact .goesOn h.1 fun a => ih a (h.2 a () trivial)

theorem Closes.isInCycle {p : Routine (Except DeliveryError CycleReport)} (h : p.Closes) :
    p.IsInCycle := by
  cases h with
  | goesOn hq _ =>
    rintro rfl
    cases hq
  | ends _ => exact nofun

theorem EndsCycle.isOver {p : Routine (Except DeliveryError CycleReport)} (h : p.EndsCycle) :
    p.IsOver := by
  cases p with
  | ask q next => exact h
  | done a => trivial

theorem IsOver.not_isInCycle {p : Routine α} (h : p.IsOver) : ¬ p.IsInCycle := by
  cases p with
  | ask q next => exact h.elim
  | done a => exact id

/-- A call enters at first. If a cycle is in progress, that is all, and else it runs one. -/
theorem poll_eq : ∃ next, poll adapters limit = .ask .enter next ∧
    next (some false) = .done (some (.ok { skipped := true })) ∧ Closes (next (some true)) :=
  ⟨_, rfl, rfl, (works_complete adapters limit).closes⟩

end Routine

/-! ### A worker and the calls of it -/

/-- A worker, what it works on, and the calls of it, which are named by `κ`. -/
structure Workplace (κ : Type) where
  /-- The event log. -/
  store : Store := {}
  /-- The time. -/
  now : Instant
  /-- The worker. -/
  worker : Worker
  /-- The names of the adapters. -/
  adapters : List String
  /-- How long a call to an adapter may take. -/
  limit : Span
  /-- What went on between the worker and the adapters. -/
  exchanges : List Exchange := []
  /-- What is still to be done by a call, once it is made. -/
  call : κ → Option (Routine (Except DeliveryError CycleReport)) := fun _ => none

namespace Workplace

variable {κ : Type}

/-- A worker of which no call was made yet. -/
def start (now : Instant) (store : Store) (settings : WorkerSettings) (adapters : List String)
    (limit : Span) : Workplace κ where
  store := store
  now := now
  worker := { settings := settings }
  adapters := adapters
  limit := limit

/-- A cycle of the call is in progress. -/
def IsInCycle (s : Workplace κ) (k : κ) : Prop := ∃ p, s.call k = some p ∧ p.IsInCycle

/-- The call is made and has not taken its first step. -/
def IsMade (s : Workplace κ) (k : κ) : Prop := s.call k = some (.poll s.adapters s.limit)

/-- What a call is answered, and what it changes. How a call to an adapter ends is given, and so
is the chance by which a delay is spread. -/
def answer (s : Workplace κ) (given : CallEnd SyncOutcome) (chance : Chance) :
    (q : Ask) → Option q.Answer × Workplace κ
  | .enter =>
    let (entered, worker) := s.worker.enter
    (some entered, { s with worker := worker })
  | .leave => (some (), { s with worker := s.worker.leave })
  | .record r => (some (), { s with worker := s.worker.record r })
  | .fetch =>
    let (a, store) := s.store.fetch s.now s.worker.settings.batchSize
    (some a, { s with store := store })
  | .claim e =>
    let (a, store) := s.worker.settings.claim s.now s.worker.cancelled e s.store
    (some a, { s with store := store })
  | .call place r => (some (), { s with exchanges := s.exchanges ++ [.call place r] })
  | .await place => (some given, { s with exchanges := s.exchanges ++ [.answer place given] })
  | .settle e result =>
    let (d, store) := s.worker.settings.retry.settle s.now e result s.store chance
    (d.toOption, { s with store := store })

/-- Something that happens, in one atomic step. -/
inductive Move (κ : Type) where
  /-- Others change the event log, and the clock moves. -/
  | meanwhile (store : Store) (now : Instant)
  /-- The worker is told to stop. -/
  | cancel
  /-- It is noted whether the worker's loop is running. -/
  | setRunning (running : Bool)
  /-- A call is made. -/
  | make (k : κ)
  /-- A call takes its next step. -/
  | proceed (k : κ) (given : CallEnd SyncOutcome) (chance : Chance)
  /-- What a call asks of the event log or of the adapters breaks down. -/
  | breakDown (k : κ)

variable [DecidableEq κ]

/-- The call goes on with a routine. -/
def goOn (s : Workplace κ) (k : κ) (p : Routine (Except DeliveryError CycleReport)) :
    Workplace κ :=
  { s with call := Function.update s.call k (some p) }

/-- The call takes its next step. -/
def proceed (s : Workplace κ) (k : κ) (given : CallEnd SyncOutcome) (chance : Chance) :
    Workplace κ :=
  match s.call k with
  | some (.ask q next) =>
    let (a, s) := s.answer given chance q
    s.goOn k (next a)
  | _ => s

/-- What the call asks for breaks down. -/
def breakDown (s : Workplace κ) (k : κ) : Workplace κ :=
  match s.call k with
  | some (.ask q next) => if q.isOwn then s else s.goOn k (next none)
  | _ => s

/-- What comes of a step. -/
def step (s : Workplace κ) : Move κ → Workplace κ
  | .meanwhile store now => { s with store := store, now := now }
  | .cancel => { s with worker := s.worker.cancel }
  | .setRunning running => { s with worker := s.worker.setRunning running }
  | .make k => if s.call k = none then s.goOn k (.poll s.adapters s.limit) else s
  | .proceed k given chance => s.proceed k given chance
  | .breakDown k => s.breakDown k

/-- What comes of a run. -/
def run (s : Workplace κ) (moves : List (Move κ)) : Workplace κ := moves.foldl step s

/-! ### What a step changes -/

@[simp] theorem call_goOn_self (s : Workplace κ) (k : κ)
    (p : Routine (Except DeliveryError CycleReport)) : (s.goOn k p).call k = some p :=
  Function.update_self ..

theorem call_goOn_of_ne {j k : κ} (h : j ≠ k) (s : Workplace κ)
    (p : Routine (Except DeliveryError CycleReport)) : (s.goOn k p).call j = s.call j :=
  Function.update_of_ne h ..

@[simp] theorem worker_goOn (s : Workplace κ) (k : κ)
    (p : Routine (Except DeliveryError CycleReport)) : (s.goOn k p).worker = s.worker := rfl

theorem isInCycle_goOn_self {s : Workplace κ} {k : κ}
    {p : Routine (Except DeliveryError CycleReport)} :
    (s.goOn k p).IsInCycle k ↔ p.IsInCycle := by
  simp [IsInCycle]

theorem isInCycle_goOn_of_ne {s : Workplace κ} {j k : κ}
    {p : Routine (Except DeliveryError CycleReport)} (h : j ≠ k) :
    (s.goOn k p).IsInCycle j ↔ s.IsInCycle j := by
  simp [IsInCycle, call_goOn_of_ne h]

/-- All that the calls have still to do is the same. -/
structure SameCalls (s t : Workplace κ) : Prop where
  call : t.call = s.call
  adapters : t.adapters = s.adapters
  limit : t.limit = s.limit

omit [DecidableEq κ] in
theorem SameCalls.isInCycle {s t : Workplace κ} (h : SameCalls s t) (k : κ) :
    t.IsInCycle k ↔ s.IsInCycle k := by
  rw [IsInCycle, IsInCycle, h.call]

omit [DecidableEq κ] in
/-- An answer touches no call, and the worker's flag only if that is asked for. -/
theorem sameCalls_answer (s : Workplace κ) (given : CallEnd SyncOutcome) (chance : Chance)
    (q : Ask) : SameCalls s (s.answer given chance q).2 ∧
      (q.isGuard = false → (s.answer given chance q).2.worker.busy = s.worker.busy) := by
  cases q with
  | enter => exact ⟨⟨rfl, rfl, rfl⟩, nofun⟩
  | leave => exact ⟨⟨rfl, rfl, rfl⟩, nofun⟩
  | _ => exact ⟨⟨rfl, rfl, rfl⟩, fun _ => rfl⟩

/-! ### The flag -/

/-- The worker's flag is set exactly while a cycle is in progress, which is then the only one.
Every call has not begun, or has a cycle in progress that it will end, or is over. -/
structure Guarded (s : Workplace κ) : Prop where
  call : ∀ k p, s.call k = some p → p = .poll s.adapters s.limit ∨ p.Closes ∨ p.IsOver
  busy : s.worker.busy = true ↔ ∃ k, s.IsInCycle k
  one : ∀ j k, s.IsInCycle j → s.IsInCycle k → j = k

section

variable {s t : Workplace κ} {k : κ} {p : Routine (Except DeliveryError CycleReport)}

omit [DecidableEq κ] in
theorem Guarded.sameCalls (h : Guarded s) (hsame : SameCalls s t)
    (hbusy : t.worker.busy = s.worker.busy) : Guarded t := by
  refine ⟨?_, ?_, ?_⟩
  · rw [hsame.call, hsame.adapters, hsame.limit]
    exact h.call
  · rw [hbusy, h.busy]
    exact exists_congr fun j => (hsame.isInCycle j).symm
  · intro j j' hj hj'
    exact h.one j j' ((hsame.isInCycle j).1 hj) ((hsame.isInCycle j').1 hj')

/-- A call goes on, and the flag tells whether a cycle is in progress then. -/
theorem Guarded.goOn (h : Guarded s) (hsame : SameCalls s t)
    (hp : p = .poll s.adapters s.limit ∨ p.Closes ∨ p.IsOver)
    (hbusy : t.worker.busy = true ↔ p.IsInCycle ∨ ∃ j, j ≠ k ∧ s.IsInCycle j)
    (hone : p.IsInCycle → ∀ j, s.IsInCycle j → j = k) : Guarded (t.goOn k p) := by
  have hother : ∀ j, j ≠ k → ((t.goOn k p).IsInCycle j ↔ s.IsInCycle j) := fun j hj =>
    (isInCycle_goOn_of_ne hj).trans (hsame.isInCycle j)
  refine ⟨?_, ?_, ?_⟩
  · intro j q hq
    change q = .poll t.adapters t.limit ∨ _
    rw [hsame.adapters, hsame.limit]
    by_cases hj : j = k
    · subst hj
      rw [call_goOn_self, Option.some_inj] at hq
      exact hq ▸ hp
    · rw [call_goOn_of_ne hj, hsame.call] at hq
      exact h.call j q hq
  · rw [worker_goOn, hbusy]
    constructor
    · rintro (hk | ⟨j, hj, hcycle⟩)
      · exact ⟨k, isInCycle_goOn_self.2 hk⟩
      · exact ⟨j, (hother j hj).2 hcycle⟩
    · rintro ⟨j, hcycle⟩
      by_cases hj : j = k
      · subst hj
        exact .inl (isInCycle_goOn_self.1 hcycle)
      · exact .inr ⟨j, hj, (hother j hj).1 hcycle⟩
  · have hself : ∀ j, (t.goOn k p).IsInCycle k → (t.goOn k p).IsInCycle j → j = k := by
      intro j hk hcycle
      by_contra hj
      exact hj (hone (isInCycle_goOn_self.1 hk) j ((hother j hj).1 hcycle))
    intro i j hi hj
    by_cases hik : i = k
    · subst hik
      exact (hself j hi hj).symm
    · by_cases hjk : j = k
      · subst hjk
        exact hself i hj hi
      · exact h.one i j ((hother i hik).1 hi) ((hother j hjk).1 hj)

/-- A call whose cycle is in progress goes on, and so does the cycle. -/
theorem Guarded.goesOn (h : Guarded s) (hsame : SameCalls s t) (hk : s.IsInCycle k)
    (hp : p.Closes) (hbusy : t.worker.busy = s.worker.busy) : Guarded (t.goOn k p) := by
  refine h.goOn hsame (.inr (.inl hp)) ?_ fun _ j hj => h.one j k hj hk
  rw [hbusy, h.busy]
  exact ⟨fun _ => .inl hp.isInCycle, fun _ => ⟨k, hk⟩⟩

/-- A call begins a cycle while none is in progress. -/
theorem Guarded.enters (h : Guarded s) (hsame : SameCalls s t) (hidle : s.worker.busy = false)
    (hp : p.Closes) (hbusy : t.worker.busy = true) : Guarded (t.goOn k p) := by
  have hnone : ∀ j, ¬ s.IsInCycle j := fun j hj => by
    rw [h.busy.2 ⟨j, hj⟩] at hidle
    cases hidle
  refine h.goOn hsame (.inr (.inl hp)) ?_ fun _ j hj => absurd hj (hnone j)
  exact ⟨fun _ => .inl hp.isInCycle, fun _ => hbusy⟩

/-- A call ends its cycle. -/
theorem Guarded.leaves (h : Guarded s) (hsame : SameCalls s t) (hk : s.IsInCycle k)
    (hp : p.IsOver) (hbusy : t.worker.busy = false) : Guarded (t.goOn k p) := by
  refine h.goOn hsame (.inr (.inr hp)) ?_ fun hcycle => absurd hcycle hp.not_isInCycle
  rw [hbusy]
  constructor
  · exact nofun
  · rintro (hcycle | ⟨j, hj, hcycle⟩)
    · exact absurd hcycle hp.not_isInCycle
    · exact absurd (h.one j k hcycle hk) hj

/-- A call that has no cycle in progress goes on without one. -/
theorem Guarded.passes (h : Guarded s) (hsame : SameCalls s t) (hk : ¬ s.IsInCycle k)
    (hp : p = .poll s.adapters s.limit ∨ p.IsOver) (hbusy : t.worker.busy = s.worker.busy) :
    Guarded (t.goOn k p) := by
  have hcycle : ¬ p.IsInCycle := by
    rcases hp with rfl | hover
    · exact fun h => h rfl
    · exact hover.not_isInCycle
  refine h.goOn hsame (hp.imp_right .inr) ?_ fun hp => absurd hp hcycle
  rw [hbusy, h.busy]
  constructor
  · rintro ⟨j, hj⟩
    exact .inr ⟨j, fun hjk => hk (hjk ▸ hj), hj⟩
  · rintro (hp | ⟨j, -, hj⟩)
    · exact absurd hp hcycle
    · exact ⟨j, hj⟩

end

/-! ### What a call takes the next step to -/

/-- What comes of a step of a call. -/
inductive Proceeds (s : Workplace κ) (k : κ) : Workplace κ → Prop where
  /-- Nothing: the call is not made, or is over. -/
  | idle (h : ∀ p, s.call k = some p → p.IsOver) : Proceeds s k s
  /-- The call is skipped, as another one has a cycle in progress. -/
  | skipped (hmade : s.IsMade k) (hbusy : s.worker.busy = true) :
      Proceeds s k ({ s with worker := s.worker.enter.2 }.goOn k
        (.done (some (.ok { skipped := true }))))
  /-- The call begins a cycle. -/
  | entered {p : Routine (Except DeliveryError CycleReport)} (hmade : s.IsMade k)
      (hidle : s.worker.busy = false) (hp : p.Closes) :
      Proceeds s k ({ s with worker := s.worker.enter.2 }.goOn k p)
  /-- The call goes on with its cycle. -/
  | went {t : Workplace κ} {p : Routine (Except DeliveryError CycleReport)}
      (hk : s.IsInCycle k) (hsame : SameCalls s t) (hbusy : t.worker.busy = s.worker.busy)
      (hp : p.Closes) : Proceeds s k (t.goOn k p)
  /-- The call ends its cycle. -/
  | left {p : Routine (Except DeliveryError CycleReport)} (hk : s.IsInCycle k)
      (hp : p.EndsCycle) : Proceeds s k ({ s with worker := s.worker.leave }.goOn k p)

variable {s t : Workplace κ} {k : κ}

theorem Guarded.proceeds (h : Guarded s) (k : κ) (given : CallEnd SyncOutcome) (chance : Chance) :
    Proceeds s k (s.proceed k given chance) := by
  unfold proceed
  split
  case h_2 hnone =>
    refine .idle fun p hp => ?_
    cases p with
    | ask q next => exact absurd hp (hnone q next)
    | _ => trivial
  case h_1 q next hask =>
    rcases h.call k _ hask with hpoll | hcloses | hover
    · obtain ⟨next', hnext, hskip, hcycle⟩ := Routine.poll_eq s.adapters s.limit
      rw [hnext] at hpoll
      cases hpoll
      have hmade : s.IsMade k := by rw [IsMade, hask, hnext]
      cases hbusy : s.worker.busy with
      | true =>
        have hstep : Proceeds s k _ := .skipped hmade hbusy
        simpa [answer, Worker.enter_of_busy hbusy, hskip] using hstep
      | false =>
        have hstep : Proceeds s k _ := .entered hmade hbusy hcycle
        simpa [answer, Worker.enter_of_idle hbusy] using hstep
    · have hk : s.IsInCycle k := ⟨_, hask, hcloses.isInCycle⟩
      cases hcloses with
      | goesOn hq hnext =>
        obtain ⟨hsame, hbusy⟩ := s.sameCalls_answer given chance q
        exact .went hk hsame (hbusy hq) (hnext _)
      | ends hend => exact .left hk hend
    · exact hover.elim

theorem Guarded.breaks (h : Guarded s) (k : κ) : Proceeds s k (s.breakDown k) ∨
    s.breakDown k = s := by
  unfold breakDown
  split
  case h_2 => exact .inr rfl
  case h_1 q next hask =>
    split
    case isTrue => exact .inr rfl
    case isFalse hown =>
      rcases h.call k _ hask with hpoll | hcloses | hover
      · obtain ⟨next', hnext, -⟩ := Routine.poll_eq s.adapters s.limit
        rw [hnext] at hpoll
        cases hpoll
        exact absurd rfl hown
      · have hk : s.IsInCycle k := ⟨_, hask, hcloses.isInCycle⟩
        cases hcloses with
        | goesOn hq hnext => exact .inl (.went hk ⟨rfl, rfl, rfl⟩ rfl (hnext none))
        | ends hend => exact absurd rfl hown
      · exact hover.elim

theorem Proceeds.guarded (hstep : Proceeds s k t) (h : Guarded s) : Guarded t := by
  cases hstep with
  | idle _ => exact h
  | skipped hmade hbusy =>
    have hk : ¬ s.IsInCycle k := by
      rintro ⟨p, hp, hcycle⟩
      rw [hmade] at hp
      cases hp
      exact hcycle rfl
    refine h.passes ⟨rfl, rfl, rfl⟩ hk (.inr trivial) ?_
    simp [Worker.enter_of_busy hbusy]
  | entered hmade hidle hp =>
    refine h.enters ⟨rfl, rfl, rfl⟩ hidle hp ?_
    simp [Worker.enter_of_idle hidle]
  | went hk hsame hbusy hp => exact h.goesOn hsame hk hp hbusy
  | left hk hp => exact h.leaves ⟨rfl, rfl, rfl⟩ hk hp.isOver rfl

/-- A step changes what one call has still to do, or it is a step of no call. -/
theorem Guarded.step_cases (h : Guarded s) (m : Move κ) :
    (∃ k, Proceeds s k (s.step m)) ∨
      (∃ k, s.call k = none ∧ s.step m = s.goOn k (.poll s.adapters s.limit)) ∨
        SameCalls s (s.step m) ∧ (s.step m).worker.busy = s.worker.busy := by
  cases m with
  | meanwhile store now => exact .inr (.inr ⟨⟨rfl, rfl, rfl⟩, rfl⟩)
  | cancel => exact .inr (.inr ⟨⟨rfl, rfl, rfl⟩, rfl⟩)
  | setRunning running => exact .inr (.inr ⟨⟨rfl, rfl, rfl⟩, rfl⟩)
  | make k =>
    by_cases hnone : s.call k = none
    · exact .inr (.inl ⟨k, hnone, if_pos hnone⟩)
    · rw [step, if_neg hnone]
      exact .inr (.inr ⟨⟨rfl, rfl, rfl⟩, rfl⟩)
  | proceed k given chance => exact .inl ⟨k, h.proceeds k given chance⟩
  | breakDown k =>
    rw [step]
    rcases h.breaks k with hstep | heq
    · exact .inl ⟨k, hstep⟩
    · rw [heq]
      exact .inr (.inr ⟨⟨rfl, rfl, rfl⟩, rfl⟩)

theorem guarded_step (h : Guarded s) (m : Move κ) : Guarded (s.step m) := by
  obtain ⟨k, hstep⟩ | ⟨k, hnone, heq⟩ | ⟨hsame, hbusy⟩ := h.step_cases m
  · exact hstep.guarded h
  · rw [heq]
    have hk : ¬ s.IsInCycle k := by
      rintro ⟨p, hp, -⟩
      rw [hnone] at hp
      cases hp
    exact h.passes ⟨rfl, rfl, rfl⟩ hk (.inl rfl) rfl
  · exact h.sameCalls hsame hbusy

theorem guarded_run (h : Guarded s) (moves : List (Move κ)) : Guarded (s.run moves) := by
  induction moves generalizing s with
  | nil => exact h
  | cons m moves ih => exact ih (guarded_step h m)

/-! ### How a call ends -/

/-- What one call does leaves the others alone. -/
theorem Proceeds.call_of_ne {j : κ} (hstep : Proceeds s k t) (hj : j ≠ k) :
    t.call j = s.call j := by
  cases hstep with
  | idle _ => rfl
  | skipped _ _ => exact call_goOn_of_ne hj _ _
  | entered _ _ _ => exact call_goOn_of_ne hj _ _
  | went _ hsame _ _ => exact (call_goOn_of_ne hj _ _).trans (congrFun hsame.call j)
  | left _ _ => exact call_goOn_of_ne hj _ _

/-- The call has a cycle in progress, or has come to an end that a cycle has. -/
def HasBegun (s : Workplace κ) (k : κ) : Prop :=
  s.IsInCycle k ∨ ∃ p, s.call k = some p ∧ p.EndsCycle

omit [DecidableEq κ] in
theorem HasBegun.of_call_eq (h : s.HasBegun k) (heq : t.call k = s.call k) : t.HasBegun k := by
  unfold HasBegun IsInCycle at h ⊢
  rwa [heq]

omit [DecidableEq κ] in
theorem HasBegun.ne_none (h : s.HasBegun k) : s.call k ≠ none := by
  rcases h with ⟨p, hp, -⟩ | ⟨p, hp, -⟩ <;> simp [hp]

omit [DecidableEq κ] in
theorem HasBegun.not_isMade (h : s.HasBegun k) : ¬ s.IsMade k := by
  intro hmade
  rcases h with ⟨p, hp, hcycle⟩ | ⟨p, hp, hend⟩
  · rw [hmade] at hp
    cases hp
    exact hcycle rfl
  · rw [hmade] at hp
    cases hp
    exact hend

/-- A call that has begun a cycle ends as cycles end, if at all. -/
theorem HasBegun.step (hk : s.HasBegun k) (h : Guarded s) (m : Move κ) : (s.step m).HasBegun k := by
  obtain ⟨j, hstep⟩ | ⟨j, hnone, heq⟩ | ⟨hsame, -⟩ := h.step_cases m
  · by_cases hj : k = j
    · subst hj
      generalize s.step m = t at hstep
      cases hstep with
      | idle _ => exact hk
      | skipped hmade _ => exact absurd hmade hk.not_isMade
      | entered hmade _ _ => exact absurd hmade hk.not_isMade
      | went _ _ _ hp => exact .inl (isInCycle_goOn_self.2 hp.isInCycle)
      | left _ hp => exact .inr ⟨_, call_goOn_self .., hp⟩
    · exact hk.of_call_eq (hstep.call_of_ne hj)
  · have hj : k ≠ j := by
      rintro rfl
      exact hk.ne_none hnone
    rw [heq]
    exact hk.of_call_eq (call_goOn_of_ne hj _ _)
  · exact hk.of_call_eq (congrFun hsame.call k)

theorem HasBegun.run (hk : s.HasBegun k) (h : Guarded s) (moves : List (Move κ)) :
    (s.run moves).HasBegun k := by
  induction moves generalizing s with
  | nil => exact hk
  | cons m moves ih => exact ih (hk.step h m) (guarded_step h m)

/-- A call that is over does nothing more. -/
theorem over_step {p : Routine (Except DeliveryError CycleReport)} (h : Guarded s)
    (hp : s.call k = some p) (hover : p.IsOver) (m : Move κ) : (s.step m).call k = some p := by
  have hcycle : ¬ s.IsInCycle k := by
    rintro ⟨q, hq, hq'⟩
    rw [hp] at hq
    cases hq
    exact hover.not_isInCycle hq'
  have hmade : ¬ s.IsMade k := by
    intro hmade
    rw [hmade] at hp
    cases hp
    exact hover
  obtain ⟨j, hstep⟩ | ⟨j, hnone, heq⟩ | ⟨hsame, -⟩ := h.step_cases m
  · by_cases hj : k = j
    · subst hj
      generalize s.step m = t at hstep
      cases hstep with
      | idle _ => exact hp
      | skipped h _ => exact absurd h hmade
      | entered h _ _ => exact absurd h hmade
      | went h _ _ _ => exact absurd h hcycle
      | left h _ => exact absurd h hcycle
    · exact (hstep.call_of_ne hj).trans hp
  · have hj : k ≠ j := by
      rintro rfl
      rw [hnone] at hp
      cases hp
    rw [heq, call_goOn_of_ne hj, hp]
  · rw [hsame.call, hp]

theorem over_run {p : Routine (Except DeliveryError CycleReport)} (h : Guarded s)
    (hp : s.call k = some p) (hover : p.IsOver) (moves : List (Move κ)) :
    (s.run moves).call k = some p := by
  induction moves generalizing s with
  | nil => exact hp
  | cons m moves ih => exact ih (guarded_step h m) (over_step h hp hover m)

/-- A step changes what is still to be done by one call at most. -/
theorem Guarded.call_step (h : Guarded s) (m : Move κ) :
    (∃ k, ∀ j, j ≠ k → (s.step m).call j = s.call j) ∨ (s.step m).call = s.call := by
  obtain ⟨k, hstep⟩ | ⟨k, -, heq⟩ | ⟨hsame, -⟩ := h.step_cases m
  · exact .inl ⟨k, fun j hj => hstep.call_of_ne hj⟩
  · rw [heq]
    exact .inl ⟨k, fun j hj => call_goOn_of_ne hj _ _⟩
  · exact .inr hsame.call

/-! ### What the guard sees to -/

/-- What the guard of a worker sees to, now and from now on. -/
structure OneAtATime (s : Workplace κ) : Prop where
  /-- At most one cycle is in progress. -/
  one : ∀ j k, s.IsInCycle j → s.IsInCycle k → j = k
  /-- A call that comes in while one is in progress is skipped at once. That it is counted is all
  that it changes. -/
  skips : ∀ k given chance, s.IsMade k → (∃ j, s.IsInCycle j) →
    s.proceed k given chance =
      { s with worker := { s.worker with stats :=
        { s.worker.stats with skippedCycles := s.worker.stats.skippedCycles + 1 } } }.goOn k
          (.done (some (.ok { skipped := true })))
  /-- A call that comes in while none is in progress is not. -/
  enters : ∀ k given chance, s.IsMade k → (∀ j, ¬ s.IsInCycle j) →
    (s.proceed k given chance).IsInCycle k
  /-- A cycle that is in progress goes on until it ends with a report, which is not that of a
  skipped one, with an error or with a breakdown. -/
  ends : ∀ k moves, s.IsInCycle k →
    (s.run moves).IsInCycle k ∨ ∃ p, (s.run moves).call k = some p ∧ p.EndsCycle
  /-- Once it ends, none is in progress. -/
  frees : ∀ k m, s.IsInCycle k → ¬ (s.step m).IsInCycle k → ∀ j, ¬ (s.step m).IsInCycle j
  /-- A call that is over does nothing more. -/
  rests : ∀ k p moves, s.call k = some p → p.IsOver → (s.run moves).call k = some p

theorem Guarded.skips (h : Guarded s) (given : CallEnd SyncOutcome) (chance : Chance)
    (hmade : s.IsMade k) (hcycle : ∃ j, s.IsInCycle j) :
    s.proceed k given chance = { s with worker := s.worker.enter.2 }.goOn k
      (.done (some (.ok { skipped := true }))) := by
  have hbusy : s.worker.busy = true := h.busy.2 hcycle
  obtain ⟨next, hnext, hskip, -⟩ := Routine.poll_eq s.adapters s.limit
  rw [IsMade, hnext] at hmade
  simp [proceed, hmade, answer, Worker.enter_of_busy hbusy, hskip]

theorem Guarded.enter (h : Guarded s) (given : CallEnd SyncOutcome) (chance : Chance)
    (hmade : s.IsMade k) (hnone : ∀ j, ¬ s.IsInCycle j) :
    (s.proceed k given chance).IsInCycle k := by
  have hidle : s.worker.busy = false := by
    rw [← Bool.not_eq_true, h.busy]
    exact fun ⟨j, hj⟩ => hnone j hj
  obtain ⟨next, hnext, -, hcycle⟩ := Routine.poll_eq s.adapters s.limit
  rw [IsMade, hnext] at hmade
  refine ⟨next (some true), ?_, hcycle.isInCycle⟩
  simp [proceed, hmade, answer, Worker.enter_of_idle hidle]

theorem Guarded.frees (h : Guarded s) (m : Move κ) (hk : s.IsInCycle k)
    (hend : ¬ (s.step m).IsInCycle k) (j : κ) : ¬ (s.step m).IsInCycle j := by
  have hcall : ∀ i, (s.step m).call i = s.call i → ((s.step m).IsInCycle i ↔ s.IsInCycle i) :=
    fun i hi => by rw [IsInCycle, IsInCycle, hi]
  obtain ⟨i, hother⟩ | hsame := h.call_step m
  · by_cases hik : k = i
    · subst hik
      intro hj
      have hjk : j ≠ k := fun heq => hend (heq ▸ hj)
      exact hjk (h.one j k ((hcall j (hother j hjk)).1 hj) hk)
    · exact absurd ((hcall k (hother k hik)).2 hk) hend
  · exact absurd ((hcall k (congrFun hsame k)).2 hk) hend

omit [DecidableEq κ] in
theorem guarded_start (now : Instant) (store : Store) (settings : WorkerSettings)
    (adapters : List String) (limit : Span) :
    Guarded (start now store settings adapters limit : Workplace κ) := by
  have hnone : ∀ j, ¬ (start now store settings adapters limit : Workplace κ).IsInCycle j :=
    fun j ⟨p, hp, _⟩ => nomatch hp
  exact ⟨nofun, ⟨nofun, fun ⟨j, hj⟩ => absurd hj (hnone j)⟩, fun j _ hj => absurd hj (hnone j)⟩

/-- Whatever calls are made of a worker, and in whatever order they, the event log, the adapters
and the clock go on: one cycle is in progress at a time, a call that comes in meanwhile is skipped
without a trace but the count of it, and once the cycle has ended, in whichever way, the next call
is not. -/
theorem one_at_a_time (now : Instant) (store : Store) (settings : WorkerSettings)
    (adapters : List String) (limit : Span) (moves : List (Move κ)) :
    OneAtATime ((start now store settings adapters limit).run moves) := by
  have h := guarded_run (guarded_start now store settings adapters limit) moves
  generalize (start now store settings adapters limit).run moves = s at h
  refine ⟨h.one, ?_, fun k given chance => h.enter given chance, ?_,
    fun k m => h.frees m, fun k p moves hp hover => over_run h hp hover moves⟩
  · intro k given chance hmade hcycle
    rw [h.skips given chance hmade hcycle, Worker.enter_of_busy (h.busy.2 hcycle)]
  · exact fun k moves hk => HasBegun.run (.inl hk) h moves

/-- A call is skipped while another one runs, and the next one is not, although the other has
broken down. -/
example :
    let s := (start .epoch {} {} ["payroll"] (.ofMillis 10000) : Workplace Nat).run
      [.make 0, .proceed 0 .timedOut .middle, .make 1, .proceed 1 .timedOut .middle, .breakDown 0,
        .proceed 0 .timedOut .middle, .make 2, .proceed 2 .timedOut .middle]
    s.worker.stats.skippedCycles = 1 ∧ s.worker.busy = true := by
  decide

end Workplace

end Outbox
