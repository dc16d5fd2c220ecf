import Outbox.Proofs.Fleet.Program
import Mathlib.Logic.Function.Basic

/-!
# A fleet of workers

Any number of workers share one event log, while producers append to it, operators reset
events in it, the clock moves on and failures strike. A `Move` is one atomic step of one of
them, and a run is a list of moves in any order: that is what an interleaving is. A worker's
part in it is the program of its cycle, of which it takes one step at a time.

The fleet keeps a record besides, on which nothing depends. For each worker: the batch it
fetched last, the claim it has won and not yet settled, and what went on between it and the
adapters. For each event: which worker's claim of it is the current one, that is, the last
one if since then neither an outcome was written nor the event was reset.
-/

namespace Outbox

/-- A claim that a worker has won. -/
structure Claim where
  /-- The event as the worker fetched it. -/
  event : Event
  /-- The event as it was in the log when it was claimed. -/
  found : Event
  /-- Until when the claim holds. -/
  leaseEnd : Instant

/-- What goes on between a worker and the adapters. -/
inductive Exchange where
  /-- The adapter at a place is called. -/
  | call (place : Nat) (r : SyncRequest)
  /-- A call of the adapter at a place has ended. -/
  | answer (place : Nat) (e : CallEnd SyncOutcome)

/-- The record that is kept of a worker. -/
structure Notes where
  /-- The batch it fetched last. -/
  batch : List Event := []
  /-- The claim it has won, as long as the outcome is not settled. -/
  claim : Option Claim := none
  /-- What went on between it and the adapters. -/
  exchanges : List Exchange := []

namespace Notes

/-- Adds what goes on between the worker and the adapters. -/
def tell (n : Notes) (xs : List Exchange) : Notes := { n with exchanges := n.exchanges ++ xs }

/-- Notes the batch that was fetched, if one was. -/
def fetched (n : Notes) (a : Except StoreError (List Event)) : Notes :=
  { n with batch := a.toOption.getD [] }

/-- Notes that the outcome of the claim is settled. -/
def release (n : Notes) : Notes := { n with claim := none }

end Notes

/-- A worker of a fleet. -/
structure Member where
  /-- The worker. -/
  worker : Worker
  /-- The rest of the cycle in progress. -/
  program : Option (Program (Except DeliveryError CycleReport)) := none
  /-- The record that is kept of it. -/
  notes : Notes := {}

namespace Member

/-- The member at the beginning of a cycle, unless one is in progress. -/
def begin (m : Member) (cycle : Program (Except DeliveryError CycleReport)) : Member :=
  match m.worker.enter with
  | (true, w) => { m with worker := w, program := some cycle }
  | (false, w) => { m with worker := w }

/-- The member at the end of its cycle. -/
def finish (m : Member) (result : Except DeliveryError CycleReport) : Member :=
  let w := match result with
    | .ok report => m.worker.record report
    | .error _ => m.worker
  { m with worker := w.leave, program := none }

/-- The member goes on with its cycle. -/
def goOn (m : Member) (p : Program (Except DeliveryError CycleReport)) (n : Notes) : Member :=
  { m with program := some p, notes := n }

/-- The member when its cycle has broken down. -/
def breakDown (m : Member) : Member :=
  { m with worker := m.worker.leave, program := none, notes := m.notes.release }

@[simp] theorem notes_begin (m : Member) (cycle : Program (Except DeliveryError CycleReport)) :
    (m.begin cycle).notes = m.notes := by
  unfold begin; split <;> rfl

@[simp] theorem notes_finish (m : Member) (result : Except DeliveryError CycleReport) :
    (m.finish result).notes = m.notes := rfl

@[simp] theorem notes_goOn (m : Member) (p : Program (Except DeliveryError CycleReport))
    (n : Notes) : (m.goOn p n).notes = n := rfl

@[simp] theorem notes_breakDown (m : Member) : m.breakDown.notes = m.notes.release := rfl

end Member

/-- Workers, named by `ι`, on one event log. -/
structure Fleet (ι : Type) where
  /-- The event log. -/
  store : Store := {}
  /-- The time. -/
  now : Instant
  /-- The names of the adapters. -/
  adapters : List String
  /-- How long a call to an adapter may take. -/
  limit : Span
  /-- The workers. -/
  member : ι → Member
  /-- Whose claim of an event is the current one. -/
  owner : Int → Option ι := fun _ => none

/-- An atomic step. -/
inductive Move (ι : Type) where
  /-- The clock moves on to a time, unless it is past. -/
  | advance (t : Instant)
  /-- A producer appends an event. -/
  | append (m : Mutation)
  /-- An operator resets one event. -/
  | retryOne (id : Int)
  /-- An operator resets all dead events. -/
  | retryAllDead
  /-- An operator resets the events that a filter selects; filters ask for failed and dead
  events only. -/
  | replay (f : ReplayFilter) (h : ∀ s ∈ f.statuses, s.isReplayable)
  /-- So many of the next appends are made to fail. -/
  | failAppends (count : Nat)
  /-- So many of the next outcome writes are made to fail. -/
  | failOutcomes (count : Nat)
  /-- The next fetch is made to fail. -/
  | failFetch (why : String)
  /-- A worker is told to stop. -/
  | cancel (i : ι)
  /-- A cycle of a worker is called for. -/
  | begin (i : ι)
  /-- A worker takes the next step of its cycle. If it waits for the end of a call, that is
  given; if it spreads a delay, the chance is. -/
  | proceed (i : ι) (answer : CallEnd SyncOutcome) (chance : Chance)

namespace Move

variable {ι : Type}

/-- The step is an operator's. -/
def IsOperator : Move ι → Prop
  | retryOne _ | retryAllDead | replay .. => True
  | _ => False

instance : DecidablePred (IsOperator (ι := ι))
  | retryOne _ | retryAllDead | replay .. => .isTrue trivial
  | advance _ | append _ | failAppends _ | failOutcomes _ | failFetch _ | cancel _ | begin _
  | proceed .. => .isFalse nofun

/-- The step is a given worker's own one or not. -/
theorem own_or_other (m : Move ι) (i : ι) :
    (∃ answer chance, m = .proceed i answer chance) ∨
      ∀ answer chance, m ≠ .proceed i answer chance := by
  rcases Classical.em (∃ answer chance, m = .proceed i answer chance) with h | h
  · exact .inl h
  · exact .inr fun answer chance hm => h ⟨answer, chance, hm⟩

end Move

namespace Fleet

variable {ι : Type}

/-- A fleet before its first step: the log is empty and no cycle is in progress. -/
def start (now : Instant) (adapters : List String) (limit : Span)
    (settings : ι → WorkerSettings) : Fleet ι where
  now := now
  adapters := adapters
  limit := limit
  member i := { worker := { settings := settings i } }

/-- The worker has won a claim and not yet settled the outcome. -/
def Holds (s : Fleet ι) (i : ι) (c : Claim) : Prop := (s.member i).notes.claim = some c

theorem not_holds_start {now : Instant} {adapters : List String} {limit : Span}
    {settings : ι → WorkerSettings} {i : ι} {c : Claim} :
    ¬ (start now adapters limit settings).Holds i c := by
  intro h
  cases h

/-- The outcome that a worker has written in its next step. -/
def settling? (s : Fleet ι) (i : ι) : Option (Event × AttemptResult) :=
  (s.member i).program.bind Program.settling?

theorem settling?_eq_some {s : Fleet ι} {i : ι} {e : Event} {result : AttemptResult} :
    s.settling? i = some (e, result) ↔
      ∃ next, (s.member i).program = some (.ask (.settle e result) next) := by
  simp only [settling?, Option.bind_eq_some_iff, Program.settling?_eq_some]
  constructor
  · rintro ⟨p, hp, next, rfl⟩
    exact ⟨next, hp⟩
  · rintro ⟨next, hp⟩
    exact ⟨_, hp, next, rfl⟩

/-- The outcome that is to be written in a step. -/
def settledBy (s : Fleet ι) : Move ι → Option (Event × AttemptResult)
  | .proceed i _ _ => s.settling? i
  | _ => none

/-- The end of a claim that the worker would win now. -/
def leaseEnd (s : Fleet ι) (i : ι) : Instant := (s.member i).worker.settings.leaseEnd s.now

/-- Whose claims are current when the events that a test selects have been reset. -/
def disown (s : Fleet ι) (select : Event → Bool) : Int → Option ι := fun id =>
  if (s.store.find? id).any select then none else s.owner id

variable [DecidableEq ι]

/-- Replaces a worker. -/
def setMember (s : Fleet ι) (i : ι) (m : Member) : Fleet ι :=
  { s with member := Function.update s.member i m }

/-- A worker tries to claim an event. -/
def claim (s : Fleet ι) (i : ι) (e : Event)
    (next : ClaimEnd → Program (Except DeliveryError CycleReport)) : Fleet ι :=
  let m := s.member i
  match m.worker.settings.claim s.now m.worker.cancelled e s.store with
  | (.claimed, store) =>
    let c : Claim := ⟨e, (s.store.find? e.id).getD e, s.leaseEnd i⟩
    { s with store := store, owner := Function.update s.owner e.id (some i) }.setMember i
      (m.goOn (next .claimed) { m.notes with claim := some c })
  | (a, store) => { s with store := store }.setMember i (m.goOn (next a) m.notes)

/-- A worker records how the dispatch of an event went. -/
def settle (s : Fleet ι) (i : ι) (e : Event) (result : AttemptResult) (chance : Chance)
    (next : Disposition → Program (Except DeliveryError CycleReport)) : Fleet ι :=
  let m := s.member i
  match m.worker.settings.retry.settle s.now e result s.store chance with
  | (.error _, store) => { s with store := store }.setMember i m.breakDown
  | (.ok (.unrecorded why), store) =>
    { s with store := store }.setMember i (m.goOn (next (.unrecorded why)) m.notes.release)
  | (.ok d, store) =>
    { s with store := store, owner := Function.update s.owner e.id none }.setMember i
      (m.goOn (next d) m.notes.release)

/-- A worker takes the next step of its cycle. -/
def proceed (s : Fleet ι) (i : ι) (answer : CallEnd SyncOutcome) (chance : Chance) : Fleet ι :=
  let m := s.member i
  match m.program with
  | none => s
  | some (.done result) => s.setMember i (m.finish result)
  | some (.ask .fetch next) =>
    let (a, store) := s.store.fetch s.now m.worker.settings.batchSize
    { s with store := store }.setMember i (m.goOn (next a) (m.notes.fetched a))
  | some (.ask (.claim e) next) => s.claim i e next
  | some (.ask (.call place r) next) =>
    s.setMember i (m.goOn (next ()) (m.notes.tell [.call place r]))
  | some (.ask (.await place) next) =>
    s.setMember i (m.goOn (next answer) (m.notes.tell [.answer place answer]))
  | some (.ask (.settle e result) next) => s.settle i e result chance next

/-- The fleet after a step. -/
def step (s : Fleet ι) : Move ι → Fleet ι
  | .advance t => { s with now := if s.now ≤ t then t else s.now }
  | .append m => { s with store := (s.store.append s.now m).2 }
  | .retryOne id =>
    match s.store.retryOne s.now id with
    | (.ok _, store) => { s with store := store, owner := Function.update s.owner id none }
    | (.error _, store) => { s with store := store }
  | .retryAllDead =>
    { s with store := s.store.retryAllDead.2, owner := s.disown fun e => e.status == .dead }
  | .replay f _ => { s with store := (s.store.replay f).2, owner := s.disown f.selects }
  | .failAppends count => { s with store := { s.store with appendFailures := count } }
  | .failOutcomes count => { s with store := { s.store with outcomeFailures := count } }
  | .failFetch why => { s with store := { s.store with fetchFailure := some why } }
  | .cancel i => s.setMember i { s.member i with worker := (s.member i).worker.cancel }
  | .begin i => s.setMember i ((s.member i).begin (Program.cycle s.adapters s.limit))
  | .proceed i answer chance => s.proceed i answer chance

/-- The fleet after a run. -/
def run (s : Fleet ι) (moves : List (Move ι)) : Fleet ι := moves.foldl step s

/-- In a run each step is taken only where a rule allows it. -/
def Obeys (rule : Fleet ι → Move ι → Prop) : Fleet ι → List (Move ι) → Prop
  | _, [] => True
  | s, m :: rest => rule s m ∧ Obeys rule (s.step m) rest

instance decidableObeys {rule : Fleet ι → Move ι → Prop} [∀ s m, Decidable (rule s m)] :
    ∀ (s : Fleet ι) (moves : List (Move ι)), Decidable (Obeys rule s moves)
  | _, [] => .isTrue trivial
  | s, m :: rest => @instDecidableAnd _ _ _ (decidableObeys (s.step m) rest)

/-! ### Members -/

@[simp] theorem store_setMember (s : Fleet ι) (i : ι) (m : Member) :
    (s.setMember i m).store = s.store := rfl

@[simp] theorem now_setMember (s : Fleet ι) (i : ι) (m : Member) :
    (s.setMember i m).now = s.now := rfl

@[simp] theorem owner_setMember (s : Fleet ι) (i : ι) (m : Member) :
    (s.setMember i m).owner = s.owner := rfl

@[simp] theorem adapters_setMember (s : Fleet ι) (i : ι) (m : Member) :
    (s.setMember i m).adapters = s.adapters := rfl

@[simp] theorem limit_setMember (s : Fleet ι) (i : ι) (m : Member) :
    (s.setMember i m).limit = s.limit := rfl

@[simp] theorem member_setMember_self (s : Fleet ι) (i : ι) (m : Member) :
    (s.setMember i m).member i = m := Function.update_self ..

@[simp] theorem setMember_member (s : Fleet ι) (i : ι) : s.setMember i (s.member i) = s := by
  rw [setMember, Function.update_eq_self]

theorem member_setMember_of_ne {i j : ι} (h : j ≠ i) (s : Fleet ι) (m : Member) :
    (s.setMember i m).member j = s.member j := Function.update_of_ne h ..

/-! ### Runs -/

@[simp] theorem run_nil (s : Fleet ι) : s.run [] = s := rfl

@[simp] theorem run_cons (s : Fleet ι) (m : Move ι) (rest : List (Move ι)) :
    s.run (m :: rest) = (s.step m).run rest := rfl

@[simp] theorem run_append (s : Fleet ι) (moves rest : List (Move ι)) :
    s.run (moves ++ rest) = (s.run moves).run rest := List.foldl_append

theorem obeys_append {rule : Fleet ι → Move ι → Prop} {s : Fleet ι} {moves rest : List (Move ι)} :
    Obeys rule s (moves ++ rest) ↔ Obeys rule s moves ∧ Obeys rule (s.run moves) rest := by
  induction moves generalizing s with
  | nil => simp [Obeys]
  | cons m moves ih => simp [Obeys, ih, and_assoc]

/-- What every step keeps that obeys a rule holds after every run that does. -/
theorem Obeys.induction {rule : Fleet ι → Move ι → Prop} {P : Fleet ι → Prop}
    (hstep : ∀ s m, P s → rule s m → P (s.step m)) {s : Fleet ι} {moves : List (Move ι)}
    (h : Obeys rule s moves) (hs : P s) : P (s.run moves) := by
  induction moves generalizing s with
  | nil => exact hs
  | cons m moves ih => exact ih h.2 (hstep s m hs h.1)

/-- What every step keeps holds after every run. -/
theorem run_induction {P : Fleet ι → Prop} (hstep : ∀ s m, P s → P (s.step m)) {s : Fleet ι}
    (hs : P s) (moves : List (Move ι)) : P (s.run moves) := by
  induction moves generalizing s with
  | nil => exact hs
  | cons m moves ih => exact ih (hstep s m hs)

/-! ### What is seen in the course of a run -/

variable {β : Type}

/-- What is seen at the steps of a run, one after the other. -/
def trace (look : Fleet ι → Move ι → List β) : Fleet ι → List (Move ι) → List β
  | _, [] => []
  | s, m :: rest => look s m ++ trace look (s.step m) rest

theorem trace_append (look : Fleet ι → Move ι → List β) (s : Fleet ι)
    (moves rest : List (Move ι)) :
    trace look s (moves ++ rest) = trace look s moves ++ trace look (s.run moves) rest := by
  induction moves generalizing s with
  | nil => rfl
  | cons m moves ih => simp only [List.cons_append, trace, ih, run_cons, List.append_assoc]

/-- What every step keeps, of the fleet and of what was seen before, holds after every run. -/
theorem trace_induction (look : Fleet ι → Move ι → List β) {P : List β → Fleet ι → Prop}
    (hstep : ∀ seen s m, P seen s → P (seen ++ look s m) (s.step m)) {s : Fleet ι}
    {seen : List β} (hs : P seen s) (moves : List (Move ι)) :
    P (seen ++ trace look s moves) (s.run moves) := by
  induction moves generalizing s seen with
  | nil => simpa [trace] using hs
  | cons m moves ih =>
    rw [trace, ← List.append_assoc]
    exact ih (hstep seen s m hs)

/-- What every step keeps that obeys a rule, of the fleet and of what was seen before, holds
after every run that does. -/
theorem Obeys.trace_induction {rule : Fleet ι → Move ι → Prop} {s : Fleet ι}
    {moves : List (Move ι)} (h : Obeys rule s moves) (look : Fleet ι → Move ι → List β)
    {P : List β → Fleet ι → Prop}
    (hstep : ∀ seen s m, P seen s → rule s m → P (seen ++ look s m) (s.step m)) {seen : List β}
    (hs : P seen s) :
    P (seen ++ trace look s moves) (s.run moves) := by
  induction moves generalizing s seen with
  | nil => simpa [trace] using hs
  | cons m moves ih =>
    rw [trace, ← List.append_assoc]
    exact ih h.2 (hstep seen s m hs h.1)

/-! ### Two workers -/

/-- Two workers with one adapter. -/
def pair : Fleet Bool := start .epoch ["payroll"] (.ofMillis 30000) fun _ => {}

/-- A change, for them to deliver. -/
def change : Mutation := ⟨"employee", "EMP0001", .update, .null⟩

/-- One of them takes the next step of its cycle. If it waits for the adapter, the adapter
takes the change over or refuses it. -/
def goes (i success : Bool) : Move Bool := .proceed i (.answered ⟨success, "refused"⟩) .middle

end Fleet

end Outbox
