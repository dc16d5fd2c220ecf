import Outbox.Replay.Filter
import Outbox.Store.Counts
import Outbox.Store.Page

/-!
# The event log in memory

The log is a list of events in ascending order of their numbers. Each operation below is
atomic: it takes the log and the time, and gives a result and the log afterwards. A
claim is a compare-and-swap on the status, so of several workers that claim an event
under the same status one succeeds.

Failures can be injected: so many of the next appends and outcome writes fail, and the
next fetch does.
-/

namespace Outbox

/-- The event log and the failures to come. -/
structure Store where
  /-- The events, in ascending order of their numbers. -/
  events : List Event := []
  /-- The number of the next event. -/
  nextId : Int := 1
  /-- How many of the next appends fail. -/
  appendFailures : Nat := 0
  /-- How many of the next outcome writes fail. -/
  outcomeFailures : Nat := 0
  /-- Why the next fetch fails. -/
  fetchFailure : Option String := none
  deriving DecidableEq, Inhabited

namespace Store

/-! ### Events by number -/

/-- The event with a given number. -/
def find? (s : Store) (id : Int) : Option Event := s.events.find? fun e => e.id == id

/-- Changes the event with a given number. -/
def modify (s : Store) (id : Int) (f : Event → Event) : Store :=
  { s with events := s.events.map fun e => if e.id = id then f e else e }

/-- Puts an event among others, in place of the one that has its number. -/
def place (e : Event) : List Event → List Event
  | [] => [e]
  | d :: ds =>
    if e.id < d.id then e :: d :: ds
    else if e.id = d.id then e :: ds
    else d :: place e ds

/-- Puts a whole event into the log. -/
def insert (s : Store) (e : Event) : Store :=
  { s with events := place e s.events, nextId := max s.nextId (e.id + 1) }

/-! ### What producers do -/

/-- Appends the event of a mutation. -/
def append (s : Store) (now : Instant) (m : Mutation) : Except StoreError Event × Store :=
  if 0 < s.appendFailures then
    (.error (.database .appendInjected), { s with appendFailures := s.appendFailures - 1 })
  else
    match m.validate with
    | .error e => (.error e, s)
    | .ok () =>
      let e := Event.ofMutation m s.nextId now
      (.ok e, { s with events := place e s.events, nextId := s.nextId + 1 })

/-! ### What workers do -/

/-- The oldest events that are due, at most `limit` of them. -/
def oldestDue (s : Store) (now : Instant) (limit : Nat) : List Event :=
  ((s.events.filter fun e => e.isDue now).mergeSort fun a b => !b.precedes a).take limit

/-- Fetches the oldest due events. -/
def fetch (s : Store) (now : Instant) (limit : Nat) : Except StoreError (List Event) × Store :=
  match s.fetchFailure with
  | some why => (.error (.database (.other why)), { s with fetchFailure := none })
  | none => (.ok (s.oldestDue now limit), s)

/-- The event as it is under a claim. -/
def claimed (leaseEnd : Instant) (e : Event) : Event :=
  { e with status := .processing, nextRunAt := some leaseEnd }

/-- A claim of an event would succeed that expects a status. -/
def claimable (s : Store) (now : Instant) (id : Int) (expected : Status) : Bool :=
  (s.find? id).any fun e => e.status == expected && e.isDue now

/-- Claims an event if it is due and still has the expected status. -/
def claim (s : Store) (now : Instant) (id : Int) (expected : Status) (leaseEnd : Instant) :
    Bool × Store :=
  if s.claimable now id expected then (true, s.modify id (claimed leaseEnd)) else (false, s)

/-- Writes an outcome, unless that is made to fail. -/
def writeOutcome (s : Store) (id : Int) (f : Event → Event) : Except StoreError Unit × Store :=
  if 0 < s.outcomeFailures then
    (.error (.database .outcomeInjected), { s with outcomeFailures := s.outcomeFailures - 1 })
  else (.ok (), s.modify id f)

/-- The event as it is after a success. -/
def succeeded (now : Instant) (e : Event) : Event :=
  { e with status := .success, processedAt := some now, lastError := none, nextRunAt := none }

/-- Records that an event was synced. -/
def recordSuccess (s : Store) (now : Instant) (id : Int) : Except StoreError Unit × Store :=
  s.writeOutcome id (succeeded now)

/-- The event as it is after a failure: failed if there is a next attempt, else dead. -/
def failed (attempts : Int) (error : String) (nextRunAt : Option Instant) (e : Event) : Event :=
  { e with
    status := if nextRunAt.isSome then .failed else .dead
    attempts := attempts
    lastError := some error
    nextRunAt := nextRunAt }

/-- Records that an attempt failed. -/
def recordFailure (s : Store) (id : Int) (attempts : Int) (error : String)
    (nextRunAt : Option Instant) : Except StoreError Unit × Store :=
  s.writeOutcome id (failed attempts error nextRunAt)

/-! ### What operators do -/

/-- Resets every event that a test selects, and counts them. -/
def resetWhere (s : Store) (select : Event → Bool) : Nat × Store :=
  ((s.events.filter select).length,
    { s with events := s.events.map fun e => if select e then e.reset else e })

/-- Puts one event back in the queue, unless a worker holds it. -/
def retryOne (s : Store) (now : Instant) (id : Int) : Except StoreError Event × Store :=
  match s.find? id with
  | none => (.error (.notFound (.event id)), s)
  | some e =>
    if e.status == .processing && !e.claimExpired now then
      (.error (.conflict (.inProgress id)), s)
    else (.ok e.reset, s.modify id Event.reset)

/-- Puts all dead events back in the queue. -/
def retryAllDead (s : Store) : Nat × Store := s.resetWhere fun e => e.status == .dead

/-- Puts the events back in the queue that a filter selects. -/
def replay (s : Store) (f : ReplayFilter) : Nat × Store := s.resetWhere f.selects

/-! ### What anyone may ask -/

/-- The events with a status, or all, from the newest to the oldest. -/
def newestFirst (s : Store) (status : Option Status) : List Event :=
  (s.events.filter fun e => status.all (· == e.status)).mergeSort fun a b => !a.precedes b

/-- A page of the events with a status, or of all, unless its offset is an overflow. -/
def list (s : Store) (status : Option Status) (page limit : Nat) : Except Overflow Page :=
  (Page.offset page limit).map fun offset =>
    let found := s.newestFirst status
    { events := (found.drop (Page.skipped offset)).take limit
      total := found.length
      page := page
      limit := limit }

/-- The number of events in each status. -/
def counts (s : Store) : StatusCounts :=
  s.events.foldl (fun c e => c.record e.status 1) {}

/-- Whether the log answers; a fetch that is made to fail shows here already. -/
def health (s : Store) : Except StoreError Unit :=
  match s.fetchFailure with
  | some why => .error (.database (.other why))
  | none => .ok ()

/-! ### Small laws -/

@[simp] theorem events_modify (s : Store) (id : Int) (f : Event → Event) :
    (s.modify id f).events = s.events.map fun e => if e.id = id then f e else e := rfl

@[simp] theorem nextId_modify (s : Store) (id : Int) (f : Event → Event) :
    (s.modify id f).nextId = s.nextId := rfl

theorem mem_place {e d : Event} {es : List Event} :
    d ∈ place e es → d = e ∨ d ∈ es := by
  induction es with
  | nil => simp [place]
  | cons c cs ih =>
    simp only [place]
    split
    · simp
    · split
      · intro h
        rcases List.mem_cons.1 h with rfl | h
        · exact .inl rfl
        · exact .inr (List.mem_cons_of_mem _ h)
      · intro h
        rcases List.mem_cons.1 h with rfl | h
        · exact .inr List.mem_cons_self
        · exact (ih h).imp id (List.mem_cons_of_mem _)

end Store

end Outbox
