import Outbox.Adapter.Basic
import Outbox.Http.Message
import Outbox.Replay.Request
import Outbox.Simulation.Scheduler
import Outbox.Store.Backend
import Outbox.Time.ManualClock
import Outbox.Worker.Cycle

/-!
# The world of a scenario

A scenario plays on one event log and one clock, with adapters, workers and an engine. Its
steps are what producers, workers and operators do, one after the other; an adapter can
have steps of its own that run while it is called.
-/

namespace Outbox.Simulation

/-- Until when the start of an engine waits. -/
inductive StartWait where
  /-- Until its loop sleeps for the first time, or has died. -/
  | sleeping
  /-- Not at all. -/
  | none
  /-- Until an adapter is called for the first time. -/
  | firstCall
  deriving DecidableEq, Repr

/-- A step of a scenario. -/
inductive Step where
  /-- Advances the clock. -/
  | advance (a : Span)
  /-- Puts a whole event into the log. -/
  | insert (e : Event)
  /-- Appends an event. -/
  | append (m : Mutation)
  /-- Appends an event, with further tries. -/
  | enqueue (m : Mutation)
  /-- Publishes a change. -/
  | publish (m : Mutation)
  /-- Fetches the due events. -/
  | findDue (limit : Nat)
  /-- Claims an event that should have the status of this name. -/
  | claim (id : Int) (expected : String) (lease : Span)
  /-- Claims an event several times. -/
  | claimRace (id : Int) (expected : String) (lease : Span) (count : Nat)
  /-- Records a success. -/
  | recordSuccess (id : Int)
  /-- Records a failure; the next attempt may be so many milliseconds from now, or before. -/
  | recordFailure (id attempts : Int) (message : String) (nextRunIn : Option Int)
  /-- Looks up an event. -/
  | get (id : Int)
  /-- Lists events, those with the status of this name or all. -/
  | list (status : Option String) (page limit : Nat)
  /-- Counts events. -/
  | counts
  /-- Asks whether the log answers. -/
  | storeHealth
  /-- Makes so many of the next appends fail. -/
  | failAppends (count : Nat)
  /-- Makes so many of the next outcome writes fail. -/
  | failOutcomes (count : Nat)
  /-- Makes the next fetch fail. -/
  | failFetch (message : String)
  /-- Resets one event. -/
  | retryOne (id : Int)
  /-- Resets all dead events. -/
  | retryAllDead
  /-- Resets the events that are asked for, unless the request cannot be read. -/
  | replay (request : Except Json.Fault ReplayRequest)
  /-- Runs a cycle of a worker. -/
  | poll (worker : Nat)
  /-- Runs a cycle of every worker at once. -/
  | pollAll
  /-- Runs the loop of a worker until it has slept so many times. -/
  | run (worker cycles : Nat)
  /-- Tells a worker to stop. -/
  | cancel (worker : Nat)
  /-- Asks what a worker did. -/
  | stats (worker : Nat)
  /-- Dispatches a change. -/
  | dispatch (r : SyncRequest)
  /-- Asks for the health of the adapters. -/
  | adapterHealth
  /-- Asks for the names of the adapters. -/
  | adapterNames
  /-- Looks up a badge. -/
  | badge (entityId : String)
  /-- Sends a request to the interface. -/
  | http (r : Http.Request)
  /-- Makes the engine. -/
  | engineNew
  /-- Asks whether the engine runs. -/
  | engineRunning
  /-- Starts the engine. -/
  | engineStart (wait : StartWait)
  /-- Lets the loop of the engine go on for so many cycles. -/
  | engineCycles (count : Nat)
  /-- Runs a cycle of the engine's worker. -/
  | enginePoll
  /-- Asks what the engine did. -/
  | engineStats
  /-- Shuts the engine down. -/
  | engineShutdown
  /-- Drops the engine. -/
  | engineDrop

/-- The result of a step. -/
inductive Result where
  /-- The step cannot be carried out. -/
  | badInput
  /-- Nothing to tell. -/
  | done
  /-- An input cannot be read. -/
  | unreadable
  /-- The step broke down. -/
  | panicked (message : String)
  /-- The event log failed. -/
  | storeError (e : StoreError)
  /-- Delivery failed. -/
  | deliveryError (e : DeliveryError)
  /-- The time. -/
  | time (t : Instant)
  /-- Nothing, with success. -/
  | ok
  /-- The engine stopped. -/
  | stopped
  /-- The number of an event. -/
  | id (n : Int)
  /-- An event. -/
  | event (e : Option Event)
  /-- What became of a published change. -/
  | queued (e : Event)
  /-- What became of a change that was dispatched at once. -/
  | synced (d : DispatchResult)
  /-- The numbers of events. -/
  | ids (ns : List Int)
  /-- Whether a claim succeeded. -/
  | claimed (b : Bool)
  /-- How many claims succeeded. -/
  | winners (n : Nat)
  /-- A page of events. -/
  | page (p : Page)
  /-- The number of events in each status. -/
  | counts (c : StatusCounts)
  /-- How many events were reset. -/
  | count (n : Nat)
  /-- What a cycle did. -/
  | report (r : CycleReport)
  /-- What the cycles of all workers did. -/
  | totals (r : CycleReport)
  /-- What a worker did, at a time. -/
  | ran (s : WorkerStats) (t : Instant)
  /-- What a worker did. -/
  | stats (s : WorkerStats)
  /-- A dispatch. -/
  | dispatched (d : DispatchResult)
  /-- The health of the adapters. -/
  | health (reports : List HealthReport)
  /-- The names of the adapters. -/
  | names (ns : List String)
  /-- A badge, and how many there are. -/
  | badge (b : Option Badge) (count : Nat)
  /-- A response. -/
  | response (r : Http.Response)
  /-- Whether the engine runs. -/
  | running (b : Bool)
  /-- Whether the engine runs, and what it did. -/
  | engine (running : Bool) (s : WorkerStats)

/-- An adapter that runs steps while it is called. -/
structure Hook where
  /-- The name of the adapter. -/
  name : String
  /-- The steps of each call, and how the call ends. -/
  plan : List (List Step × Behaviour)
  /-- How many calls there were. -/
  calls : Nat := 0

/-- An adapter of a scenario. -/
inductive Player where
  /-- One that acts on its own. -/
  | adapter (a : Adapter)
  /-- One that runs steps. -/
  | hook (h : Hook)

namespace Player

/-- The name of an adapter. -/
def name : Player → String
  | adapter a => a.name
  | hook h => h.name

/-- How often an adapter was called, if that is counted. -/
def calls? : Player → Option Nat
  | adapter (.scripted a) => some a.calls
  | adapter (.badge _) | adapter (.payroll _) => none
  | hook h => some h.calls

end Player

/-- What an adapter with steps has to tell. -/
inductive Note where
  /-- It was called. -/
  | sync (r : SyncRequest)
  /-- One of its steps came to a result. -/
  | result (r : Result)

/-- An engine: a worker and its loop. -/
structure Engine where
  /-- The place of the worker. -/
  worker : Nat
  /-- The task of the loop, once it is started. -/
  task : Option TaskId := none
  /-- How many more cycles the loop may go through. -/
  permits : Nat := 0
  /-- The loop sleeps. -/
  asleep : Bool := false

/-- What one step came to. -/
structure Entry where
  /-- The result. -/
  result : Result
  /-- How long was slept meanwhile, sleep by sleep. -/
  sleeps : List Span
  /-- What adapters with steps had to tell. -/
  notes : List Note
  /-- The events after the step, if they can be seen and may have changed. -/
  events : Option (List Event)

/-- What a call in a task of its own came to. -/
inductive Answer where
  /-- How the call of an adapter ended. -/
  | call (e : CallEnd SyncOutcome)
  /-- How the check of an adapter ended. -/
  | check (e : CallEnd Health)
  /-- What a cycle did. -/
  | cycle (r : Except DeliveryError CycleReport)

/-- The world of a scenario. -/
structure World where
  /-- Where the event log is. -/
  backend : Backend
  /-- The clock. -/
  clock : ManualClock
  /-- The adapters. -/
  players : List Player
  /-- How long a call to an adapter may take. -/
  adapterTimeout : Span
  /-- The workers: those of the scenario, then those of engines. -/
  workers : List Worker
  /-- How many workers the scenario has. -/
  workerCount : Nat
  /-- How the worker of the engine works. -/
  engineSettings : WorkerSettings
  /-- All engines ever made. -/
  engines : List Engine := []
  /-- The place of the engine, if there is one. -/
  engine : Option Nat := none
  /-- Changes go by way of the outbox. -/
  outboxEnabled : Bool
  /-- How many further tries an append has. -/
  enqueueRetries : Nat
  /-- How long the first of them waits. -/
  retryDelay : Span
  /-- How long a request may take. -/
  requestTimeout : Span
  /-- How often an adapter was called. -/
  callsBegun : Nat := 0
  /-- How long was slept, the last sleep first. -/
  sleeps : List Span := []
  /-- What adapters with steps had to tell, the last first. -/
  notes : List Note := []
  /-- What calls in tasks of their own came to. -/
  answers : List (Nat × Answer) := []
  /-- Under which number the next of them is kept. -/
  nextAnswer : Nat := 0
  /-- What the steps came to, the last first. -/
  entries : List Entry := []

namespace World

/-- The time. -/
def now (w : World) : Instant := w.clock.now

/-- A worker. -/
def worker? (w : World) (i : Nat) : Option Worker := w.workers[i]?

/-- Changes a worker. -/
def setWorker (i : Nat) (f : Worker → Worker) (w : World) : World :=
  { w with workers := w.workers.modify i f }

/-- Begins a cycle of a worker, unless one is in progress. -/
def enterWorker (i : Nat) (w : World) : Bool × World :=
  match w.worker? i with
  | none => (false, w)
  | some v => (v.enter.1, w.setWorker i fun _ => v.enter.2)

/-- Changes an engine. -/
def setEngine (i : Nat) (f : Engine → Engine) (w : World) : World :=
  { w with engines := w.engines.modify i f }

/-- The engine, if there is one, and its place. -/
def engine? (w : World) : Option (Nat × Engine) :=
  w.engine.bind fun i => w.engines[i]?.map fun e => (i, e)

/-- The first badge system. -/
def badges? (w : World) : Option BadgeSystem :=
  w.players.findSome? fun p =>
    match p with
    | .adapter (.badge s) => some s
    | _ => none

/-- An operation on the event log. -/
def onBackend {α : Type} (f : Instant → Backend → α × Backend) (w : World) : α × World :=
  let (a, backend) := f w.now w.backend
  (a, { w with backend := backend })

end World

/-- What is called by name: a step, or the loop of a worker or an engine. -/
inductive Routine where
  /-- A step. -/
  | step (s : Step)
  /-- The loop of an engine. -/
  | engineLoop (engine worker : Nat)

/-- A part of a process of a scenario. -/
abbrev Play := Sim World Routine Result

end Outbox.Simulation
