import Outbox.Http.Service
import Outbox.Simulation.Delivery

/-!
# Scenarios

What each step of a scenario does, and the run of a whole scenario.
-/

namespace Outbox.Simulation

/-- The result of an operation on the event log, or its error. -/
def ofStore {α : Type} (f : α → Result) : Except StoreError α → Result
  | .ok a => f a
  | .error e => .storeError e

/-- The result of an operation of delivery, or its error. -/
def ofDelivery {α : Type} (f : α → Result) : Except DeliveryError α → Result
  | .ok a => f a
  | .error e => .deliveryError e

/-- An operation on the event log that may fail. -/
def onStore {α : Type} (f : Instant → Store → Except StoreError α × Store) :
    Play (Except StoreError α) :=
  Sim.step (World.onBackend fun now b => b.attempt (f now))

/-- An operation on the event log that does not fail in memory. -/
def performOnStore {α : Type} (f : Instant → Store → α × Store) : Play (Except StoreError α) :=
  Sim.step (World.onBackend fun now b => b.perform (f now))

/-- A question about the event log. -/
def askStore {α : Type} (f : Store → α) : Play (Except StoreError α) :=
  Sim.get fun w => w.backend.ask f

/-- A page of the event log. Whoever asks for one whose offset is an overflow breaks down. -/
def listStore (status : Option Status) (page limit : Nat) : Play (Except StoreError Page) := do
  match ← askStore fun s => s.list status page limit with
  | .ok (.ok p) => return .ok p
  | .ok (.error why) => Sim.panic why.message
  | .error e => return .error e

/-- A change of the event log in memory. -/
def updateStore (f : Store → Store) : Play Unit :=
  Sim.modify fun w => { w with backend := w.backend.update f }

/-! ### Workers -/

/-- Adds what a cycle did to what other cycles did. -/
def addReport (total r : CycleReport) : CycleReport :=
  { total with
    claimed := total.claimed + r.claimed
    succeeded := total.succeeded + r.succeeded
    retried := total.retried + r.retried
    deadLettered := total.deadLettered + r.deadLettered }

/-- Runs a cycle of every worker at once. -/
def pollAll : Play Result := do
  let count ← Sim.get (·.workerCount)
  let ends ← launchAll ((List.range count).map fun i => do return .cycle (← poll i))
  let reports := ends.filterMap fun (_, answer) =>
    match answer with
    | .ok (.cycle (.ok r)) => some r
    | _ => none
  return .totals (reports.foldl addReport {})

/-- What a worker did. -/
def statsOf (i : Nat) : Play WorkerStats :=
  Sim.get fun w => ((w.worker? i).map (·.stats)).getD {}

/-- Does something with the status of a name, unless there is none. -/
def withStatus (name : String) (f : Status → Play Result) : Play Result :=
  match Status.parse name with
  | .ok s => f s
  | .error e => return .storeError e

/-- Claims an event. -/
def claim (id : Int) (expected : Status) (lease : Span) : Play (Except StoreError Bool) :=
  performOnStore fun now s => s.claim now id expected (now.afterOrLatest lease)

/-- Claims an event several times and counts the claims that succeed. -/
def claimRace (id : Int) (expected : Status) (lease : Span) : Nat → Play Nat
  | 0 => return 0
  | count + 1 => do
    let won ← claim id expected lease
    let rest ← claimRace id expected lease count
    return if won matches .ok true then rest + 1 else rest

/-- A time some milliseconds from another one, or before it. -/
def millisFrom (now : Instant) (millis : Int) : Instant :=
  (now.shift? (millis * (nanosPerMilli : Int))).getD Instant.latest

/-! ### The interface -/

/-- What the interface needs. -/
def httpHost : Http.Host Play where
  now := Sim.get World.now
  storeHealth := Sim.get fun w => w.backend.health
  adapterHealth := adapterHealth
  list := listStore
  counts := askStore Store.counts
  retryOne id := onStore fun now s => s.retryOne now id
  retryAllDead := performOnStore fun _ s => s.retryAllDead
  replay f := performOnStore fun _ s => s.replay f
  publish m := publish firstRetryDelay m

/-- Answers a request in time. -/
def serve (r : Http.Request) : Play Http.Response := do
  let limit ← Sim.get (·.requestTimeout)
  return (← Sim.within limit.millis (httpHost.respond r)).getD Http.timeoutResponse

/-! ### The engine -/

/-- Makes the engine if there is none, and gives its place. -/
def ensureEngine : Play Nat := Sim.step fun w =>
  match w.engine with
  | some i => (i, w)
  | none =>
    let i := w.engines.length
    (i,
      { w with
        engine := some i
        engines := w.engines ++ [{ worker := w.workers.length }]
        workers := w.workers ++ [{ settings := w.engineSettings }] })

/-- The loop of an engine has been started and has not ended. -/
def isRunning (e : Engine) : Play Bool := Sim.look fun s => e.task.any fun t => !s.hasEnded t

/-- Does something with the engine if there is one. -/
def withEngine (f : Nat → Engine → Play Result) : Play Result := do
  match ← Sim.get World.engine? with
  | none => return .badInput
  | some (i, e) => f i e

/-- Waits until the loop of an engine sleeps and may not go on, or has died. -/
def awaitSleep (i : Nat) (task : TaskId) : Play Unit :=
  Sim.await fun s =>
    s.hasEnded task || s.world.engines[i]?.any fun e => e.asleep && e.permits = 0

/-- Whether the engine runs, and what it did. -/
def engineState (i : Nat) : Play Result := do
  match ← Sim.get fun w => w.engines[i]? with
  | none => return .badInput
  | some e => return .engine (← isRunning e) (← statsOf e.worker)

/-- Starts the engine. -/
def startEngine (wait : StartWait) : Play Result := do
  let i ← ensureEngine
  match ← Sim.get fun w => w.engines[i]? with
  | none => return .badInput
  | some e =>
    if e.task.isSome then return .deliveryError (.configuration .alreadyStarted)
    else if ← isCancelled e.worker then return .deliveryError (.configuration .wasShutDown)
    else do
      let before ← Sim.get (·.callsBegun)
      let task ← Sim.spawn do
        setRunning e.worker true
        let _ ← engineLoop i e.worker
      Sim.modify (World.setEngine i fun e => { e with task := some task })
      match wait with
      | .none => return .running (← isRunning { e with task := some task })
      | .sleeping => do
        awaitSleep i task
        engineState i
      | .firstCall => do
        Sim.await fun s =>
          s.hasEnded task || before < s.world.callsBegun ||
            s.world.engines[i]?.any fun e => e.asleep
        return .running (← isRunning { e with task := some task })

/-- Lets the loop of the engine go on. -/
def continueEngine (count i : Nat) (e : Engine) : Play Result := do
  Sim.modify (World.setEngine i fun e => { e with permits := e.permits + count })
  match e.task with
  | none => pure ()
  | some task => awaitSleep i task
  engineState i

/-- Stops the loop of the engine and waits until it has ended; the engine is gone then. -/
def shutDown (e : Engine) : Play Result := do
  Sim.modify fun w => (w.setWorker e.worker Worker.cancel)
  Sim.modify fun w => { w with engine := none }
  match e.task with
  | none => return .stopped
  | some task =>
    let limit ← Sim.get fun w => w.engineSettings.shutdownTimeout
    match ← Sim.within limit.millis (Sim.await fun s => s.hasEnded task) with
    | none => return .deliveryError (.shutdownTimeout limit)
    | some () =>
      match ← Sim.look fun s => (s.endOf? task).bind id with
      | none => return .stopped
      | some message => return .deliveryError (.workerPanic 0 (panicText task message))

/-- Drops the engine; if its loop runs it is told to stop. -/
def dropEngine (e : Engine) : Play Result := do
  if ← isRunning e then Sim.modify (World.setWorker e.worker Worker.cancel)
  Sim.modify fun w => { w with engine := none }
  Sim.pause 1
  return .stopped

/-! ### Steps -/

/-- Carries out a step. -/
def carryOut : Step → Play Result
  | .advance a => do
    Sim.modify fun w => { w with clock := w.clock.advance a }
    return .time (← Sim.get World.now)
  | .insert e => do
    updateStore fun s => s.insert e
    return ofStore .id (← askStore fun _ => e.id)
  | .append m => do return ofStore (fun e => .event (some e)) (← append m)
  | .enqueue m => do
    let (retries, delay) ← Sim.get fun w => (w.enqueueRetries, w.retryDelay)
    return ofStore (fun e => .event (some e)) (← publishHost.enqueue m retries delay)
  | .publish m => do
    let delay ← Sim.get (·.retryDelay)
    return match ← publish delay m with
      | .ok (.queued e) => .queued e
      | .ok (.synced d) => .synced d
      | .error e => .storeError e
  | .findDue limit => do
    return ofStore (fun es => .ids (es.map (·.id))) (← onStore fun now s => s.fetch now limit)
  | .claim id expected lease =>
    withStatus expected fun status => do return ofStore .claimed (← claim id status lease)
  | .claimRace id expected lease count =>
    withStatus expected fun status => do return .winners (← claimRace id status lease count)
  | .recordSuccess id => do
    return ofStore (fun _ => .ok) (← onStore fun now s => s.recordSuccess now id)
  | .recordFailure id attempts message nextRunIn => do
    return ofStore (fun _ => .ok) (← onStore fun now s =>
      s.recordFailure id attempts message (nextRunIn.map (millisFrom now)))
  | .get id => do return ofStore .event (← askStore fun s => s.find? id)
  | .list none page limit => do return ofStore .page (← listStore none page limit)
  | .list (some name) page limit =>
    withStatus name fun status => do
      return ofStore .page (← listStore (some status) page limit)
  | .counts => do return ofStore .counts (← askStore Store.counts)
  | .storeHealth => do return ofStore (fun _ => .ok) (← Sim.get fun w => w.backend.health)
  | .failAppends count => do
    updateStore fun s => { s with appendFailures := count }
    return .done
  | .failOutcomes count => do
    updateStore fun s => { s with outcomeFailures := count }
    return .done
  | .failFetch message => do
    updateStore fun s => { s with fetchFailure := some message }
    return .done
  | .retryOne id => do
    return ofStore (fun e => .event (some e)) (← onStore fun now s => s.retryOne now id)
  | .retryAllDead => do return ofStore .count (← performOnStore fun _ s => s.retryAllDead)
  | .replay (.error _) => return .unreadable
  | .replay (.ok request) => do
    match request.filter (← Sim.get World.now) with
    | .error e => return .storeError e
    | .ok f => return ofStore .count (← performOnStore fun _ s => s.replay f)
  | .poll worker => do return ofDelivery .report (← poll worker)
  | .pollAll => pollAll
  | .run worker count => do
    runWorker worker count
    return .ran (← statsOf worker) (← Sim.get World.now)
  | .cancel worker => do
    Sim.modify (World.setWorker worker Worker.cancel)
    return .done
  | .stats worker => do return .stats (← statsOf worker)
  | .dispatch r => do return .dispatched (← dispatch r)
  | .adapterHealth => do return .health (← adapterHealth)
  | .adapterNames => do return .names (← Sim.get fun w => w.players.map Player.name)
  | .badge entityId => do
    return match ← Sim.get World.badges? with
      | none => .badInput
      | some s => .badge (s.find? entityId) s.count
  | .http r => do return .response (← serve r)
  | .engineNew => do
    let i ← ensureEngine
    return .running (← isRunning ((← Sim.get fun w => w.engines[i]?).getD { worker := 0 }))
  | .engineRunning => withEngine fun _ e => do return .running (← isRunning e)
  | .engineStart wait => startEngine wait
  | .engineCycles count => withEngine (continueEngine count)
  | .enginePoll => withEngine fun _ e => do return ofDelivery .report (← poll e.worker)
  | .engineStats => withEngine fun _ e => do return .stats (← statsOf e.worker)
  | .engineShutdown => withEngine fun _ e => shutDown e
  | .engineDrop => withEngine fun _ e => dropEngine e

/-- The step may change events. -/
def mayChangeEvents : Step → Bool
  | .insert _ | .claim .. | .claimRace .. | .recordSuccess _ | .recordFailure .. | .retryOne _
  | .retryAllDead | .replay _ | .poll _ | .pollAll | .run .. | .http _ | .engineStart _
  | .engineCycles _ | .enginePoll | .engineShutdown | .engineDrop => true
  | _ => false

/-- What a routine does. -/
def unfold : Routine → Play Result
  | .step s => carryOut s
  | .engineLoop engine worker => engineLoop engine worker

/-- Carries out a step of a scenario and notes what it came to. -/
def playStep (s : Step) : Play Unit := do
  let r ← perform s
  Sim.modify fun w =>
    { w with
      sleeps := []
      notes := []
      entries :=
        { result := r
          sleeps := w.sleeps.reverse
          notes := w.notes.reverse
          events := if mayChangeEvents s then w.backend.events? else none } :: w.entries }

/-- A scenario. -/
structure Scenario where
  /-- The time at which it starts. -/
  start : Instant
  /-- The event log is in memory. -/
  inMemory : Bool := true
  /-- The adapters. -/
  players : List Player := []
  /-- How long a call to an adapter may take. -/
  adapterTimeout : Span := .ofMillis 10000
  /-- How the workers work. -/
  workers : List WorkerSettings := [{}]
  /-- How the worker of the engine works. -/
  engine : WorkerSettings := {}
  /-- Changes go by way of the outbox. -/
  outboxEnabled : Bool := true
  /-- How many further tries an append has. -/
  enqueueRetries : Nat := 2
  /-- How long the first of them waits. -/
  retryDelay : Span := firstRetryDelay
  /-- How long a request may take. -/
  requestTimeout : Span := .ofMillis 5000
  /-- The steps. -/
  steps : List Step := []

namespace Scenario

/-- The world before the first step. -/
def world (s : Scenario) : World where
  backend := if s.inMemory then .memory {} else .unreachable
  clock := .startingAt s.start
  players := s.players
  adapterTimeout := s.adapterTimeout
  workers := s.workers.map fun settings => { settings := settings }
  workerCount := s.workers.length
  engineSettings := s.engine
  outboxEnabled := s.outboxEnabled
  enqueueRetries := s.enqueueRetries
  retryDelay := s.retryDelay
  requestTimeout := s.requestTimeout

/-- How many turns, and how many acts in one turn, a scenario may take. -/
def fuel : Nat := 1000000000

/-- The world after the last step. -/
def play (s : Scenario) : World :=
  runMain unfold fuel s.world (s.steps.forM playStep)

end Scenario

end Outbox.Simulation
