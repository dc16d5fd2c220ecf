import Outbox.Publish
import Outbox.Simulation.World

/-!
# Delivery in a scenario

Adapters are called in tasks of their own, each under the time limit; a worker's cycle and
an append with further tries run in the task that asks for them.
-/

namespace Outbox.Simulation

/-! ### Tasks of their own -/

/-- Runs something in a task of its own and keeps what it comes to. Gives the task and the
number under which that is kept. -/
def launch (m : Play Answer) : Play (TaskId × Nat) := do
  let slot ← Sim.step fun w => (w.nextAnswer, { w with nextAnswer := w.nextAnswer + 1 })
  let task ← Sim.spawn do
    let a ← m
    Sim.modify fun w => { w with answers := (slot, a) :: w.answers }
  return (task, slot)

/-- Waits for a task and takes what it came to: an answer, or the message of its
breakdown. -/
def collect (task : TaskId) (slot : Nat) : Play (Except String Answer) := do
  Sim.await fun s => s.hasEnded task
  let message ← Sim.look fun s => ((s.endOf? task).bind id).getD ""
  let answer ← Sim.step fun w =>
    ((w.answers.find? fun a => a.1 == slot).map (·.2),
      { w with answers := w.answers.filter fun a => a.1 != slot })
  return match answer with
    | some a => .ok a
    | none => .error message

/-- Runs several things at once, each in a task of its own, and waits for all of them. -/
def launchAll (ms : List (Play Answer)) : Play (List (TaskId × Except String Answer)) := do
  let tasks ← ms.mapM launch
  tasks.mapM fun (task, slot) => do return (task, ← collect task slot)

/-! ### Adapters -/

/-- Lets a call take its course. -/
def react {α : Type} : Reaction α → Play (Except DeliveryError α)
  | .answer after a => do
    Sim.pause after.millis
    return .ok a
  | .raise e => return .error e
  | .panic message => Sim.panic message

/-- Runs something under a time limit and says how it ended. -/
def timed {α : Type} (limit : Span) (m : Play (Except DeliveryError α)) : Play (CallEnd α) := do
  return match ← Sim.within limit.millis m with
    | some (.ok a) => .answered a
    | some (.error e) => .raised e
    | none => .timedOut

/-- Changes an adapter and takes what comes of it. -/
def onPlayer {α : Type} (i : Nat) (f : Player → α × Player) (default : α) : Play α :=
  Sim.step fun w =>
    match w.players[i]? with
    | none => (default, w)
    | some p =>
      let (a, p) := f p
      (a, { w with players := w.players.set i p })

/-- What is to be done when an adapter is called: it reacts, or runs steps first. -/
inductive Course where
  /-- It reacts. -/
  | reacts (r : Reaction SyncOutcome)
  /-- It runs steps and then behaves in some way. -/
  | runs (name : String) (steps : List Step) (b : Behaviour)

/-- Begins a call of an adapter. No payroll system can be reached. -/
def beginCall (r : SyncRequest) : Player → Course × Player
  | .adapter (.scripted a) =>
    let (b, a) := a.next
    (.reacts (b.sync a.name r.entityId), .adapter (.scripted a))
  | .adapter (.badge s) =>
    let (o, s) := s.sync r
    (.reacts (.answer .zero o), .adapter (.badge s))
  | .adapter (.payroll p) =>
    let reaction : Reaction SyncOutcome := match Id.run (p.sync (fun _ => pure none) r) with
      | .ok o => .answer .zero o
      | .error e => .raise e
    (.reacts reaction, .adapter (.payroll p))
  | .hook h =>
    let (steps, b) := h.plan.getD h.calls ([], .succeed)
    (.runs h.name steps b, .hook { h with calls := h.calls + 1 })

/-- Notes something that an adapter with steps has to tell. -/
def note (n : Note) : Play Unit := Sim.modify fun w => { w with notes := n :: w.notes }

/-- Runs a step; a breakdown is a result too. -/
def perform (s : Step) : Play Result := do
  return match ← Sim.attempt (Sim.call (.step s)) with
    | .ok r => r
    | .error message => .panicked message

/-- How an adapter with steps behaves after them. -/
def hookReaction (name : String) (r : SyncRequest) : Behaviour → Reaction SyncOutcome
  | .panic => .panic (name ++ " panicked")
  | b => b.sync name r.entityId

/-- Calls an adapter. -/
def callPlayer (i : Nat) (r : SyncRequest) : Play (Except DeliveryError SyncOutcome) := do
  let course ← onPlayer i (beginCall r) (.runs "" [] .succeed)
  Sim.modify fun w => { w with callsBegun := w.callsBegun + 1 }
  match course with
  | .reacts reaction => react reaction
  | .runs name steps b => do
    note (.sync r)
    for s in steps do note (.result (← perform s))
    react (hookReaction name r b)

/-- What a dispatch needs. -/
def dispatchHost (limit : Span) : DispatchHost Play (TaskId × Nat) where
  call i r := launch do return .call (← timed limit (callPlayer i r))
  await := fun (task, slot) => do
    return match ← collect task slot with
      | .ok (.call e) => e
      | .ok _ => .timedOut
      | .error message => .panicked task message

/-- Calls every adapter with a change. -/
def dispatch (r : SyncRequest) : Play DispatchResult := do
  let (names, limit) ← Sim.get fun w => (w.players.map Player.name, w.adapterTimeout)
  (dispatchHost limit).run names limit r

/-- Asks an adapter for its health. No payroll system can be reached. -/
def playerHealth : Player → Reaction Health
  | .adapter a => a.health fun _ => none
  | .hook h => .answer .zero ⟨true, h.name ++ " ok"⟩

/-- Checks an adapter. -/
def checkPlayer (i : Nat) : Play (Except DeliveryError Health) := do
  react (← onPlayer i (fun p => (playerHealth p, p)) (.raise (.internal "no such adapter")))

/-- What a check of the adapters needs. -/
def healthHost (limit : Span) : HealthHost Play (TaskId × Nat) where
  call i _ := launch do return .check (← timed limit (checkPlayer i))
  await := fun (task, slot) => do
    return match ← collect task slot with
      | .ok (.check e) => e
      | .ok _ => .timedOut
      | .error message => .panicked task message

/-- Asks every adapter for its health. -/
def adapterHealth : Play (List HealthReport) := do
  let (names, limit) ← Sim.get fun w => (w.players.map Player.name, w.adapterTimeout)
  (healthHost limit).run names limit

/-! ### Sleeping -/

/-- Notes a sleep and advances the clock by it. -/
def advanceAsleep (a : Span) : Play Unit :=
  Sim.modify fun w => { w with clock := w.clock.advance a, sleeps := a :: w.sleeps }

/-- Sleeps on the clock. -/
def sleep (a : Span) : Play Unit := do
  advanceAsleep a
  Sim.rest

/-! ### Workers -/

/-- What the cycle of a worker needs. -/
def cycleHost (i : Nat) (settings : WorkerSettings) : CycleHost Play where
  fetch := Sim.step (World.onBackend fun now b => b.attempt fun s => s.fetch now settings.batchSize)
  claim e := do
    let cancelled ← Sim.get fun w => (w.worker? i).any (·.cancelled)
    let r ← Sim.step (World.onBackend fun now b => b.perform (settings.claim now cancelled e))
    return match r with
      | .ok c => c
      | .error e => .failed e
  dispatch := dispatch
  settle e result := do
    let r ← Sim.step (World.onBackend fun now b => b.perform (settings.retry.settle now e result))
    match r with
    | .ok (.ok d) => return d
    | .ok (.error why) => Sim.panic why.message
    | .error e => return .unrecorded e

/-- What a call of a worker needs. -/
def pollHost (i : Nat) (settings : WorkerSettings) : PollHost Play where
  toCycleHost := cycleHost i settings
  enter := Sim.step (World.enterWorker i)
  leaveAfter := Sim.bracket (World.setWorker i Worker.leave)
  record report := Sim.modify (World.setWorker i fun v => v.record report)

/-- Runs a cycle of a worker, unless one is in progress. -/
def poll (i : Nat) : Play (Except DeliveryError CycleReport) := do
  match ← Sim.get fun w => w.worker? i with
  | none => return .ok { skipped := true }
  | some v => (pollHost i v.settings).poll

/-- The worker was told to stop. -/
def isCancelled (i : Nat) : Play Bool := Sim.get fun w => (w.worker? i).any (·.cancelled)

/-- How long a worker pauses between two cycles. -/
def pollInterval (i : Nat) : Play Span :=
  Sim.get fun w => ((w.worker? i).map (·.settings.pollInterval)).getD .zero

/-- Notes whether a worker's loop is running. -/
def setRunning (i : Nat) (b : Bool) : Play Unit :=
  Sim.modify (World.setWorker i fun v => v.setRunning b)

/-- Goes through cycles of a worker until it is told to stop, which happens in the last of
so many sleeps. -/
def cycles (i : Nat) : Nat → Play Unit
  | 0 => return ()
  | n + 1 => do
    if ← isCancelled i then return ()
    let _ ← poll i
    advanceAsleep (← pollInterval i)
    if n = 0 then Sim.modify (World.setWorker i Worker.cancel)
    Sim.rest
    if ← isCancelled i then return ()
    cycles i n

/-- Runs the loop of a worker until it has slept so many times. -/
def runWorker (i count : Nat) : Play Unit := do
  setRunning i true
  cycles i count
  setRunning i false

/-! ### The engine -/

/-- The sleep of an engine's loop: it ends when another cycle is permitted, or when the
worker is told to stop. -/
def engineSleep (engine worker : Nat) : Play Unit := do
  advanceAsleep (← pollInterval worker)
  let isFree (w : World) : Bool :=
    (w.engines[engine]?).all (fun e => 0 < e.permits) || (w.worker? worker).all (·.cancelled)
  Sim.modify (World.setEngine engine fun e => { e with asleep := e.permits = 0 })
  Sim.await fun s => isFree s.world
  Sim.modify (World.setEngine engine fun e =>
    { e with permits := e.permits - 1, asleep := false })

/-- The loop of an engine. -/
def engineLoop (engine worker : Nat) : Play Result := do
  if ← isCancelled worker then
    setRunning worker false
    return .done
  let _ ← poll worker
  engineSleep engine worker
  if ← isCancelled worker then
    setRunning worker false
    return .done
  Sim.call (.engineLoop engine worker)

/-! ### Producers -/

/-- Appends an event. -/
def append (m : Mutation) : Play (Except StoreError Event) :=
  Sim.step (World.onBackend fun now b => b.append now m)

/-- What a publisher needs. -/
def publishHost : PublishHost Play where
  append := append
  sleep := sleep
  dispatch := dispatch

/-- Publishes a change, with so long a pause before the first further try. -/
def publish (delay : Span) (m : Mutation) : Play (Except StoreError Published) := do
  let (enabled, retries) ← Sim.get fun w => (w.outboxEnabled, w.enqueueRetries)
  publishHost.publish enabled retries delay m

end Outbox.Simulation
