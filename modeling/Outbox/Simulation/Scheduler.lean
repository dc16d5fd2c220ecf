import Outbox.Simulation.Process

/-!
# Turns

One task at a time has its turn. Tasks that can go on wait in a queue; the main task goes
before the queue whenever it is empty. Tasks that rest are put into the queue when
nothing else is there. When all tasks wait, time jumps to the next instant at which one
of them has something to do; tasks that are due then take their turns in the order in
which they began to wait.

A task whose time is up is asked once more before it is given up, so what ends exactly in
time ends well.
-/

namespace Outbox.Simulation

variable {σ ρ ν : Type}

/-- What a task is inside of. -/
inductive Frame (σ ρ ν : Type) where
  /-- A limit of time, with the number under which it is remembered. -/
  | limit (deadline order : Nat) (late : Proc σ ρ ν)
  /-- Something to be done at the end. -/
  | release (f : σ → σ)
  /-- A place where breakdowns are caught. -/
  | guard (caught : String → Proc σ ρ ν)

/-- What a task waits for. -/
inductive Wait (σ : Type) where
  /-- Its first turn, or the end of a rest. -/
  | turn
  /-- A condition. -/
  | condition (ready : Shared σ → Bool)
  /-- An instant, with the number under which it is remembered. -/
  | time (deadline order : Nat)

/-- A task between two turns. -/
structure Task (σ ρ ν : Type) where
  /-- Its number. -/
  id : TaskId
  /-- What it waits for. -/
  wait : Wait σ
  /-- What it does then. -/
  next : Proc σ ρ ν
  /-- What it is inside of, from the innermost outwards. -/
  frames : List (Frame σ ρ ν) := []
  /-- It is in the queue. -/
  queued : Bool := false

/-- All tasks, and what they share. -/
structure System (σ ρ ν : Type) where
  /-- What all tasks can see. -/
  shared : Shared σ
  /-- The time in milliseconds. -/
  now : Nat := 0
  /-- The main task. -/
  main : Task σ ρ ν
  /-- The other tasks, the oldest one first. -/
  tasks : List (Task σ ρ ν) := []
  /-- The tasks that can go on, in order. -/
  queue : List TaskId := []
  /-- The tasks that rest, in order. -/
  resting : List TaskId := []
  /-- The number of the next task. -/
  nextTask : TaskId := 1
  /-- How many waits were remembered. -/
  waits : Nat := 0

/-- The number of the main task. -/
def mainTask : TaskId := 0

/-- What came of a turn. -/
inductive TurnEnd (σ ρ ν : Type) where
  /-- The task waits; the flag tells that it rests. -/
  | waiting (t : Task σ ρ ν) (resting : Bool)
  /-- The task has ended. -/
  | ended (e : TaskEnd)

namespace Shared

/-- Acts on the world. -/
def change (s : Shared σ) (f : σ → σ) : Shared σ := { s with world := f s.world }

end Shared

/-! ### Leaving frames -/

/-- Leaves the innermost frame. -/
def leaveFrame (s : Shared σ) : List (Frame σ ρ ν) → Shared σ × List (Frame σ ρ ν)
  | [] => (s, [])
  | .release f :: outer => (s.change f, outer)
  | .limit .. :: outer | .guard _ :: outer => (s, outer)

/-- Leaves all frames up to the one that catches a breakdown. -/
def breakDown (s : Shared σ) (message : String) :
    List (Frame σ ρ ν) → Shared σ × Option (Proc σ ρ ν × List (Frame σ ρ ν))
  | [] => (s, none)
  | .release f :: outer => breakDown (s.change f) message outer
  | .limit .. :: outer => breakDown s message outer
  | .guard caught :: outer => (s, some (caught message, outer))

/-- Leaves all frames up to the innermost one whose time is up, if there is one. -/
def giveUp (now : Nat) (s : Shared σ) :
    List (Frame σ ρ ν) → Option (Shared σ × Proc σ ρ ν × List (Frame σ ρ ν))
  | [] => none
  | .limit deadline _ late :: outer =>
    if deadline ≤ now then some (s, late, outer) else giveUp now s outer
  | .release f :: outer => giveUp now (s.change f) outer
  | .guard _ :: outer => giveUp now s outer

/-! ### A turn -/

/-- Runs a task until it has to wait or ends; `unfold` spells out routines. -/
def turn (unfold : ρ → Sim σ ρ ν ν) (id : TaskId) :
    Nat → System σ ρ ν → List (Frame σ ρ ν) → Proc σ ρ ν → System σ ρ ν × TurnEnd σ ρ ν
  | 0, sys, _, _ => (sys, .ended none)
  | fuel + 1, sys, frames, p =>
    let wait (sys : System σ ρ ν) (w : Wait σ) (next : Proc σ ρ ν) (resting : Bool) :
        System σ ρ ν × TurnEnd σ ρ ν :=
      match giveUp sys.now sys.shared frames with
      | some (shared, late, frames) =>
        turn unfold id fuel { sys with shared := shared } frames late
      | none => (sys, .waiting ⟨id, w, next, frames, false⟩ resting)
    match p with
    | .stop => (sys, .ended none)
    | .act f =>
      let (shared, next) := f sys.shared
      turn unfold id fuel { sys with shared := shared } frames next
    | .spawn child next =>
      let new : Task σ ρ ν := ⟨sys.nextTask, .turn, child, [], true⟩
      turn unfold id fuel
        { sys with
          tasks := sys.tasks ++ [new]
          queue := sys.queue ++ [new.id]
          nextTask := sys.nextTask + 1 }
        frames (next new.id)
    | .await ready next =>
      if ready sys.shared then turn unfold id fuel sys frames next
      else wait sys (.condition ready) next false
    | .rest next => wait sys .turn next true
    | .pause millis next =>
      if millis = 0 then turn unfold id fuel sys frames next
      else
        wait { sys with waits := sys.waits + 1 } (.time (sys.now + millis) sys.waits) next false
    | .within millis inner late =>
      turn unfold id fuel { sys with waits := sys.waits + 1 }
        (.limit (sys.now + millis) sys.waits late :: frames) inner
    | .bracket f inner => turn unfold id fuel sys (.release f :: frames) inner
    | .attempt inner caught => turn unfold id fuel sys (.guard caught :: frames) inner
    | .leave next =>
      let (shared, frames) := leaveFrame sys.shared frames
      turn unfold id fuel { sys with shared := shared } frames next
    | .panic message =>
      match breakDown sys.shared message frames with
      | (shared, some (caught, frames)) =>
        turn unfold id fuel { sys with shared := shared } frames caught
      | (shared, none) => ({ sys with shared := shared }, .ended (some message))
    | .call routine next => turn unfold id fuel sys frames (unfold routine next)

/-- Gives a task its turn: it goes on if it can, or gives up what has run out of time, or
waits on. -/
def giveTurn (unfold : ρ → Sim σ ρ ν ν) (fuel : Nat) (sys : System σ ρ ν) (t : Task σ ρ ν) :
    System σ ρ ν × TurnEnd σ ρ ν :=
  match t.wait with
  | .turn => turn unfold t.id fuel sys t.frames t.next
  | .condition ready => turn unfold t.id fuel sys t.frames (.await ready t.next)
  | .time deadline _ =>
    if deadline ≤ sys.now then turn unfold t.id fuel sys t.frames t.next
    else
      match giveUp sys.now sys.shared t.frames with
      | some (shared, late, frames) =>
        turn unfold t.id fuel { sys with shared := shared } frames late
      | none => (sys, .waiting { t with queued := false } false)

/-! ### The queue -/

/-- The task can go on because its condition has come true. -/
def Task.isReady (t : Task σ ρ ν) (s : Shared σ) : Bool :=
  match t.wait with
  | .condition ready => ready s
  | .turn | .time .. => false

/-- Puts the tasks into the queue whose conditions have come true. -/
def wake (sys : System σ ρ ν) : System σ ρ ν :=
  let isWoken (t : Task σ ρ ν) : Bool := !t.queued && t.isReady sys.shared
  { sys with
    main := if isWoken sys.main then { sys.main with queued := true } else sys.main
    queue := sys.queue ++ (sys.tasks.filter isWoken).map (·.id)
    tasks := sys.tasks.map fun t => if isWoken t then { t with queued := true } else t }

/-- Puts tasks into the queue, in the given order. -/
def enqueue (sys : System σ ρ ν) (ids : List TaskId) : System σ ρ ν :=
  let added := ids.filter fun id => sys.tasks.any fun t => t.id == id && !t.queued
  { sys with
    main := if ids.contains mainTask then { sys.main with queued := true } else sys.main
    queue := sys.queue ++ added
    tasks := sys.tasks.map fun t => if ids.contains t.id then { t with queued := true } else t }

/-- Puts a task back after its turn, or notes its end. -/
def settle (sys : System σ ρ ν) (id : TaskId) : TurnEnd σ ρ ν → System σ ρ ν
  | .waiting t resting =>
    { sys with
      tasks := sys.tasks.map fun u => if u.id == id then t else u
      resting := if resting then sys.resting ++ [id] else sys.resting }
  | .ended e =>
    { sys with
      tasks := sys.tasks.filter fun u => u.id != id
      shared := { sys.shared with ended := (id, e) :: sys.shared.ended } }

/-- Gives every task in the queue its turn until the queue is empty. -/
def drain (unfold : ρ → Sim σ ρ ν ν) (steps : Nat) : Nat → System σ ρ ν → System σ ρ ν
  | 0, sys => sys
  | fuel + 1, sys =>
    match sys.queue with
    | [] => sys
    | id :: rest =>
      let sys := { sys with queue := rest }
      match sys.tasks.find? fun t => t.id == id with
      | none => drain unfold steps fuel sys
      | some t =>
        let (sys, e) := giveTurn unfold steps sys t
        drain unfold steps fuel (wake (settle sys id e))

/-! ### Time -/

/-- The instants at which a task has something to do, and the numbers of the waits. -/
def Task.deadlines (t : Task σ ρ ν) : List (Nat × Nat × TaskId) :=
  let own := match t.wait with
    | .time deadline order => [(deadline, order, t.id)]
    | .turn | .condition _ => []
  own ++ t.frames.filterMap fun f =>
    match f with
    | .limit deadline order _ => some (deadline, order, t.id)
    | .release _ | .guard _ => none

/-- Moves the time to the next instant at which some task has something to do, and puts
those tasks into the queue; nothing if there is no such instant. -/
def elapse? (sys : System σ ρ ν) : Option (System σ ρ ν) :=
  let all := sys.main.deadlines ++ sys.tasks.flatMap Task.deadlines
  match (all.map (·.1)).min? with
  | none => none
  | some time =>
    let due := (all.filter fun d => d.1 ≤ time).mergeSort fun a b => a.2.1 ≤ b.2.1
    some (enqueue { sys with now := max sys.now time } (due.map (·.2.2)).eraseDups)

/-- Runs the main task to its end, and the others as long as it lasts. -/
def run (unfold : ρ → Sim σ ρ ν ν) (steps : Nat) : Nat → System σ ρ ν → System σ ρ ν
  | 0, sys => sys
  | fuel + 1, sys =>
    let (sys, finished) :=
      if sys.main.queued then
        let begun := { sys with main := { sys.main with queued := false } }
        match giveTurn unfold steps begun sys.main with
        | (sys, .ended _) => (sys, true)
        | (sys, .waiting t resting) =>
          (wake
            { sys with
              main := { t with queued := false }
              resting := if resting then sys.resting ++ [mainTask] else sys.resting }, false)
      else (sys, false)
    if finished then sys
    else
      let sys := drain unfold steps steps sys
      match sys.resting with
      | [] =>
        if sys.main.queued then run unfold steps fuel sys
        else
          match elapse? sys with
          | some sys => run unfold steps fuel sys
          | none => sys
      | ids => run unfold steps fuel (enqueue { sys with resting := [] } ids)

/-- The world after a main task has run to its end; `fuel` bounds the number of turns and
the length of each. -/
def runMain (unfold : ρ → Sim σ ρ ν ν) (fuel : Nat) (world : σ) (main : Sim σ ρ ν Unit) : σ :=
  let start : System σ ρ ν :=
    { shared := { world := world }
      main := ⟨mainTask, .turn, main fun _ => .stop, [], true⟩ }
  (run unfold fuel fuel start).shared.world

end Outbox.Simulation
