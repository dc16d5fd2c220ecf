/-!
# Processes

Several tasks take turns in a shared world. A process is what a task has still to do: it
acts on the world, starts other tasks, waits, and ends or breaks down. A task keeps its
turn until it has to wait, so whatever it does between two waits is atomic.

Processes are built by continuations; `Sim` makes a monad of them. A process is a finite
tree, so a loop without a bound is a `call`, which is only spelled out when it is reached.
-/

namespace Outbox.Simulation

/-- The number of a task. -/
abbrev TaskId := Nat

/-- How a task ended: normally, or by a breakdown with a message. -/
abbrev TaskEnd := Option String

/-- What all tasks can see. -/
structure Shared (σ : Type) where
  /-- The world in which they act. -/
  world : σ
  /-- The tasks that have ended, and how. -/
  ended : List (TaskId × TaskEnd) := []

namespace Shared

variable {σ : Type}

/-- How a task ended, if it has. -/
def endOf? (s : Shared σ) (id : TaskId) : Option TaskEnd :=
  (s.ended.find? fun e => e.1 == id).map (·.2)

/-- A task has ended. -/
def hasEnded (s : Shared σ) (id : TaskId) : Bool := (s.endOf? id).isSome

end Shared

/-- What a task has still to do. Calls name a routine in `ρ` and come back with a value in
`ν`. -/
inductive Proc (σ ρ ν : Type) where
  /-- Nothing. -/
  | stop
  /-- To act on the world. -/
  | act (f : Shared σ → Shared σ × Proc σ ρ ν)
  /-- To start a task. -/
  | spawn (child : Proc σ ρ ν) (next : TaskId → Proc σ ρ ν)
  /-- To wait for a condition. -/
  | await (ready : Shared σ → Bool) (next : Proc σ ρ ν)
  /-- To let all other tasks that can go on take a turn. -/
  | rest (next : Proc σ ρ ν)
  /-- To wait some milliseconds. -/
  | pause (millis : Nat) (next : Proc σ ρ ν)
  /-- To do something that ends by `leave` and, if it takes longer than some milliseconds,
  to give it up for something else. -/
  | within (millis : Nat) (inner late : Proc σ ρ ν)
  /-- To do something that ends by `leave` and to act on the world when it ends, is given up
  or breaks down. -/
  | bracket (release : σ → σ) (inner : Proc σ ρ ν)
  /-- To do something that ends by `leave` and, if it breaks down, something else. -/
  | attempt (inner : Proc σ ρ ν) (caught : String → Proc σ ρ ν)
  /-- To end the innermost of the three above. -/
  | leave (next : Proc σ ρ ν)
  /-- To break down. -/
  | panic (message : String)
  /-- To run a routine. -/
  | call (routine : ρ) (next : ν → Proc σ ρ ν)

/-- A part of a process that comes to a result. -/
def Sim (σ ρ ν : Type) (α : Type) : Type := (α → Proc σ ρ ν) → Proc σ ρ ν

namespace Sim

variable {σ ρ ν α β : Type}

instance : Monad (Sim σ ρ ν) where
  pure a := fun k => k a
  bind m f := fun k => m fun a => f a k

/-- Looks at what all tasks can see. -/
def look (f : Shared σ → α) : Sim σ ρ ν α := fun k => .act fun s => (s, k (f s))

/-- Looks at the world. -/
def get (f : σ → α) : Sim σ ρ ν α := look fun s => f s.world

/-- Acts on the world. -/
def step (f : σ → α × σ) : Sim σ ρ ν α := fun k => .act fun s =>
  let (a, world) := f s.world
  ({ s with world := world }, k a)

/-- Changes the world. -/
def modify (f : σ → σ) : Sim σ ρ ν Unit := step fun w => ((), f w)

/-- Starts a task. -/
def spawn (child : Sim σ ρ ν Unit) : Sim σ ρ ν TaskId := fun k =>
  .spawn (child fun _ => .stop) k

/-- Waits for a condition. -/
def await (ready : Shared σ → Bool) : Sim σ ρ ν Unit := fun k => .await ready (k ())

/-- Lets the other tasks take a turn. -/
def rest : Sim σ ρ ν Unit := fun k => .rest (k ())

/-- Waits some milliseconds. -/
def pause (millis : Nat) : Sim σ ρ ν Unit := fun k => .pause millis (k ())

/-- Gives something up that takes longer than some milliseconds. -/
def within (millis : Nat) (m : Sim σ ρ ν α) : Sim σ ρ ν (Option α) := fun k =>
  .within millis (m fun a => .leave (k (some a))) (k none)

/-- Acts on the world after something, however it ends. -/
def bracket (release : σ → σ) (m : Sim σ ρ ν α) : Sim σ ρ ν α := fun k =>
  .bracket release (m fun a => .leave (k a))

/-- Does something that may break down. -/
def attempt (m : Sim σ ρ ν α) : Sim σ ρ ν (Except String α) := fun k =>
  .attempt (m fun a => .leave (k (.ok a))) fun message => k (.error message)

/-- Breaks down. -/
def panic (message : String) : Sim σ ρ ν α := fun _ => .panic message

/-- Runs a routine. -/
def call (routine : ρ) : Sim σ ρ ν ν := fun k => .call routine k

end Sim

end Outbox.Simulation
