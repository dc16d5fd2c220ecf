import Outbox.Adapter.Call
import Outbox.Retry.Policy

/-!
# Workers

A worker polls the event log: it fetches a batch of due events, claims one after the
other and sees each through its dispatch. It runs one cycle at a time; a call that comes
while a cycle is in progress is skipped. What it did is reported for each cycle and
added up over all of them.
-/

namespace Outbox

/-- How a worker works. -/
structure WorkerSettings where
  /-- How many events it fetches at once. -/
  batchSize : Nat := 10
  /-- How long it waits between two cycles. -/
  pollInterval : Span := .ofMillis 5000
  /-- When events are tried again. -/
  retry : RetryPolicy := {}
  /-- How long its claims last. -/
  claimLease : Span := .ofMillis 300000
  /-- How long it may take to stop. -/
  shutdownTimeout : Span := .ofMillis 30000
  deriving DecidableEq

/-- What one cycle did. -/
structure CycleReport where
  /-- The cycle did not run because another one was in progress. -/
  skipped : Bool := false
  /-- How many due events were fetched. -/
  fetched : Nat := 0
  /-- How many of them were claimed. -/
  claimed : Nat := 0
  /-- How many were synced. -/
  succeeded : Nat := 0
  /-- How many are to be tried again. -/
  retried : Nat := 0
  /-- How many were given up. -/
  deadLettered : Nat := 0
  /-- How many could not be claimed. -/
  conflicts : Nat := 0
  /-- How many were claimed after an earlier claim had expired. -/
  reclaimed : Nat := 0
  deriving DecidableEq, Repr

/-- What a worker did since it was made. -/
structure WorkerStats where
  /-- Its loop is running. -/
  running : Bool := false
  /-- How many cycles it completed. -/
  cycles : Nat := 0
  /-- How many cycles it skipped. -/
  skippedCycles : Nat := 0
  /-- How many events it claimed. -/
  eventsClaimed : Nat := 0
  /-- How many it synced. -/
  succeeded : Nat := 0
  /-- How many failures are to be tried again. -/
  retried : Nat := 0
  /-- How many events it gave up. -/
  deadLettered : Nat := 0
  /-- How many claims it lost. -/
  claimConflicts : Nat := 0
  /-- How many expired claims it took over. -/
  reclaimed : Nat := 0
  deriving DecidableEq, Repr

namespace WorkerStats

/-- Adds what a completed cycle did. -/
def add (s : WorkerStats) (r : CycleReport) : WorkerStats :=
  { s with
    cycles := s.cycles + 1
    eventsClaimed := s.eventsClaimed + r.claimed
    succeeded := s.succeeded + r.succeeded
    retried := s.retried + r.retried
    deadLettered := s.deadLettered + r.deadLettered
    claimConflicts := s.claimConflicts + r.conflicts
    reclaimed := s.reclaimed + r.reclaimed }

end WorkerStats

/-- A worker. -/
structure Worker where
  /-- How it works. -/
  settings : WorkerSettings := {}
  /-- What it did. -/
  stats : WorkerStats := {}
  /-- It was told to stop. -/
  cancelled : Bool := false
  /-- A cycle is in progress. -/
  busy : Bool := false
  deriving DecidableEq

namespace Worker

/-- Begins a cycle, unless one is in progress; then the call is counted as skipped. -/
def enter (w : Worker) : Bool × Worker :=
  if w.busy then
    (false, { w with stats := { w.stats with skippedCycles := w.stats.skippedCycles + 1 } })
  else (true, { w with busy := true })

/-- Ends a cycle, however it went. -/
def leave (w : Worker) : Worker := { w with busy := false }

/-- Adds what a completed cycle did. -/
def record (w : Worker) (r : CycleReport) : Worker := { w with stats := w.stats.add r }

/-- Tells the worker to stop. -/
def cancel (w : Worker) : Worker := { w with cancelled := true }

/-- Notes whether the worker's loop is running. -/
def setRunning (w : Worker) (running : Bool) : Worker :=
  { w with stats := { w.stats with running := running } }

/-! ### Small laws -/

theorem enter_of_busy {w : Worker} (h : w.busy = true) :
    w.enter = (false,
      { w with stats := { w.stats with skippedCycles := w.stats.skippedCycles + 1 } }) :=
  if_pos h

theorem enter_of_idle {w : Worker} (h : w.busy = false) :
    w.enter = (true, { w with busy := true }) :=
  if_neg (Bool.eq_false_iff.1 h)

end Worker

end Outbox
