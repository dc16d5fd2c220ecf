import Outbox.Event.Wire

/-!
# How many events there are

The number of events in each status.
-/

namespace Outbox

/-- A number for each status. -/
structure StatusCounts where
  /-- How many events are pending. -/
  pending : Int := 0
  /-- How many events are processing. -/
  processing : Int := 0
  /-- How many events are synced. -/
  success : Int := 0
  /-- How many events are failed. -/
  failed : Int := 0
  /-- How many events are dead. -/
  dead : Int := 0
  deriving DecidableEq, Repr

namespace StatusCounts

/-- Adds events of one status. -/
def record (c : StatusCounts) (s : Status) (n : Int) : StatusCounts :=
  match s with
  | .pending => { c with pending := c.pending + n }
  | .processing => { c with processing := c.processing + n }
  | .success => { c with success := c.success + n }
  | .failed => { c with failed := c.failed + n }
  | .dead => { c with dead := c.dead + n }

/-- The number for one status. -/
def get (c : StatusCounts) : Status → Int
  | .pending => c.pending
  | .processing => c.processing
  | .success => c.success
  | .failed => c.failed
  | .dead => c.dead

/-- The number of all events. -/
def total (c : StatusCounts) : Int :=
  c.pending + c.processing + c.success + c.failed + c.dead

/-- The counts as JSON. -/
def toJson (c : StatusCounts) : Json :=
  .object
    [ ("dead", .integer c.dead),
      ("failed", .integer c.failed),
      ("pending", .integer c.pending),
      ("processing", .integer c.processing),
      ("success", .integer c.success) ]

theorem get_record (c : StatusCounts) (s t : Status) (n : Int) :
    (c.record s n).get t = if s = t then c.get t + n else c.get t := by
  cases s <;> cases t <;> simp [record, get]

theorem total_record (c : StatusCounts) (s : Status) (n : Int) :
    (c.record s n).total = c.total + n := by
  cases s <;> simp only [record, total] <;> omega

end StatusCounts

end Outbox
