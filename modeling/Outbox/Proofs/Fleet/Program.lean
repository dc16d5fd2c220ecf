import Outbox.Proofs.Dialogue
import Outbox.Worker.Cycle

/-!
# The cycle of a worker, step by step

`CycleHost.run` is the cycle of a worker, written for any surroundings, and
`DispatchHost.run` the dispatch of a change. Here both run as dialogues with the event log and
the adapters: a `Program` is the tree of the atomic steps that are still to be taken. What a worker
does between two steps is its own affair, so an interleaving of several workers is a choice, again
and again, of the program that takes its next step.
-/

namespace Outbox

/-- An atomic step of a program. -/
inductive Program.Step where
  /-- To fetch a batch. -/
  | fetch
  /-- To claim an event. -/
  | claim (e : Event)
  /-- To begin the call of the adapter at a place. -/
  | call (place : Nat) (r : SyncRequest)
  /-- To wait for the end of the call of the adapter at a place. -/
  | await (place : Nat)
  /-- To record how the dispatch of an event went. -/
  | settle (e : Event) (result : AttemptResult)

/-- What comes of a step. -/
@[reducible] def Program.Step.Answer : Step → Type
  | fetch => Except StoreError (List Event)
  | claim _ => ClaimEnd
  | call .. => Unit
  | await _ => CallEnd SyncOutcome
  | settle .. => Disposition

/-- What is still to be done, one atomic step after the other. -/
abbrev Program : Type → Type := Dialogue Program.Step.Answer

namespace Program

variable {α : Type}

/-- The outcome that the program asks to have recorded next. -/
def settling? : Program α → Option (Event × AttemptResult)
  | .ask (.settle e result) _ => some (e, result)
  | _ => none

theorem settling?_eq_some {p : Program α} {e : Event} {result : AttemptResult} :
    p.settling? = some (e, result) ↔ ∃ next, p = .ask (.settle e result) next := by
  cases p with
  | done a => simp [settling?]
  | ask q next => cases q <;> simp [settling?]

/-- A dispatch asks for calls and waits for their ends. -/
def dispatchHost : DispatchHost Program Nat where
  call place r := .ask (.call place r) fun _ => .done place
  await place := .ask (.await place) .done

/-- A cycle asks the event log for batches, claims and records, and dispatches to the
adapters with these names. -/
def cycleHost (adapters : List String) (limit : Span) : CycleHost Program where
  fetch := .ask .fetch .done
  claim e := .ask (.claim e) .done
  dispatch := dispatchHost.run adapters limit
  settle e result := .ask (.settle e result) .done

/-- A whole cycle. -/
def cycle (adapters : List String) (limit : Span) : Program (Except DeliveryError CycleReport) :=
  (cycleHost adapters limit).run

end Program

end Outbox
