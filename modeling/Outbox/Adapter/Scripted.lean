import Outbox.Adapter.Call

/-!
# Adapters with a script

An adapter whose behaviour is laid down call by call: each call takes the next entry of
the script, and after its end every call behaves as the fallback.
-/

namespace Outbox

/-- How an adapter behaves in one call. -/
inductive Behaviour where
  /-- It succeeds. -/
  | succeed
  /-- It refuses the change, with a reason. -/
  | fail (message : String)
  /-- It raises an error. -/
  | raise (message : String)
  /-- Its task breaks down. -/
  | panic
  /-- It takes some time and succeeds. -/
  | delay (time : Span)
  deriving DecidableEq

/-- What happens in a call: after some time it ends, by an answer, an error or a
breakdown. -/
inductive Reaction (α : Type) where
  /-- An answer after some time. -/
  | answer (after : Span) (a : α)
  /-- An error at once. -/
  | raise (e : DeliveryError)
  /-- A breakdown at once. -/
  | panic (message : String)

namespace Reaction

/-- How a call ends that may take no longer than a limit and whose task has a given
number. -/
def callEnd {α : Type} (limit : Span) (task : Nat) : Reaction α → CallEnd α
  | answer after a => if after ≤ limit then .answered a else .timedOut
  | raise e => .raised e
  | panic message => .panicked task message

end Reaction

namespace Behaviour

/-- What happens when the adapter with a given name is asked to sync an entity. -/
def sync (name entityId : String) : Behaviour → Reaction SyncOutcome
  | succeed => .answer .zero (.ok (name ++ " synced " ++ entityId))
  | fail message => .answer .zero (.failed message)
  | raise message => .raise (.adapter name message)
  | panic => .panic (name ++ " adapter panicked")
  | delay time => .answer time (.ok (name ++ " synced " ++ entityId ++ " slowly"))

/-- What happens when the adapter with a given name is asked for its health. -/
def health (name : String) : Behaviour → Reaction Health
  | succeed => .answer .zero ⟨true, name ++ " ok"⟩
  | fail message => .answer .zero ⟨false, message⟩
  | raise message => .raise (.adapter name message)
  | panic => .panic (name ++ " health check panicked")
  | delay time => .answer time ⟨true, name ++ " ok after " ++ time.text⟩

end Behaviour

/-- An adapter with a script. -/
structure Scripted where
  /-- The name of the adapter. -/
  name : String
  /-- How it behaves in the next calls. -/
  script : List Behaviour := []
  /-- How it behaves after the script. -/
  fallback : Behaviour := .succeed
  /-- How it behaves when asked for its health. -/
  health : Behaviour := .succeed
  /-- How many calls there were. -/
  calls : Nat := 0
  deriving DecidableEq

namespace Scripted

/-- Counts a call and takes its behaviour off the script. -/
def next (a : Scripted) : Behaviour × Scripted :=
  match a.script with
  | [] => (a.fallback, { a with calls := a.calls + 1 })
  | b :: rest => (b, { a with script := rest, calls := a.calls + 1 })

end Scripted

end Outbox
