import Outbox.Adapter.FanOut

/-!
# Dispatching a change

A change goes to every adapter, each in a task and under a time limit of its own: all
calls are begun before the first is waited for. The dispatch succeeds when no adapter
failed; otherwise its message joins the messages of the adapters that did, in the order
of the adapters.
-/

namespace Outbox

/-- How one adapter fared in a dispatch. -/
structure AdapterOutcome where
  /-- The name of the adapter. -/
  adapter : String
  /-- How the attempt went. -/
  result : AttemptResult
  deriving DecidableEq, Repr

namespace AdapterOutcome

/-- How an adapter fared whose call ended like this. -/
def ofCall (limit : Span) (name : String) (e : CallEnd SyncOutcome) : AdapterOutcome :=
  ⟨name, .ofCall name limit e⟩

end AdapterOutcome

/-- The result of a dispatch. -/
structure DispatchResult where
  /-- No adapter failed. -/
  success : Bool
  /-- A summary, or the messages of the adapters that failed. -/
  message : String
  /-- How each adapter fared, in their order. -/
  outcomes : List AdapterOutcome
  deriving DecidableEq, Repr

namespace DispatchResult

/-- The result of a dispatch to no adapters. -/
def none : DispatchResult := ⟨true, "no adapters registered", []⟩

/-- The messages of the adapters that failed, in their order. -/
def failures (outcomes : List AdapterOutcome) : List String :=
  outcomes.filterMap fun o => o.result.failure?

/-- The result of a dispatch in which the adapters fared like this. -/
def ofOutcomes (outcomes : List AdapterOutcome) : DispatchResult :=
  match outcomes, failures outcomes with
  | [], _ => none
  | _, [] => ⟨true, "synced to " ++ toString outcomes.length ++ " adapter(s)", outcomes⟩
  | _, messages => ⟨false, String.intercalate "; " messages, outcomes⟩

/-- The dispatch seen as one attempt. -/
def attempt (d : DispatchResult) : AttemptResult :=
  if d.success then .success else .failure d.message

end DispatchResult

/-- What a dispatch needs from where it runs; `τ` is what is known of a call in progress. -/
abbrev DispatchHost (m : Type → Type) (τ : Type) := FanOut m SyncRequest SyncOutcome τ

namespace DispatchHost

/-- Dispatches a change to the adapters with these names. -/
def run {m : Type → Type} {τ : Type} [Monad m] (h : DispatchHost m τ) (names : List String)
    (limit : Span) (r : SyncRequest) : m DispatchResult := do
  return .ofOutcomes (← FanOut.run h (AdapterOutcome.ofCall limit) names r)

end DispatchHost

end Outbox
