import Outbox.Adapter.Call

/-!
# Asking all adapters

A question goes to every adapter, each in a task of its own: all calls are begun before the
first is waited for. What came of them is told in the order of the adapters, whatever the
order in which the calls end.
-/

namespace Outbox

/-- What it takes to ask all adapters from where that is done: `ρ` is what they are asked, `β`
what they answer, and `τ` what is known of a call in progress. -/
structure FanOut (m : Type → Type) (ρ β τ : Type) where
  /-- Begins the call of the adapter at a place, in a task of its own. -/
  call : Nat → ρ → m τ
  /-- Waits for the end of a call. -/
  await : τ → m (CallEnd β)

namespace FanOut

variable {m : Type → Type} {ρ β τ γ : Type} [Monad m]

/-- Begins the calls of all adapters. -/
def callAll (h : FanOut m ρ β τ) (names : List String) (q : ρ) : m (List (String × τ)) :=
  names.zipIdx.mapM fun (name, place) => do return (name, ← h.call place q)

/-- Waits for all calls and tells how each ended, by the name of its adapter. -/
def awaitAll (h : FanOut m ρ β τ) (tell : String → CallEnd β → γ) (calls : List (String × τ)) :
    m (List γ) :=
  calls.mapM fun (name, call) => do return tell name (← h.await call)

/-- Asks the adapters with these names. -/
def run (h : FanOut m ρ β τ) (tell : String → CallEnd β → γ) (names : List String) (q : ρ) :
    m (List γ) := do
  let calls ← h.callAll names q
  h.awaitAll tell calls

end FanOut

/-- What a check of the health of all adapters needs from where it runs. -/
abbrev HealthHost (m : Type → Type) (τ : Type) := FanOut m Unit Health τ

namespace HealthHost

/-- Asks the adapters with these names for their health, each under the time limit. -/
def run {m : Type → Type} {τ : Type} [Monad m] (h : HealthHost m τ) (names : List String)
    (limit : Span) : m (List HealthReport) :=
  FanOut.run h (fun name => .ofCall name limit) names ()

end HealthHost

end Outbox
