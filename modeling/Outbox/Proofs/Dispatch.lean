import Outbox.Dispatch
import Mathlib.Data.List.Basic

/-!
# What a dispatch comes to

A dispatch is a success exactly if every call that it made was answered, and every answer
says that the change was taken over. A refusal, an error, a call without an answer in time
and a task that broke down all make a failure of it.
-/

namespace Outbox

namespace CallEnd

/-- The adapter has answered that it took the change over. -/
def IsSuccess (e : CallEnd SyncOutcome) : Prop := ∃ o, e = .answered o ∧ o.success = true

end CallEnd

namespace AttemptResult

theorem ofCall_eq_success {name : String} {limit : Span} {e : CallEnd SyncOutcome} :
    ofCall name limit e = success ↔ e.IsSuccess := by
  cases e with
  | answered o => cases h : o.success <;> simp [ofCall, CallEnd.IsSuccess, h]
  | raised error => simp [ofCall, CallEnd.IsSuccess]
  | timedOut => simp [ofCall, CallEnd.IsSuccess]
  | panicked task message => simp [ofCall, CallEnd.IsSuccess]

theorem failure?_eq_none {r : AttemptResult} : r.failure? = none ↔ r = success := by
  cases r <;> simp [failure?]

end AttemptResult

namespace AdapterOutcome

/-- How the adapters with these names fared whose calls ended like this. -/
def ofEnds (limit : Span) (names : List String) (ends : List (CallEnd SyncOutcome)) :
    List AdapterOutcome :=
  List.zipWith (fun name e => ⟨name, .ofCall name limit e⟩) names ends

/-- All adapters fared well exactly if all calls did. -/
theorem ofEnds_success {limit : Span} {names : List String} {ends : List (CallEnd SyncOutcome)}
    (h : ends.length = names.length) :
    (∀ o ∈ ofEnds limit names ends, o.result = .success) ↔ ∀ e ∈ ends, e.IsSuccess := by
  induction names generalizing ends with
  | nil => simp [List.eq_nil_of_length_eq_zero h, ofEnds]
  | cons name names ih =>
    obtain ⟨e, ends, rfl⟩ := List.exists_cons_of_length_eq_add_one h
    have hlength : ends.length = names.length := by simpa using h
    have hrest := ih hlength
    simp only [ofEnds, List.zipWith_cons_cons, List.forall_mem_cons,
      AttemptResult.ofCall_eq_success] at hrest ⊢
    rw [hrest]

end AdapterOutcome

namespace DispatchResult

/-- A dispatch seen as one attempt is a success exactly if every adapter fared well. -/
theorem attempt_ofOutcomes {outcomes : List AdapterOutcome} :
    (ofOutcomes outcomes).attempt = .success ↔ ∀ o ∈ outcomes, o.result = .success := by
  have hfailures : failures outcomes = [] ↔ ∀ o ∈ outcomes, o.result = .success := by
    simp [failures, List.filterMap_eq_nil_iff, AttemptResult.failure?_eq_none]
  rw [← hfailures]
  cases outcomes with
  | nil => simp [ofOutcomes, none, attempt, failures]
  | cons o rest =>
    unfold ofOutcomes
    cases hf : failures (o :: rest) with
    | nil => simp [attempt]
    | cons message messages => simp [attempt]

end DispatchResult

end Outbox
