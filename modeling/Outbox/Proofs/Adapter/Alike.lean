import Outbox.Proofs.Adapter.FanOut

/-!
# Dispatches that differ in the numbers of their tasks

A dispatch has no say in the numbers that its tasks are given, and they are seen in one place
only: in what is said of a task that broke down. So two dispatches of one change to the same
adapters make the same calls with the same ends, and fare alike, adapter by adapter. Either both
are a success or neither is, and their messages are joined from messages that are the same but
for those numbers (`Dispatched.alike`). If no task breaks down, there is no difference at all
(`Dispatched.eq_of_no_panic`).
-/

namespace Outbox

/-- The end of a call, without the number of its task. -/
def CallEnd.unnumbered {β : Type} : CallEnd β → CallEnd β
  | .panicked _ message => .panicked 0 message
  | e => e

theorem Reaction.unnumbered_callEnd {β : Type} (r : Reaction β) (limit : Span) (task task' : Nat) :
    (r.callEnd limit task).unnumbered = (r.callEnd limit task').unnumbered := by
  cases r <;> rfl

theorem Reaction.callEnd_eq {β : Type} {r : Reaction β} (h : ∀ message, r ≠ .panic message)
    (limit : Span) (task task' : Nat) : r.callEnd limit task = r.callEnd limit task' := by
  cases r with
  | answer after a => rfl
  | raise e => rfl
  | panic message => exact absurd rfl (h message)

/-- Messages that are the same but for the number of a task that broke down. -/
inductive SameButForTask : String → String → Prop where
  /-- They are the same. -/
  | same (message : String) : SameButForTask message message
  /-- They tell of the same breakdown. -/
  | panicked (name message : String) (task task' : Nat) :
      SameButForTask
        (DeliveryError.adapter name ("panicked: " ++ panicText task message)).message
        (DeliveryError.adapter name ("panicked: " ++ panicText task' message)).message

/-- Attempts that went the same way. -/
inductive AttemptResult.Alike : AttemptResult → AttemptResult → Prop where
  | success : Alike .success .success
  | failure {message message' : String} (h : SameButForTask message message') :
      Alike (.failure message) (.failure message')

/-- Adapters that fared alike. -/
structure AdapterOutcome.Alike (o o' : AdapterOutcome) : Prop where
  adapter : o.adapter = o'.adapter
  result : o.result.Alike o'.result

/-- Calls of the same adapter with the same question, which end the same way. -/
structure Asked.Alike {ρ β : Type} (a : Audience ρ β) (c c' : Asked ρ) : Prop where
  place : c.place = c'.place
  question : c.question = c'.question
  callEnd : (a.callEnd c).unnumbered = (a.callEnd c').unnumbered

/-! ### One adapter -/

theorem Asked.alike_of_eq {ρ β : Type} (a : Audience ρ β) {c c' : Asked ρ}
    (hplace : c.place = c'.place) (hquestion : c.question = c'.question) : c.Alike a c' := by
  refine ⟨hplace, hquestion, ?_⟩
  rw [Audience.callEnd, Audience.callEnd, hplace, hquestion]
  exact Reaction.unnumbered_callEnd ..

theorem AttemptResult.ofCall_alike (name : String) (limit : Span) {e e' : CallEnd SyncOutcome}
    (h : e.unnumbered = e'.unnumbered) : (ofCall name limit e).Alike (ofCall name limit e') := by
  have hsame : ∀ r : AttemptResult, r.Alike r
    | .success => .success
    | .failure message => .failure (.same message)
  cases e <;> cases e' <;> cases h
  · exact hsame _
  · exact hsame _
  · exact hsame _
  · exact .failure (.panicked ..)

theorem AttemptResult.Alike.success_iff {r r' : AttemptResult} (h : r.Alike r') :
    r = .success ↔ r' = .success := by
  cases h <;> simp

/-! ### Two dispatches -/

namespace DispatchResult

/-- The adapters that failed did so with messages that are the same but for the numbers. -/
theorem failures_alike {os os' : List AdapterOutcome}
    (h : List.Forall₂ AdapterOutcome.Alike os os') :
    List.Forall₂ SameButForTask (failures os) (failures os') := by
  induction h with
  | nil => exact .nil
  | @cons o o' os os' ho _ ih =>
    obtain ⟨adapter, result⟩ := o
    obtain ⟨adapter', result'⟩ := o'
    cases ho.result with
    | success => exact ih
    | failure hsame => exact .cons hsame ih

theorem success_of_alike {os os' : List AdapterOutcome}
    (h : List.Forall₂ AdapterOutcome.Alike os os') :
    (∀ o ∈ os, o.result = .success) ↔ ∀ o ∈ os', o.result = .success := by
  induction h with
  | nil => rfl
  | @cons o o' os os' ho _ ih =>
    rw [List.forall_mem_cons, List.forall_mem_cons, ho.result.success_iff, ih]

/-- Dispatches that come to the same. -/
structure Alike (d d' : DispatchResult) : Prop where
  /-- Both are a success, or neither is. -/
  success : d.success = d'.success
  /-- The adapters have fared alike. -/
  outcomes : List.Forall₂ AdapterOutcome.Alike d.outcomes d'.outcomes
  /-- If they have failed, they did so with the same messages. -/
  message : d.success = false → ∃ messages messages',
    d.message = String.intercalate "; " messages ∧
      d'.message = String.intercalate "; " messages' ∧
        List.Forall₂ SameButForTask messages messages'

end DispatchResult

namespace Dispatched

variable {a : Audience SyncRequest SyncOutcome} {names : List String} {r : SyncRequest}
  {d d' : DispatchResult} {asked asked' : List (Asked SyncRequest)}

/-- What they say of the adapter at a place is due to the same reaction of it. -/
theorem entries (h : Dispatched a names r d asked) (h' : Dispatched a names r d' asked')
    {i : Nat} (hi : i < d.outcomes.length) (hi' : i < d'.outcomes.length) :
    ∃ name task task',
      d.outcomes[i] = .ofCall a.limit name ((a.react i r).callEnd a.limit task) ∧
        d'.outcomes[i] = .ofCall a.limit name ((a.react i r).callEnd a.limit task') := by
  obtain ⟨name, task, hname, ho⟩ := h.entry i _ (List.getElem?_eq_getElem hi)
  obtain ⟨name', task', hname', ho'⟩ := h'.entry i _ (List.getElem?_eq_getElem hi')
  obtain rfl : name = name' := Option.some.inj (hname.symm.trans hname')
  exact ⟨name, task, task', ho, ho'⟩

theorem outcomes_alike (h : Dispatched a names r d asked) (h' : Dispatched a names r d' asked') :
    List.Forall₂ AdapterOutcome.Alike d.outcomes d'.outcomes := by
  refine List.forall₂_iff_get.2 ⟨h.length.trans h'.length.symm, fun i hi hi' => ?_⟩
  obtain ⟨name, task, task', ho, ho'⟩ := h.entries h' hi hi'
  rw [List.get_eq_getElem, List.get_eq_getElem, ho, ho']
  exact ⟨rfl, AttemptResult.ofCall_alike name a.limit (Reaction.unnumbered_callEnd ..)⟩

/-- Two dispatches of one change come to the same. -/
theorem alike (h : Dispatched a names r d asked) (h' : Dispatched a names r d' asked') :
    d.Alike d' := by
  have houtcomes := h.outcomes_alike h'
  have hsuccess : d.success = d'.success := by
    rw [Bool.eq_iff_iff, h.success, h'.success]
    exact DispatchResult.success_of_alike houtcomes
  have hmessages := DispatchResult.failures_alike houtcomes
  refine ⟨hsuccess, houtcomes, fun hfailed => ⟨_, _, h.message hfailed, ?_, hmessages⟩⟩
  exact h'.message (hsuccess ▸ hfailed)

/-- They make the same calls. -/
theorem asked_alike (h : Dispatched a names r d asked) (h' : Dispatched a names r d' asked') :
    List.Forall₂ (Asked.Alike a) asked asked' := by
  have hplaces : asked.map Asked.place = asked'.map Asked.place :=
    h.asked.places.trans h'.asked.places.symm
  have hlength : asked.length = asked'.length := by simpa using congrArg List.length hplaces
  refine List.forall₂_iff_get.2 ⟨hlength, fun i hi hi' => Asked.alike_of_eq a ?_ ?_⟩
  · simpa [hi, hi'] using congrArg (·[i]?) hplaces
  · rw [h.asked.question _ (List.get_mem ..), h'.asked.question _ (List.get_mem ..)]

/-- If no task breaks down, they do not differ at all. -/
theorem eq_of_no_panic (h : Dispatched a names r d asked) (h' : Dispatched a names r d' asked')
    (hcalm : ∀ place message, a.react place r ≠ .panic message) : d.outcomes = d'.outcomes := by
  refine List.ext_getElem (h.length.trans h'.length.symm) fun i hi hi' => ?_
  obtain ⟨name, task, task', ho, ho'⟩ := h.entries h' hi hi'
  rw [ho, ho', Reaction.callEnd_eq (hcalm i) a.limit task task']

end Dispatched

end Outbox
