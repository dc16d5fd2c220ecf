import Outbox.Proofs.Dispatch
import Outbox.Proofs.Fleet.Basic

/-!
# What a worker does in its cycle, in order

A program is orderly when it asks only for what a worker may ask for, as far as the record
of the worker tells: it claims an event of its batch, and only while it holds no claim; it
settles the event that it holds a claim of, once every adapter was called for it exactly
once, and the result is what the ends of those calls amount to.

`orderly_cycle` says that the cycle is orderly, whatever the surroundings answer. It is put
together from one law for each part of the cycle: the calls, the waits, the dispatch and the
batch.
-/

namespace Outbox

namespace Exchange

/-- The adapters at so many places, from a first one on, are called with a change. -/
def calls (r : SyncRequest) (first count : Nat) : List Exchange :=
  (List.range' first count).map fun place => call place r

/-- The calls of the adapters at the places from a first one on end like this. -/
def answers (first : Nat) (ends : List (CallEnd SyncOutcome)) : List Exchange :=
  (ends.zipIdx first).map fun (e, place) => answer place e

/-- A whole dispatch: every adapter is called with the change, once, and its call ends. -/
def dispatch (r : SyncRequest) (ends : List (CallEnd SyncOutcome)) : List Exchange :=
  calls r 0 ends.length ++ answers 0 ends

end Exchange

namespace Notes

@[simp] theorem exchanges_tell (n : Notes) (xs : List Exchange) :
    (n.tell xs).exchanges = n.exchanges ++ xs := rfl

@[simp] theorem tell_nil (n : Notes) : n.tell [] = n := by simp [tell]

@[simp] theorem tell_tell (n : Notes) (xs ys : List Exchange) :
    (n.tell xs).tell ys = n.tell (xs ++ ys) := by simp [tell]

/-- The worker holds a claim of the event and has just dispatched it, with this result. -/
def Earned (adapters : List String) (limit : Span) (n : Notes) (e : Event)
    (result : AttemptResult) : Prop :=
  ∃ c ends, n.claim = some c ∧ c.event = e ∧ e ∈ n.batch ∧ ends.length = adapters.length ∧
    Exchange.dispatch (.ofEvent e) ends <:+ n.exchanges ∧
    result = (DispatchResult.ofOutcomes (AdapterOutcome.ofEnds limit adapters ends)).attempt

end Notes

namespace Program

variable {α : Type} (adapters : List String) (limit : Span)

/-- What a worker with a record may ask for, and what becomes of the record. -/
def order : Protocol Step.Answer Notes where
  May
    | n, .fetch => n.claim = none
    | n, .claim e => n.claim = none ∧ e ∈ n.batch
    | _, .call .. | _, .await _ => True
    | n, .settle e result => n.Earned adapters limit e result
  Leads
    | n, .fetch, a, n' => n' = n.fetched a
    | n, .claim e, a, n' =>
      (a = .claimed ∧ ∃ c, c.event = e ∧ n' = { n with claim := some c }) ∨ (a ≠ .claimed ∧ n' = n)
    | n, .call place r, _, n' => n' = n.tell [.call place r]
    | n, .await place, e, n' => n' = n.tell [.answer place e]
    | n, .settle .., _, n' => n' = n.release

/-- The program asks only for what a worker with this record may ask for, and the result and
the record at its end are as they should be. -/
abbrev Orderly (post : α → Notes → Prop) (p : Program α) (n : Notes) : Prop :=
  p.Follows (order adapters limit) post n

/-! ### The dispatch -/

/-- The calls of the adapters from a place on. -/
theorem orderly_calls (r : SyncRequest) (names : List String) (first : Nat) (n : Notes) :
    Orderly adapters limit
      (fun calls n' => calls = names.zipIdx first ∧
        n' = n.tell (Exchange.calls r first names.length))
      ((names.zipIdx first).mapM fun (name, place) => do
        return (name, ← dispatchHost.call place r)) n := by
  induction names generalizing first n with
  | nil => exact ⟨rfl, by simp [Exchange.calls]⟩
  | cons name names ih =>
    rw [List.zipIdx_cons, List.mapM_cons]
    refine ⟨trivial, ?_⟩
    rintro - n rfl
    refine (ih (first + 1) _).bind ?_
    rintro calls n' ⟨rfl, rfl⟩
    exact ⟨rfl, by simp [Exchange.calls, List.range'_succ]⟩

/-- The waits for calls that were begun from a place on. -/
theorem orderly_waits (names : List String) (first : Nat) (n : Notes) :
    Orderly adapters limit
      (fun outcomes n' => ∃ ends, ends.length = names.length ∧
        outcomes = AdapterOutcome.ofEnds limit names ends ∧
        n' = n.tell (Exchange.answers first ends))
      (dispatchHost.awaitAll (AdapterOutcome.ofCall limit) (names.zipIdx first)) n := by
  unfold FanOut.awaitAll
  induction names generalizing first n with
  | nil => exact ⟨[], rfl, rfl, by simp [Exchange.answers]⟩
  | cons name names ih =>
    rw [List.zipIdx_cons, List.mapM_cons]
    refine ⟨trivial, ?_⟩
    rintro e n rfl
    refine (ih (first + 1) _).bind ?_
    rintro outcomes n' ⟨ends, hlength, rfl, rfl⟩
    exact ⟨e :: ends, by simp [hlength], rfl, by simp [Exchange.answers]⟩

/-- A dispatch calls every adapter once and comes to what the ends of the calls amount to. -/
theorem orderly_dispatch (r : SyncRequest) (n : Notes) :
    Orderly adapters limit
      (fun d n' => ∃ ends, ends.length = adapters.length ∧
        d = .ofOutcomes (AdapterOutcome.ofEnds limit adapters ends) ∧
        n' = n.tell (Exchange.dispatch r ends))
      (dispatchHost.run adapters limit r) n := by
  have houtcomes : Orderly adapters limit
      (fun outcomes n' => ∃ ends, ends.length = adapters.length ∧
        outcomes = AdapterOutcome.ofEnds limit adapters ends ∧
        n' = (n.tell (Exchange.calls r 0 adapters.length)).tell (Exchange.answers 0 ends))
      (FanOut.run dispatchHost (AdapterOutcome.ofCall limit) adapters r) n := by
    refine (orderly_calls adapters limit r adapters 0 n).bind ?_
    rintro calls n' ⟨rfl, rfl⟩
    exact orderly_waits adapters limit adapters 0 _
  refine houtcomes.bind ?_
  rintro outcomes n' ⟨ends, hlength, rfl, rfl⟩
  exact ⟨ends, hlength, rfl, by simp [Exchange.dispatch, hlength]⟩

/-! ### The cycle -/

/-- Working off events of the batch. -/
theorem orderly_work (batch : List Event) (report : CycleReport) (n : Notes)
    (hfree : n.claim = none) (hbatch : ∀ e ∈ batch, e ∈ n.batch) :
    Orderly adapters limit (fun _ n' => n'.claim = none)
      ((cycleHost adapters limit).work batch report) n := by
  induction batch generalizing report n with
  | nil => exact hfree
  | cons e rest ih =>
    have hmem : e ∈ n.batch := hbatch e List.mem_cons_self
    have hrest : ∀ d ∈ rest, d ∈ n.batch := fun d hd => hbatch d (List.mem_cons_of_mem _ hd)
    refine ⟨⟨hfree, hmem⟩, ?_⟩
    rintro a n' (⟨rfl, c, hc, rfl⟩ | ⟨ha, rfl⟩)
    · refine (orderly_dispatch adapters limit (.ofEvent e) _).bind ?_
      rintro d n' ⟨ends, hlength, rfl, rfl⟩
      refine ⟨⟨c, ends, rfl, hc, hmem, hlength, List.suffix_append _ _, rfl⟩, ?_⟩
      rintro d n' rfl
      exact ih _ _ rfl hrest
    · cases a with
      | cancelled => exact hfree
      | conflict => exact ih _ _ hfree hrest
      | failed error => exact ih _ _ hfree hrest
      | claimed => exact absurd rfl ha

/-- The cycle is orderly, whatever the surroundings answer. -/
theorem orderly_cycle (n : Notes) (hfree : n.claim = none) :
    Orderly adapters limit (fun _ n' => n'.claim = none) (cycle adapters limit) n := by
  refine ⟨hfree, ?_⟩
  rintro a n' rfl
  cases a with
  | error e => exact hfree
  | ok batch =>
    refine (orderly_work adapters limit batch _ (n.fetched (.ok batch)) hfree ?_).bind
      fun _ _ h => h
    exact fun e he => he

end Program

end Outbox
