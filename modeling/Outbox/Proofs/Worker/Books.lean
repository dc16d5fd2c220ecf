import Outbox.Proofs.Worker.Alone
import Outbox.Proofs.Worker.Guard

/-!
# The books of a call

Each atomic step of a call is a `Deed`: what was asked, what was answered, and the scene before
and after. What of it matters for the accounts is its `Posting`. The books of a call are balanced
if what its report says is what its postings add up to.

A `Routine` `Ensures` something of the deeds that it adds to those there are, if it is answered as
the worker, the event log and the adapters answer, or broken off. That is a protocol whose states
are the deeds so far; `ensures_poll` goes once through the call of a worker with it, down to the
loop over the batch (`ensures_work`).
-/

namespace Outbox

/-! ### Deeds -/

/-- An atomic step of a call. -/
structure Deed where
  /-- What the call asked for. -/
  ask : Ask
  /-- What it was answered, unless that broke down. -/
  answer : Option ask.Answer
  /-- What the worker works on, before the step. -/
  before : Scene
  /-- What it works on after the step. -/
  after : Scene

/-- What a deed adds to the accounts. -/
inductive Posting where
  /-- A call that was skipped. -/
  | skipped
  /-- A claim that was won, of an event that was in processing before or not. -/
  | won (reclaimed : Bool)
  /-- A claim that was lost. -/
  | lost
  /-- A claim in which the event log failed. -/
  | failed
  /-- What came of an event that was claimed. -/
  | settled (d : Disposition)
  /-- The report of a cycle that was completed. -/
  | recorded (r : CycleReport)
  deriving DecidableEq

namespace Posting

/-- A claim was won. -/
def isWon : Posting → Bool
  | won _ => true
  | _ => false

/-- A claim was tried. -/
def isTried : Posting → Bool
  | won _ | lost | failed => true
  | _ => false

/-- An event was settled. -/
def isSettled : Posting → Bool
  | settled _ => true
  | _ => false

/-- An outcome could not be written. -/
def isUnwritten : Posting → Bool
  | settled (.unrecorded _) => true
  | _ => false

/-- It changes the totals of the worker. -/
def isTotal : Posting → Bool
  | skipped | recorded _ => true
  | _ => false

/-- The report of a completed cycle. -/
def report? : Posting → Option CycleReport
  | recorded r => some r
  | _ => none

end Posting

namespace Deed

/-- What a deed adds to the accounts, if anything. -/
def posting? : Deed → Option Posting
  | ⟨.enter, some false, _, _⟩ => some .skipped
  | ⟨.claim e, some .claimed, _, _⟩ => some (.won (e.status == .processing))
  | ⟨.claim _, some .conflict, _, _⟩ => some .lost
  | ⟨.claim _, some (.failed _), _, _⟩ => some .failed
  | ⟨.settle _ _, some d, _, _⟩ => some (.settled d)
  | ⟨.record r, some _, _, _⟩ => some (.recorded r)
  | _ => none

/-- What the deeds add to the accounts. -/
def postings (deeds : List Deed) : List Posting := deeds.filterMap posting?

/-- The batch that a deed has fetched. -/
def batch? : Deed → Option (List Event)
  | ⟨.fetch, some (.ok batch), _, _⟩ => some batch
  | _ => none

/-- The event that a deed has tried to claim. -/
def tried? : Deed → Option Event
  | ⟨.claim _, some .cancelled, _, _⟩ => none
  | ⟨.claim e, some _, _, _⟩ => some e
  | _ => none

/-- The answer is one that the worker with these settings or the event log gives. -/
def IsLawful (w : WorkerSettings) : Deed → Prop
  | ⟨.enter, a, _, _⟩ => a.isSome = true
  | ⟨.leave, a, _, _⟩ => a.isSome = true
  | ⟨.record _, a, _, _⟩ => a.isSome = true
  | ⟨.fetch, some (.ok batch), before, _⟩ => batch = before.store.oldestDue before.now w.batchSize
  | ⟨.claim _, some (.failed _), _, _⟩ => True
  | ⟨.claim e, some a, before, after⟩ =>
    w.claim before.now before.worker.cancelled e before.store = (a, after.store)
  | ⟨.settle e result, some d, before, after⟩ =>
    ∃ chance, w.retry.settle before.now e result before.store chance = (.ok d, after.store)
  | _ => True

/-- The deed won a claim of the event. -/
def Wins (e : Event) (d : Deed) : Prop :=
  ∃ before after, d = ⟨.claim e, some .claimed, before, after⟩

/-- An event of which a claim was won is in the log. -/
theorem Wins.found {w : WorkerSettings} {e : Event} {d : Deed} (h : d.Wins e)
    (hlawful : d.IsLawful w) : (d.before.store.find? e.id).isSome = true := by
  obtain ⟨before, after, rfl⟩ := h
  obtain ⟨f, hf, -⟩ | ⟨a, ha, -, hclaim⟩ :=
    w.claim_cases before.now before.worker.cancelled e before.store
  · rw [hf]
    rfl
  · rw [show w.claim _ _ _ _ = _ from hlawful] at hclaim
    exact absurd (Prod.mk.inj hclaim).1.symm ha

theorem postings_append (deeds more : List Deed) :
    postings (deeds ++ more) = postings deeds ++ postings more := List.filterMap_append

theorem postings_add_of_none {d : Deed} (h : d.posting? = none) (deeds : List Deed) :
    postings (deeds ++ [d]) = postings deeds := by
  simp [postings, h]

theorem postings_add_of_some {d : Deed} {n : Posting} (h : d.posting? = some n)
    (deeds : List Deed) : postings (deeds ++ [d]) = postings deeds ++ [n] := by
  simp [postings, h]

end Deed

open Deed (postings postings_append postings_add_of_none postings_add_of_some)

namespace Ask

/-- It is part of a dispatch. -/
def isDispatch : Ask → Bool
  | call .. | await _ => true
  | _ => false

/-- A call settles only what it has claimed. -/
def IsDue (deeds : List Deed) : Ask → Prop
  | settle e _ => ∃ d ∈ deeds, d.Wins e
  | _ => True

theorem IsDue.append {deeds : List Deed} {q : Ask} (h : q.IsDue deeds) (more : List Deed) :
    q.IsDue (deeds ++ more) := by
  cases q with
  | settle e result =>
    obtain ⟨d, hd, hwins⟩ := h
    exact ⟨d, List.mem_append_left _ hd, hwins⟩
  | _ => trivial

end Ask

/-- How far the deeds have come with a batch: claims were tried of its first events, and these are
left. -/
structure Deed.WorksOff (deeds : List Deed) (batch rest : List Event) : Prop where
  /-- The batch is what was fetched, once. -/
  fetched : deeds.filterMap batch? = [batch]
  tried : deeds.filterMap tried? ++ rest = batch

namespace Deed.WorksOff

variable {deeds more : List Deed} {batch rest : List Event} {e : Event}

/-- Deeds that neither fetch nor try to claim anything make no difference to that. -/
theorem append (h : WorksOff deeds batch rest)
    (hmore : ∀ d ∈ more, d.batch? = none ∧ d.tried? = none) :
    WorksOff (deeds ++ more) batch rest := by
  have hfetched : more.filterMap batch? = [] :=
    List.filterMap_eq_nil_iff.2 fun d hd => (hmore d hd).1
  have htried : more.filterMap tried? = [] :=
    List.filterMap_eq_nil_iff.2 fun d hd => (hmore d hd).2
  constructor
  · rw [List.filterMap_append, hfetched, List.append_nil, h.fetched]
  · rw [List.filterMap_append, htried, List.append_nil, h.tried]

theorem add (h : WorksOff deeds batch rest) {d : Deed} (hfetched : d.batch? = none)
    (htried : d.tried? = none) : WorksOff (deeds ++ [d]) batch rest :=
  h.append fun x hx => by rw [List.mem_singleton.1 hx]; exact ⟨hfetched, htried⟩

/-- Of the next event a claim is tried. -/
theorem next (h : WorksOff deeds batch (e :: rest)) {d : Deed} (hfetched : d.batch? = none)
    (htried : d.tried? = some e) : WorksOff (deeds ++ [d]) batch rest := by
  constructor
  · rw [List.filterMap_append, h.fetched]
    simp [hfetched]
  · rw [← h.tried, List.filterMap_append]
    simp [htried]

end Deed.WorksOff

/-- A deed of a dispatch adds nothing to the accounts, and neither fetches nor claims anything. -/
theorem Deed.none_of_isDispatch {d : Deed} (h : d.ask.isDispatch = true) :
    d.posting? = none ∧ d.batch? = none ∧ d.tried? = none := by
  obtain ⟨q, a, before, after⟩ := d
  cases q with
  | call place r => exact ⟨rfl, rfl, rfl⟩
  | await place => exact ⟨rfl, rfl, rfl⟩
  | _ => cases h

theorem Deed.postings_dispatch {deeds : List Deed} (h : ∀ d ∈ deeds, d.ask.isDispatch = true) :
    postings deeds = [] :=
  List.filterMap_eq_nil_iff.2 fun d hd => (none_of_isDispatch (h d hd)).1

/-! ### What a routine ensures -/

namespace Routine

variable {α : Type} {w : WorkerSettings} {post : List Deed → Option α → Prop} {deeds : List Deed}
  {p : Routine α}

/-- What a call with these deeds may ask for, and the deed that comes of it. -/
def books (w : WorkerSettings) : Protocol (fun q : Ask => Option q.Answer) (List Deed) where
  May deeds q := q.IsDue deeds
  Leads deeds q a deeds' := ∃ before after,
    Deed.IsLawful w ⟨q, a, before, after⟩ ∧ deeds' = deeds ++ [⟨q, a, before, after⟩]

/-- Whatever lawful answers the routine is given and wherever it breaks down, with the deeds that it
adds to those there are it comes to what it should, and asks for nothing that is not due. -/
abbrev Ensures (w : WorkerSettings) (post : List Deed → Option α → Prop) (deeds : List Deed)
    (p : Routine α) : Prop :=
  Dialogue.Follows (books w) (fun a deeds => post deeds a) p deeds

/-- What is asked for is one more deed, with an answer that may be given. -/
theorem ensures_asking {q : Ask} (hdue : q.IsDue deeds) :
    Ensures w (fun deeds' a => (books w).Leads deeds q a deeds') deeds (asking q) :=
  ⟨hdue, fun _ _ h => h⟩

/-- That the cycle is ended is one more deed. -/
theorem Ensures.leaving {post' : List Deed → Option α → Prop} (h : Ensures w post deeds p)
    (hleave : ∀ deeds a answer before after, post deeds a →
      post' (deeds ++ [⟨.leave, answer, before, after⟩]) a) :
    Ensures w post' deeds p.leaving := by
  induction p generalizing deeds with
  | done a =>
    refine ⟨trivial, ?_⟩
    rintro answer _ ⟨before, after, -, rfl⟩
    exact hleave _ _ answer before after h
  | ask q next ih => exact ⟨h.1, fun a deeds' hleads => ih a (h.2 a deeds' hleads)⟩

/-! ### A dispatch -/

/-- The deeds that are added are those of a dispatch. -/
def Dispatches (deeds deeds' : List Deed) : Prop :=
  ∃ more, deeds' = deeds ++ more ∧ ∀ d ∈ more, d.ask.isDispatch = true

theorem dispatches_asking {q : Ask} (h : q.isDispatch = true) :
    Dialogue.Keeps (books w) (Dispatches deeds) (asking q) := by
  rintro _ ⟨more, rfl, hmore⟩
  have hdue : q.IsDue (deeds ++ more) := by
    cases q with
    | settle e result => cases h
    | _ => trivial
  refine ⟨hdue, ?_⟩
  rintro a _ ⟨before, after, -, rfl⟩
  refine ⟨more ++ [⟨q, a, before, after⟩], List.append_assoc .., fun d hd => ?_⟩
  rcases List.mem_append.1 hd with hd | hd
  · exact hmore d hd
  · rw [List.mem_singleton.1 hd, h]

theorem ensures_dispatch (adapters : List String) (limit : Span) (r : SyncRequest) :
    Ensures w (fun deeds' _ => Dispatches deeds deeds') deeds
      (dispatchHost.run adapters limit r) := by
  have hkeeps : Dialogue.Keeps (books w) (Dispatches deeds) (dispatchHost.run adapters limit r) :=
    keeps_dispatch adapters limit (fun _ => dispatches_asking rfl) fun _ => dispatches_asking rfl
  exact hkeeps deeds ⟨[], (List.append_nil deeds).symm, fun _ h => absurd h List.not_mem_nil⟩

end Routine

/-! ### What postings add up to -/

/-- Adds a posting to a report. -/
def Posting.addTo (r : CycleReport) : Posting → CycleReport
  | won reclaimed =>
    { r with
      claimed := r.claimed + 1
      reclaimed := if reclaimed then r.reclaimed + 1 else r.reclaimed }
  | lost => r.conflict
  | settled d => r.settle d
  | skipped | failed | recorded _ => r

/-- The report that postings add up to. -/
def CycleReport.adding (r : CycleReport) (notes : List Posting) : CycleReport :=
  notes.foldl Posting.addTo r

namespace CycleReport

theorem adding_append (r : CycleReport) (notes more : List Posting) :
    r.adding (notes ++ more) = (r.adding notes).adding more := List.foldl_append

/-- The numbers of a report are the numbers of postings. -/
structure Counts (notes : List Posting) (r r' : CycleReport) : Prop where
  skipped : r'.skipped = r.skipped
  fetched : r'.fetched = r.fetched
  claimed : r'.claimed = r.claimed + notes.countP Posting.isWon
  conflicts : r'.conflicts = r.conflicts + notes.count .lost
  reclaimed : r'.reclaimed = r.reclaimed + notes.count (.won true)
  succeeded : r'.succeeded = r.succeeded + notes.count (.settled .succeeded)
  retried : r'.retried = r.retried + notes.count (.settled .retried)
  deadLettered : r'.deadLettered = r.deadLettered + notes.count (.settled .deadLettered)

theorem counts_addTo (r : CycleReport) (n : Posting) : Counts [n] r (n.addTo r) := by
  cases n with
  | won reclaimed => cases reclaimed <;> constructor <;> rfl
  | settled d => cases d <;> constructor <;> simp [Posting.addTo, settle, Posting.isWon]
  | _ => constructor <;> rfl

theorem Counts.trans {notes more : List Posting} {r₁ r₂ r₃ : CycleReport}
    (h : Counts notes r₁ r₂) (h' : Counts more r₂ r₃) : Counts (notes ++ more) r₁ r₃ := by
  constructor
  · rw [h'.skipped, h.skipped]
  · rw [h'.fetched, h.fetched]
  · rw [h'.claimed, h.claimed, List.countP_append, Nat.add_assoc]
  · rw [h'.conflicts, h.conflicts, List.count_append, Nat.add_assoc]
  · rw [h'.reclaimed, h.reclaimed, List.count_append, Nat.add_assoc]
  · rw [h'.succeeded, h.succeeded, List.count_append, Nat.add_assoc]
  · rw [h'.retried, h.retried, List.count_append, Nat.add_assoc]
  · rw [h'.deadLettered, h.deadLettered, List.count_append, Nat.add_assoc]

theorem counts_adding (r : CycleReport) (notes : List Posting) :
    Counts notes r (r.adding notes) := by
  induction notes generalizing r with
  | nil => constructor <;> rfl
  | cons n notes ih => exact (counts_addTo r n).trans (ih (n.addTo r))

end CycleReport

/-- An outcome is synced, to be tried again, dead, or not written. -/
theorem Posting.countP_isSettled (notes : List Posting) :
    notes.countP isSettled = notes.count (.settled .succeeded) + notes.count (.settled .retried) +
      notes.count (.settled .deadLettered) + notes.countP isUnwritten := by
  induction notes with
  | nil => rfl
  | cons n notes ih =>
    simp only [List.countP_cons, List.count_cons, ih]
    cases n with
    | settled d => cases d <;> simp [isSettled, isUnwritten] <;> omega
    | _ => rfl

/-- How far the books of a cycle have come that has still so many events of its batch to try. -/
structure Underway (w : WorkerSettings) (notes : List Posting) (left : Nat) (r : CycleReport) :
    Prop where
  /-- The report is what the postings add up to. -/
  report : r = ({ fetched := r.fetched } : CycleReport).adding notes
  /-- Every event that was claimed was settled. -/
  settled : notes.countP Posting.isWon = notes.countP Posting.isSettled
  /-- Of every event of the batch a claim was tried, or is still to be. -/
  fetched : r.fetched = notes.countP Posting.isTried + left
  size : r.fetched ≤ w.batchSize
  /-- Nothing is added to the totals before the cycle is completed. -/
  unposted : ∀ n ∈ notes, n.isTotal = false

namespace Underway

variable {w : WorkerSettings} {notes : List Posting} {left : Nat} {r : CycleReport}

theorem start {n : Nat} (h : n ≤ w.batchSize) : Underway w [] n { fetched := n } :=
  ⟨rfl, rfl, (Nat.zero_add n).symm, h, fun _ h => absurd h List.not_mem_nil⟩

/-- What is done for the next event of the batch is added. -/
theorem add (h : Underway w notes (left + 1) r) (more : List Posting)
    (hsettled : more.countP Posting.isWon = more.countP Posting.isSettled)
    (htried : more.countP Posting.isTried = 1) (hunposted : ∀ n ∈ more, n.isTotal = false) :
    Underway w (notes ++ more) left (r.adding more) := by
  have hfetched : (r.adding more).fetched = r.fetched := (r.counts_adding more).fetched
  constructor
  · rw [hfetched, CycleReport.adding_append, ← h.report]
  · rw [List.countP_append, List.countP_append, h.settled, hsettled]
  · rw [hfetched, h.fetched, List.countP_append, htried]
    omega
  · rw [hfetched]
    exact h.size
  · intro n hn
    rcases List.mem_append.1 hn with hn | hn
    · exact h.unposted n hn
    · exact hunposted n hn

theorem lost (h : Underway w notes (left + 1) r) : Underway w (notes ++ [.lost]) left r.conflict :=
  h.add [.lost] rfl rfl (by simp [Posting.isTotal])

theorem failed (h : Underway w notes (left + 1) r) : Underway w (notes ++ [.failed]) left r :=
  h.add [.failed] rfl rfl (by simp [Posting.isTotal])

theorem settle (h : Underway w notes (left + 1) r) (e : Event) (d : Disposition) :
    Underway w (notes ++ [.won (e.status == .processing), .settled d]) left
      ((r.claim e).settle d) :=
  h.add [.won (e.status == .processing), .settled d] rfl rfl (by simp [Posting.isTotal])

end Underway

/-- The worker was told to stop before one of the deeds. -/
def Deed.Stopped (deeds : List Deed) : Prop := ∃ d ∈ deeds, d.before.worker.cancelled = true

/-- The books when a batch was worked off: nothing of it is left, unless the worker was told to
stop. -/
def Reckoned (w : WorkerSettings) (deeds : List Deed) : Option CycleReport → Prop
  | some r => ∃ batch rest, Deed.WorksOff deeds batch rest ∧
      Underway w (postings deeds) rest.length r ∧ (rest = [] ∨ Deed.Stopped deeds)
  | none => ∀ n ∈ postings deeds, n.isTotal = false

/-- The books when a cycle has come to a report or to an error. -/
def Ran (w : WorkerSettings) (deeds : List Deed) :
    Option (Except DeliveryError CycleReport) → Prop
  | some (.ok r) => Reckoned w deeds (some r)
  | _ => ∀ n ∈ postings deeds, n.isTotal = false

/-- The books when a call is over. -/
def Closed (w : WorkerSettings) (deeds : List Deed) :
    Option (Except DeliveryError CycleReport) → Prop
  | some (.ok r) =>
    postings deeds = [.skipped] ∧ r = { skipped := true } ∨
      ∃ notes batch rest, postings deeds = notes ++ [.recorded r] ∧ Deed.WorksOff deeds batch rest ∧
        Underway w notes rest.length r ∧ (rest = [] ∨ Deed.Stopped deeds)
  | _ => ∀ n ∈ postings deeds, n.isTotal = false

namespace Routine

variable {w : WorkerSettings} {deeds : List Deed} (adapters : List String) (limit : Span)

/-- An event that was claimed is dispatched and settled. -/
theorem ensures_settle {e : Event} {batch rest : List Event} {notes : List Posting}
    {r : CycleReport} (hwon : ∃ d ∈ deeds, d.Wins e) (hbatch : Deed.WorksOff deeds batch rest)
    (h : Underway w notes (rest.length + 1) r)
    (hpostings : postings deeds = notes ++ [.won (e.status == .processing)])
    {f : Disposition → Routine CycleReport}
    (hf : ∀ deeds d, Deed.WorksOff deeds batch rest →
      Underway w (postings deeds) rest.length ((r.claim e).settle d) →
      Ensures w (Reckoned w) deeds (f d)) :
    Ensures w (Reckoned w) deeds (do
      let d ← (pollHost adapters limit).dispatch (.ofEvent e)
      let disposition ← (pollHost adapters limit).settle e d.attempt
      f disposition) := by
  have hunposted : ∀ n ∈ postings deeds, n.isTotal = false := by
    rw [hpostings]
    intro n hn
    rcases List.mem_append.1 hn with hn | hn
    · exact h.unposted n hn
    · rw [List.mem_singleton.1 hn]
      rfl
  refine (ensures_dispatch adapters limit (.ofEvent e)).bindOption ?_ ?_
  · rintro d deeds₁ ⟨more, rfl, hmore⟩
    obtain ⟨won, hmem, hwins⟩ := hwon
    have hsame : postings (deeds ++ more) = postings deeds := by
      rw [postings_append, Deed.postings_dispatch hmore, List.append_nil]
    have hbatch' : Deed.WorksOff (deeds ++ more) batch rest :=
      hbatch.append fun x hx => (Deed.none_of_isDispatch (hmore x hx)).2
    refine (ensures_asking (q := .settle e d.attempt)
      ⟨won, List.mem_append_left _ hmem, hwins⟩).bindOption ?_ ?_
    · rintro disposition deeds₂ ⟨before, after, -, rfl⟩
      refine hf _ disposition (hbatch'.add rfl rfl) ?_
      rw [postings_add_of_some rfl, hsame, hpostings, List.append_assoc]
      exact h.settle e disposition
    · rintro deeds₂ ⟨before, after, -, rfl⟩
      show ∀ n ∈ postings _, _
      rw [postings_add_of_none rfl, hsame]
      exact hunposted
  · rintro deeds₁ ⟨more, rfl, hmore⟩
    show ∀ n ∈ postings _, _
    rw [postings_append, Deed.postings_dispatch hmore, List.append_nil]
    exact hunposted

/-- The loop over the batch keeps the books. The induction is on what is left of the batch; what
carries it is how far the books have come. -/
theorem ensures_work {batch rest : List Event} {r : CycleReport}
    (hbatch : Deed.WorksOff deeds batch rest) (h : Underway w (postings deeds) rest.length r) :
    Ensures w (Reckoned w) deeds ((pollHost adapters limit).work rest r) := by
  induction rest generalizing deeds r with
  | nil => exact ⟨batch, [], hbatch, h, .inl rfl⟩
  | cons e rest ih =>
    refine (ensures_asking (q := .claim e) trivial).bindOption ?_ ?_
    · rintro a deeds₁ ⟨before, after, hlawful, rfl⟩
      cases a with
      | cancelled =>
        have hstopped : before.worker.cancelled = true :=
          WorkerSettings.cancelled_of_claim hlawful
        refine ⟨batch, e :: rest, hbatch.add rfl rfl, ?_,
          .inr ⟨_, List.mem_append_right _ List.mem_cons_self, hstopped⟩⟩
        rw [postings_add_of_none rfl]
        exact h
      | conflict =>
        exact ih (hbatch.next rfl rfl) (by rw [postings_add_of_some rfl]; exact h.lost)
      | failed error =>
        exact ih (hbatch.next rfl rfl) (by rw [postings_add_of_some rfl]; exact h.failed)
      | claimed =>
        exact ensures_settle adapters limit
          ⟨_, List.mem_append_right _ List.mem_cons_self, before, after, rfl⟩
          (hbatch.next rfl rfl) h (postings_add_of_some rfl _) fun deeds₂ d hbatch₂ h₂ =>
            ih hbatch₂ h₂
    · rintro deeds₁ ⟨before, after, -, rfl⟩
      show ∀ n ∈ postings _, _
      rw [postings_add_of_none rfl]
      exact h.unposted

/-- A cycle comes to a report of the batch that it fetched, or to an error. -/
theorem ensures_run (hdeeds : postings deeds = []) (hfetched : deeds.filterMap Deed.batch? = [])
    (htried : deeds.filterMap Deed.tried? = []) :
    Ensures w (Ran w) deeds (pollHost adapters limit).run := by
  have hunposted : ∀ n ∈ postings deeds, n.isTotal = false := by simp [hdeeds]
  refine (ensures_asking (q := .fetch) trivial).bindOption ?_ ?_
  · rintro a deeds₁ ⟨before, after, hlawful, rfl⟩
    cases a with
    | error why =>
      show ∀ n ∈ postings _, _
      rw [postings_add_of_none rfl]
      exact hunposted
    | ok batch =>
      have hsize : batch.length ≤ w.batchSize := by
        rw [show batch = _ from hlawful]
        exact List.length_take_le ..
      have hbatch : Deed.WorksOff (deeds ++ [⟨.fetch, some (.ok batch), before, after⟩])
          batch batch := by
        constructor
        · rw [List.filterMap_append, hfetched]
          rfl
        · rw [List.filterMap_append, htried]
          rfl
      have hstart : Underway w (postings (deeds ++ [⟨.fetch, some (.ok batch), before, after⟩]))
          batch.length { fetched := batch.length } := by
        rw [postings_add_of_none rfl, hdeeds]
        exact .start hsize
      exact (ensures_work adapters limit hbatch hstart).bindOption (fun r deeds h => h)
        fun deeds h => h
  · rintro deeds₁ ⟨before, after, -, rfl⟩
    show ∀ n ∈ postings _, _
    rw [postings_add_of_none rfl]
    exact hunposted

/-- A cycle is completed with its report recorded, or ends with an error or a breakdown. -/
theorem ensures_complete (hdeeds : postings deeds = [])
    (hfetched : deeds.filterMap Deed.batch? = []) (htried : deeds.filterMap Deed.tried? = []) :
    Ensures w (Closed w) deeds (pollHost adapters limit).complete := by
  refine (ensures_run adapters limit hdeeds hfetched htried).bindOption ?_ fun deeds h => h
  rintro (why | r) deeds₁ h
  · exact h
  · obtain ⟨batch, rest, hbatch, hunderway, hleft⟩ := h
    refine (ensures_asking (q := .record r) trivial).bindOption ?_ ?_
    · rintro a deeds₂ ⟨before, after, -, rfl⟩
      refine .inr ⟨postings deeds₁, batch, rest, postings_add_of_some rfl _, hbatch.add rfl rfl,
        hunderway, ?_⟩
      exact hleft.imp_right fun ⟨d, hd, hstopped⟩ => ⟨d, List.mem_append_left _ hd, hstopped⟩
    · rintro deeds₂ ⟨before, after, hlawful, -⟩
      cases hlawful

/-- That the cycle is ended makes no difference to the books. -/
theorem closed_leave {a : Option (Except DeliveryError CycleReport)} (h : Closed w deeds a)
    (answer : Option Unit) (before after : Scene) :
    Closed w (deeds ++ [⟨.leave, answer, before, after⟩]) a := by
  have hsame : postings (deeds ++ [⟨.leave, answer, before, after⟩]) = postings deeds :=
    postings_add_of_none rfl _
  unfold Closed at h ⊢
  rw [hsame]
  split at h
  · refine h.imp_right fun ⟨notes, batch, rest, hpostings, hbatch, hunderway, hleft⟩ =>
      ⟨notes, batch, rest, hpostings, hbatch.add rfl rfl, hunderway,
        hleft.imp_right fun ⟨d, hd, hstopped⟩ => ?_⟩
    exact ⟨d, List.mem_append_left _ hd, hstopped⟩
  · exact h

/-- Whatever goes on, a call that is over has closed its books. -/
theorem ensures_poll : Ensures w (Closed w) [] (poll adapters limit) := by
  refine (ensures_asking (q := .enter) trivial).bindOption ?_ ?_
  · rintro (_ | _) deeds₁ ⟨before, after, -, rfl⟩
    · exact .inl ⟨rfl, rfl⟩
    · exact (ensures_complete adapters limit rfl rfl rfl).leaving
        fun deeds a answer before after h => closed_leave h answer before after
  · rintro deeds₁ ⟨before, after, hlawful, -⟩
    cases hlawful

end Routine

/-! ### What was written -/

namespace Deed

/-- The deed wrote an outcome: the log took it, and has the event in a status after it. -/
def writes (status : Status) : Deed → Bool
  | ⟨.settle e _, some _, before, after⟩ =>
    before.store.outcomeFailures == 0 && (after.store.find? e.id).any fun f => f.status == status
  | _ => false

/-- The deed was to write an outcome, but the log failed. -/
def failsToWrite : Deed → Bool
  | ⟨.settle _ _, some _, before, _⟩ => before.store.outcomeFailures != 0
  | _ => false

/-- An event that is settled is in the log. -/
def IsPresent : Deed → Prop
  | ⟨.settle e _, _, before, _⟩ => (before.store.find? e.id).isSome = true
  | _ => True

variable {w : WorkerSettings}

/-- What came of an event is what was written of it. -/
theorem posting_settle {e : Event} {result : AttemptResult} {d : Disposition}
    {before after : Scene} (h : IsLawful w ⟨.settle e result, some d, before, after⟩)
    (hpresent : IsPresent ⟨.settle e result, some d, before, after⟩) :
    (∀ status, writes status ⟨.settle e result, some d, before, after⟩ =
        (d.status? == some status)) ∧
      failsToWrite ⟨.settle e result, some d, before, after⟩ = d.status?.isNone := by
  obtain ⟨chance, h⟩ := h
  obtain ⟨f, hf⟩ := Option.isSome_iff_exists.1 hpresent
  obtain ⟨hpos, why, rfl⟩ | ⟨hzero, g, houtcome, hafter⟩ := RetryPolicy.settle_ok_cases h
  · have hfail : (before.store.outcomeFailures == 0) = false := by
      rw [beq_eq_false_iff_ne]
      omega
    exact ⟨fun status => by simp [writes, hfail, Disposition.status?],
      by simp [failsToWrite, hfail, Disposition.status?, bne]⟩
  · have hfound : after.store.find? e.id = some (g f) := by
      rw [hafter, Store.find?_modify houtcome.id_eq, if_pos rfl, hf, Option.map_some]
    rw [houtcome.status_eq f]
    exact ⟨fun status => by simp [writes, hzero, hfound], by simp [failsToWrite, hzero]⟩

/-- A number of postings is a number of deeds. -/
theorem countP_postings {deeds : List Deed} {f : Posting → Bool} {g : Deed → Bool}
    (h : ∀ d ∈ deeds, (d.posting?.map f).getD false = g d) :
    (postings deeds).countP f = deeds.countP g := by
  rw [postings, List.countP_filterMap]
  exact List.countP_congr fun d hd => by rw [h d hd]

/-- A deed that settles no event writes no outcome, nor fails to. -/
theorem settles_cases (x : Deed) :
    (∃ e result, ∃ d : Disposition, ∃ before after,
        x = ⟨.settle e result, some d, before, after⟩) ∨
      (∀ n, x.posting? = some n → n.isSettled = false) ∧ (∀ status, x.writes status = false) ∧
        x.failsToWrite = false := by
  obtain ⟨q, a, before, after⟩ := x
  cases q with
  | settle e result =>
    cases a with
    | none => exact .inr ⟨nofun, fun _ => rfl, rfl⟩
    | some d => exact .inl ⟨e, result, d, before, after, rfl⟩
  | _ =>
    refine .inr ⟨fun n hn => ?_, fun _ => rfl, rfl⟩
    unfold posting? at hn
    split at hn
    case h_5 heq => cases heq
    all_goals cases hn
    all_goals rfl

variable {deeds : List Deed}

/-- The outcomes that a call has come to are those that it has written. -/
theorem count_settled (hlawful : ∀ d ∈ deeds, d.IsLawful w) (hpresent : ∀ d ∈ deeds, d.IsPresent)
    {d : Disposition} {status : Status} (hstatus : ∀ d', d'.status? = some status ↔ d' = d) :
    (postings deeds).count (.settled d) = deeds.countP (writes status) := by
  refine countP_postings fun x hx => ?_
  obtain ⟨e, result, d', before, after, rfl⟩ | ⟨hposting, hwrites, -⟩ := x.settles_cases
  · rw [(posting_settle (hlawful _ hx) (hpresent _ hx)).1 status]
    show (Posting.settled d' == Posting.settled d) = (d'.status? == some status)
    rw [Bool.eq_iff_iff, beq_iff_eq, beq_iff_eq, Posting.settled.injEq, hstatus]
  · rw [hwrites]
    cases hnote : x.posting? with
    | none => rfl
    | some n =>
      have hn := hposting n hnote
      rw [Option.map_some, Option.getD_some, beq_eq_false_iff_ne]
      rintro rfl
      cases hn

/-- The outcomes that it could not write are those in which the log failed. -/
theorem countP_isUnwritten (hlawful : ∀ d ∈ deeds, d.IsLawful w)
    (hpresent : ∀ d ∈ deeds, d.IsPresent) :
    (postings deeds).countP Posting.isUnwritten = deeds.countP failsToWrite := by
  refine countP_postings fun x hx => ?_
  obtain ⟨e, result, d, before, after, rfl⟩ | ⟨hposting, -, hfails⟩ := x.settles_cases
  · rw [(posting_settle (hlawful _ hx) (hpresent _ hx)).2]
    cases d <;> rfl
  · rw [hfails]
    cases hnote : x.posting? with
    | none => rfl
    | some n =>
      have hn := hposting n hnote
      cases n with
      | settled d => cases hn
      | _ => rfl

end Deed

/-! ### A report that is right -/

/-- The report of a completed cycle is what its deeds come to. -/
structure CycleReport.Balanced (w : WorkerSettings) (deeds : List Deed) (r : CycleReport) :
    Prop where
  /-- Every event that was claimed is synced, to be tried again or dead, unless that could not be
  written. -/
  claimed : r.claimed = r.succeeded + r.retried + r.deadLettered + deeds.countP Deed.failsToWrite
  /-- What counts as fetched is the one batch that was fetched. Claims are tried of its events, one
  after the other. -/
  batch : ∃ batch, deeds.filterMap Deed.batch? = [batch] ∧ r.fetched = batch.length ∧
    deeds.filterMap Deed.tried? <+: batch
  tried : r.claimed + r.conflicts ≤ r.fetched
  size : r.fetched ≤ w.batchSize
  /-- If the event log did not fail, and the worker was not told to stop, all are tried. -/
  all_tried : Posting.failed ∉ postings deeds → (∀ d ∈ deeds, d.before.worker.cancelled = false) →
    r.claimed + r.conflicts = r.fetched
  reclaimed : r.reclaimed ≤ r.claimed
  /-- The outcomes are those that were written. -/
  succeeded : r.succeeded = deeds.countP (Deed.writes .success)
  retried : r.retried = deeds.countP (Deed.writes .failed)
  deadLettered : r.deadLettered = deeds.countP (Deed.writes .dead)
  /-- The claims are those that were won and lost. -/
  won : r.claimed = (postings deeds).countP Posting.isWon
  lost : r.conflicts = (postings deeds).count .lost
  taken_over : r.reclaimed = (postings deeds).count (.won true)
  /-- The call counts as a completed cycle with this report, and not as skipped. -/
  recorded : (postings deeds).filterMap Posting.report? = [r]
  entered : .skipped ∉ postings deeds

/-- Where no totals are changed there is no report. -/
theorem Posting.filterMap_report? {notes : List Posting} (h : ∀ n ∈ notes, n.isTotal = false) :
    notes.filterMap report? = [] := by
  refine List.filterMap_eq_nil_iff.2 fun n hn => ?_
  have hunposted := h n hn
  cases n <;> first | rfl | cases hunposted

theorem Posting.countP_isTried (notes : List Posting) :
    notes.countP isTried = notes.countP isWon + notes.count .lost + notes.count .failed := by
  induction notes with
  | nil => rfl
  | cons n notes ih =>
    simp only [List.countP_cons, List.count_cons, ih]
    cases n <;> simp [isTried, isWon] <;> omega

theorem Deed.isTried_posting (d : Deed) :
    (d.posting?.map Posting.isTried).getD false = d.tried?.isSome := by
  obtain ⟨q, a, before, after⟩ := d
  cases q with
  | enter => rcases a with _ | _ | _ <;> rfl
  | claim e => rcases a with _ | _ | _ | _ | _ <;> rfl
  | settle e result => cases a <;> rfl
  | record r => cases a <;> rfl
  | _ => rfl

/-- The claims that were tried are those that were won or lost or failed. -/
theorem Deed.length_tried (deeds : List Deed) :
    (deeds.filterMap tried?).length = (postings deeds).countP Posting.isTried := by
  rw [countP_postings fun d _ => d.isTried_posting, List.length_filterMap_eq_countP]

/-- A call that is over and was not skipped has a report that is right. -/
theorem Closed.balanced {w : WorkerSettings} {deeds : List Deed} {r : CycleReport}
    (h : Closed w deeds (some (.ok r))) (hran : r.skipped = false)
    (hlawful : ∀ d ∈ deeds, d.IsLawful w) (hpresent : ∀ d ∈ deeds, d.IsPresent) :
    r.Balanced w deeds := by
  obtain ⟨-, rfl⟩ | ⟨notes, batch, rest, hpostings, hbatch, hunderway, hleft⟩ := h
  · cases hran
  have hcounts := CycleReport.counts_adding { fetched := r.fetched } notes
  rw [← hunderway.report] at hcounts
  obtain ⟨-, -, hwon, hlost, htaken, hsucceeded, hretried, hdead⟩ := hcounts
  rw [Nat.zero_add] at hwon hlost htaken hsucceeded hretried hdead
  -- The posting of the report itself changes none of the numbers.
  have hcountP : ∀ f : Posting → Bool, f (.recorded r) = false →
      (postings deeds).countP f = notes.countP f := by
    intro f hf
    rw [hpostings, List.countP_append, List.countP_singleton, hf]
    rfl
  have hcount : ∀ n : Posting, n.isTotal = false → (postings deeds).count n = notes.count n :=
    fun n hn => hcountP (· == n) (by cases n <;> first | rfl | cases hn)
  have hunwritten : notes.countP Posting.isUnwritten = deeds.countP Deed.failsToWrite := by
    rw [← Deed.countP_isUnwritten hlawful hpresent, hcountP _ rfl]
  have hwritten : ∀ {d : Disposition} {status : Status},
      (∀ d' : Disposition, d'.status? = some status ↔ d' = d) →
      notes.count (.settled d) = deeds.countP (Deed.writes status) := fun hstatus => by
    rw [← Deed.count_settled hlawful hpresent hstatus, hcount _ rfl]
  have hsettled := hunderway.settled
  rw [Posting.countP_isSettled] at hsettled
  have htried := hunderway.fetched
  have hfetched : r.fetched = batch.length := by
    rw [← hbatch.tried, List.length_append, Deed.length_tried, hcountP _ rfl, htried]
  rw [Posting.countP_isTried] at htried
  constructor
  · omega
  · exact ⟨batch, hbatch.fetched, hfetched, rest, hbatch.tried⟩
  · omega
  · exact hunderway.size
  · intro hfailed hgoing
    have hnone : notes.count .failed = 0 := by
      rw [← hcount _ rfl, List.count_eq_zero_of_not_mem hfailed]
    obtain rfl | ⟨d, hd, hstopped⟩ := hleft
    · rw [List.length_nil] at htried
      omega
    · rw [hgoing d hd] at hstopped
      cases hstopped
  · rw [hwon, htaken]
    exact List.countP_mono_left fun n _ hn => by rw [beq_iff_eq.1 hn]; rfl
  · rw [hsucceeded]
    exact hwritten fun d' => by cases d' <;> simp [Disposition.status?]
  · rw [hretried]
    exact hwritten fun d' => by cases d' <;> simp [Disposition.status?]
  · rw [hdead]
    exact hwritten fun d' => by cases d' <;> simp [Disposition.status?]
  · rw [hwon, hcountP _ rfl]
  · rw [hlost, hcount _ rfl]
  · rw [htaken, hcount _ rfl]
  · rw [hpostings, List.filterMap_append, Posting.filterMap_report? hunderway.unposted]
    rfl
  · rw [hpostings]
    intro hskipped
    rcases List.mem_append.1 hskipped with hn | hn
    · cases hunderway.unposted _ hn
    · cases List.mem_singleton.1 hn

end Outbox
