import Outbox.Proofs.Worker.Books
import Mathlib.Algebra.GroupWithZero.Nat

/-!
# The ledger of a worker

A `Ledger` is a `Workplace` together with all the deeds of the calls that were made of the worker.
In each `Turn` one call takes a step, or something else happens: others change the event log and
the clock moves on, the worker is told to stop, a call is made. What a call asks for may be
answered, or break down, and where it claims an event the log may fail. The one thing that never
happens is that an event is taken out of the log: nothing in the program does that.

`Kept` is what every turn keeps. Each call is in order (`InOrder`): it is about to ensure that its
books are closed when it is over, and the answers it got were lawful. The totals of the worker are
what the postings of all calls add up to. `balanced_run` draws from it what the reports and the
totals say.
-/

namespace Outbox

/-! ### Turns -/

/-- A change that others make to the event log. -/
structure Change where
  /-- What becomes of the log. -/
  apply : Store → Store
  /-- No event is taken out of it. -/
  keeps : ∀ s id, (s.find? id).isSome = true → ((apply s).find? id).isSome = true

/-- How that comes about for which a call asks. -/
inductive Reply where
  /-- It is answered. -/
  | answered (given : CallEnd SyncOutcome) (chance : Chance)
  /-- It breaks down. -/
  | brokenDown
  /-- The event log fails when an event is to be claimed. -/
  | claimFailed (error : StoreError)

namespace Workplace

variable {κ : Type}

/-- What the worker works on. -/
def scene (s : Workplace κ) : Scene := ⟨s.store, s.now, s.worker⟩

/-- What comes of what a call asks for, if that can be. -/
def reply (s : Workplace κ) : Reply → (q : Ask) → Option (Option q.Answer × Workplace κ)
  | .answered given chance, q => some (s.answer given chance q)
  | .brokenDown, q => if q.isOwn then none else some (none, s)
  | .claimFailed error, .claim _ =>
    -- A worker that was told to stop does not ask the log.
    if s.worker.cancelled then none else some (some (.failed error), s)
  | .claimFailed _, _ => none

end Workplace

/-- Something that happens, in one atomic step. -/
inductive Turn (κ : Type) where
  /-- Others change the event log, and the clock moves. -/
  | others (change : Change) (now : Instant)
  /-- The worker is told to stop. -/
  | cancel
  /-- It is noted whether the worker's loop is running. -/
  | setRunning (running : Bool)
  /-- A call is made. -/
  | make (k : κ)
  /-- A call takes its next step. -/
  | act (k : κ) (reply : Reply)

/-- A worker with the calls of it, and what these have done, from the first deed to the last. -/
structure Ledger (κ : Type) where
  /-- The worker and the calls of it. -/
  place : Workplace κ
  /-- The deeds of the calls. -/
  deeds : List (κ × Deed) := []

namespace Ledger

variable {κ : Type}

/-- A worker of which no call was made yet. -/
def start (now : Instant) (store : Store) (settings : WorkerSettings) (adapters : List String)
    (limit : Span) : Ledger κ where
  place := .start now store settings adapters limit

/-- What all the deeds add to the accounts. -/
def postings (s : Ledger κ) : List Posting := Deed.postings (s.deeds.map Prod.snd)

variable [DecidableEq κ]

/-- The deeds of one call. -/
def deedsOf (s : Ledger κ) (k : κ) : List Deed :=
  s.deeds.filterMap fun (j, d) => if j = k then some d else none

/-- A call takes its next step. -/
def act (s : Ledger κ) (k : κ) (reply : Reply) : Ledger κ :=
  match s.place.call k with
  | some (.ask q next) =>
    match s.place.reply reply q with
    | some (a, place) =>
      { place := place.goOn k (next a)
        deeds := s.deeds ++ [(k, ⟨q, a, s.place.scene, place.scene⟩)] }
    | none => s
  | _ => s

/-- What comes of a turn. -/
def step (s : Ledger κ) : Turn κ → Ledger κ
  | .others change now =>
    { s with place := s.place.step (.meanwhile (change.apply s.place.store) now) }
  | .cancel => { s with place := s.place.step .cancel }
  | .setRunning running => { s with place := s.place.step (.setRunning running) }
  | .make k => { s with place := s.place.step (.make k) }
  | .act k reply => s.act k reply

/-- What comes of a run. -/
def run (s : Ledger κ) (turns : List (Turn κ)) : Ledger κ := turns.foldl step s

/-! ### What a turn does -/

/-- What one more deed of a call changes of the calls: that call goes on, and the deed is added to
its own; the others are left alone. -/
theorem call_cases (s : Ledger κ) (place : Workplace κ) (k : κ)
    (p : Routine (Except DeliveryError CycleReport)) (d : Deed) (j : κ) :
    let t : Ledger κ := { place := place.goOn k p, deeds := s.deeds ++ [(k, d)] }
    (j = k ∧ t.place.call j = some p ∧ t.deedsOf j = s.deedsOf j ++ [d]) ∨
      t.place.call j = place.call j ∧ t.deedsOf j = s.deedsOf j := by
  by_cases hj : j = k
  · subst hj
    exact .inl ⟨rfl, Workplace.call_goOn_self .., by simp [deedsOf, List.filterMap_append]⟩
  · refine .inr ⟨Workplace.call_goOn_of_ne hj .., ?_⟩
    simp [deedsOf, List.filterMap_append, Ne.symm hj]

omit [DecidableEq κ] in
theorem postings_add (s : Ledger κ) (place : Workplace κ) (k : κ) (d : Deed) :
    ({ place, deeds := s.deeds ++ [(k, d)] } : Ledger κ).postings =
      s.postings ++ d.posting?.toList := by
  rw [postings, List.map_append, Deed.postings_append]
  cases h : d.posting? <;> simp [postings, Deed.postings, h]

/-- What a call does is one more deed of it. -/
theorem act_cases (s : Ledger κ) (k : κ) (reply : Reply) :
    s.act k reply = s ∨ ∃ q next a place, s.place.call k = some (.ask q next) ∧
      s.place.reply reply q = some (a, place) ∧ s.act k reply =
        { place := place.goOn k (next a)
          deeds := s.deeds ++ [(k, ⟨q, a, s.place.scene, place.scene⟩)] } := by
  unfold act
  split
  next q next hcall =>
    split
    next a place hreply => exact .inr ⟨q, next, a, place, hcall, hreply, rfl⟩
    next => exact .inl rfl
  next => exact .inl rfl

end Ledger

/-! ### What a reply does -/

/-- What a posting adds to the totals of a worker. -/
def WorkerStats.post (st : WorkerStats) : Posting → WorkerStats
  | .skipped => { st with skippedCycles := st.skippedCycles + 1 }
  | .recorded r => st.add r
  | _ => st

namespace Workplace

variable {κ : Type}

/-- What a reply to a call comes to. -/
structure Replied (s t : Workplace κ) (d : Deed) : Prop where
  before : d.before = s.scene
  after : d.after = t.scene
  /-- It is lawful. -/
  lawful : d.IsLawful s.worker.settings
  /-- The calls and the settings are the same. -/
  call : t.call = s.call
  adapters : t.adapters = s.adapters
  limit : t.limit = s.limit
  settings : t.worker.settings = s.worker.settings
  /-- No event is taken out of the log. -/
  keeps : ∀ id, (s.store.find? id).isSome = true → (t.store.find? id).isSome = true
  /-- The totals are changed by the posting of the deed. -/
  stats : t.worker.stats = d.posting?.elim s.worker.stats s.worker.stats.post

theorem replied_answer (s : Workplace κ) (given : CallEnd SyncOutcome) (chance : Chance)
    (q : Ask) : Replied s (s.answer given chance q).2
      ⟨q, (s.answer given chance q).1, s.scene, (s.answer given chance q).2.scene⟩ := by
  cases q with
  | enter =>
    cases hbusy : s.worker.busy with
    | true =>
      simp only [answer, Worker.enter_of_busy hbusy]
      exact ⟨rfl, rfl, rfl, rfl, rfl, rfl, rfl, fun _ h => h, rfl⟩
    | false =>
      simp only [answer, Worker.enter_of_idle hbusy]
      exact ⟨rfl, rfl, rfl, rfl, rfl, rfl, rfl, fun _ h => h, rfl⟩
  | leave => exact ⟨rfl, rfl, rfl, rfl, rfl, rfl, rfl, fun _ h => h, rfl⟩
  | record r => exact ⟨rfl, rfl, rfl, rfl, rfl, rfl, rfl, fun _ h => h, rfl⟩
  | fetch =>
    cases hfetch : s.store.fetchFailure with
    | some why =>
      simp only [answer, Store.fetch, hfetch]
      exact ⟨rfl, rfl, trivial, rfl, rfl, rfl, rfl, fun _ h => h, rfl⟩
    | none =>
      simp only [answer, Store.fetch, hfetch]
      exact ⟨rfl, rfl, rfl, rfl, rfl, rfl, rfl, fun _ h => h, rfl⟩
  | claim e =>
    obtain ⟨f, -, -, -, hclaim⟩ | ⟨a, ha, -, hclaim⟩ :=
      s.worker.settings.claim_cases s.now s.worker.cancelled e s.store
    · simp only [answer, hclaim]
      exact ⟨rfl, rfl, hclaim, rfl, rfl, rfl, rfl,
        fun _ h => Store.isSome_find?_modify (Store.id_claimed _) h, rfl⟩
    · simp only [answer, hclaim]
      cases a with
      | cancelled => exact ⟨rfl, rfl, hclaim, rfl, rfl, rfl, rfl, fun _ h => h, rfl⟩
      | conflict => exact ⟨rfl, rfl, hclaim, rfl, rfl, rfl, rfl, fun _ h => h, rfl⟩
      | failed error => exact ⟨rfl, rfl, trivial, rfl, rfl, rfl, rfl, fun _ h => h, rfl⟩
      | claimed => exact absurd rfl ha
  | call place r => exact ⟨rfl, rfl, trivial, rfl, rfl, rfl, rfl, fun _ h => h, rfl⟩
  | await place => exact ⟨rfl, rfl, trivial, rfl, rfl, rfl, rfl, fun _ h => h, rfl⟩
  | settle e result =>
    obtain ⟨-, -, hsettle⟩ | ⟨-, why, hsettle⟩ | ⟨d, g, houtcome, hsettle⟩ :=
      s.worker.settings.retry.settle_cases s.now e result s.store chance
    · simp only [answer, hsettle]
      exact ⟨rfl, rfl, trivial, rfl, rfl, rfl, rfl, fun _ h => h, rfl⟩
    · simp only [answer, hsettle]
      exact ⟨rfl, rfl, ⟨chance, hsettle⟩, rfl, rfl, rfl, rfl, fun _ h => h, rfl⟩
    · simp only [answer, hsettle]
      exact ⟨rfl, rfl, ⟨chance, hsettle⟩, rfl, rfl, rfl, rfl,
        fun _ h => Store.isSome_find?_modify houtcome.id_eq h, rfl⟩

theorem replied_reply {s t : Workplace κ} {reply : Reply} {q : Ask} {a : Option q.Answer}
    (h : s.reply reply q = some (a, t)) : Replied s t ⟨q, a, s.scene, t.scene⟩ := by
  cases reply with
  | answered given chance =>
    have hanswer := s.replied_answer given chance q
    rw [show s.answer given chance q = (a, t) from Option.some_inj.1 h] at hanswer
    exact hanswer
  | brokenDown =>
    cases q with
    | enter => cases h
    | leave => cases h
    | record r => cases h
    | _ =>
      cases h
      exact ⟨rfl, rfl, trivial, rfl, rfl, rfl, rfl, fun _ h => h, rfl⟩
  | claimFailed error =>
    cases q with
    | claim e =>
      cases hstopped : s.worker.cancelled with
      | true => simp [reply, hstopped] at h
      | false =>
        simp only [reply, hstopped, Bool.false_eq_true, if_false] at h
        cases h
        exact ⟨rfl, rfl, trivial, rfl, rfl, rfl, rfl, fun _ h => h, rfl⟩
    | _ => cases h

end Workplace

/-! ### Totals -/

/-- The reports of the cycles that were completed. -/
def Posting.reports (notes : List Posting) : List CycleReport := notes.filterMap report?

/-- The totals of a worker are the sums over the cycles that were completed; the calls that were
skipped are counted. -/
structure WorkerStats.Totals (st : WorkerStats) (notes : List Posting) : Prop where
  cycles : st.cycles = (Posting.reports notes).length
  skippedCycles : st.skippedCycles = notes.count .skipped
  eventsClaimed : st.eventsClaimed = ((Posting.reports notes).map CycleReport.claimed).sum
  succeeded : st.succeeded = ((Posting.reports notes).map CycleReport.succeeded).sum
  retried : st.retried = ((Posting.reports notes).map CycleReport.retried).sum
  deadLettered : st.deadLettered = ((Posting.reports notes).map CycleReport.deadLettered).sum
  claimConflicts : st.claimConflicts = ((Posting.reports notes).map CycleReport.conflicts).sum
  reclaimed : st.reclaimed = ((Posting.reports notes).map CycleReport.reclaimed).sum

theorem WorkerStats.Totals.post {st : WorkerStats} {notes : List Posting} (h : st.Totals notes)
    (n : Posting) : (st.post n).Totals (notes ++ [n]) := by
  have hreports : Posting.reports (notes ++ [n]) = Posting.reports notes ++ n.report?.toList := by
    rw [Posting.reports, List.filterMap_append, List.filterMap_cons]
    cases n.report? <;> rfl
  obtain ⟨hcycles, hskipped, hclaimed, hsucceeded, hretried, hdead, hconflicts, hreclaimed⟩ := h
  cases n with
  | recorded r =>
    constructor <;>
      simp [Posting.report?, WorkerStats.post, WorkerStats.add, List.count_append, *]
  | _ =>
    constructor <;> simp [Posting.report?, WorkerStats.post, List.count_append, *]

/-! ### What every turn keeps -/

namespace Ledger

variable {κ : Type} [DecidableEq κ] {w : WorkerSettings} {s : Ledger κ}

/-- What is kept of one call, which has still to do this and has done these deeds. -/
structure InOrder (w : WorkerSettings) (store : Store)
    (call : Option (Routine (Except DeliveryError CycleReport))) (deeds : List Deed) : Prop where
  /-- A call that is not made has done nothing. -/
  idle : call = none → deeds = []
  /-- A call that is made will have closed its books when it is over. -/
  closes : ∀ p, call = some p → p.Ensures w (Closed w) deeds
  /-- The answers were lawful, and events were in the log when they were settled. -/
  lawful : ∀ d ∈ deeds, d.IsLawful w ∧ d.IsPresent
  /-- A call has settled only what it has claimed. -/
  due : ∀ d ∈ deeds, d.ask.IsDue deeds
  /-- An event that was claimed is in the log. -/
  present : ∀ e, (∃ d ∈ deeds, d.Wins e) → (store.find? e.id).isSome = true

section

variable {store : Store} {call : Option (Routine (Except DeliveryError CycleReport))}
  {deeds : List Deed}

/-- What others do to the log leaves a call in order. -/
theorem InOrder.keeps (h : InOrder w store call deeds) {store' : Store}
    (hkeeps : ∀ id, (store.find? id).isSome = true → (store'.find? id).isSome = true) :
    InOrder w store' call deeds :=
  { h with present := fun e hwon => hkeeps _ (h.present e hwon) }

/-- A call that is made is in order. -/
theorem InOrder.make (h : InOrder w store none deeds) (adapters : List String) (limit : Span) :
    InOrder w store (some (.poll adapters limit)) deeds := by
  refine ⟨nofun, ?_, h.lawful, h.due, h.present⟩
  rintro _ ⟨⟩
  rw [h.idle rfl]
  exact Routine.ensures_poll ..

/-- One more deed leaves a call in order. -/
theorem InOrder.act {q : Ask} {a : Option q.Answer} {before after : Scene}
    {next : Option q.Answer → Routine (Except DeliveryError CycleReport)}
    (h : InOrder w before.store (some (.ask q next)) deeds)
    (hlawful : Deed.IsLawful w ⟨q, a, before, after⟩)
    (hkeeps : ∀ id, (before.store.find? id).isSome = true →
      (after.store.find? id).isSome = true) :
    InOrder w after.store (some (next a)) (deeds ++ [⟨q, a, before, after⟩]) := by
  obtain ⟨hdue, hcloses⟩ := h.closes _ rfl
  have hpresent : Deed.IsPresent ⟨q, a, before, after⟩ := by
    cases q with
    | settle e result => exact h.present e hdue
    | _ => trivial
  refine ⟨nofun, ?_, fun d hd => ?_, fun d hd => Ask.IsDue.append ?_ _, ?_⟩
  · rintro _ ⟨⟩
    exact hcloses a _ ⟨before, after, hlawful, rfl⟩
  · rcases List.mem_append.1 hd with hd | hd
    · exact h.lawful d hd
    · rw [List.mem_singleton.1 hd]
      exact ⟨hlawful, hpresent⟩
  · rcases List.mem_append.1 hd with hd | hd
    · exact h.due d hd
    · rw [List.mem_singleton.1 hd]
      exact hdue
  · rintro e ⟨d, hd, hwins⟩
    refine hkeeps e.id ?_
    rcases List.mem_append.1 hd with hd | hd
    · exact h.present e ⟨d, hd, hwins⟩
    · rw [List.mem_singleton.1 hd] at hwins
      exact hwins.found hlawful

end

/-- What every turn keeps. -/
structure Kept (w : WorkerSettings) (s : Ledger κ) : Prop where
  settings : s.place.worker.settings = w
  /-- Every call is in order. -/
  calls : ∀ k, InOrder w s.place.store (s.place.call k) (s.deedsOf k)
  /-- The totals are those of all the deeds. -/
  totals : s.place.worker.stats.Totals s.postings

/-- What is not done by a call changes neither the calls nor the deeds. -/
theorem Kept.of_place (h : Kept w s) {place : Workplace κ} (hcall : place.call = s.place.call)
    (hsettings : place.worker.settings = s.place.worker.settings)
    (hkeeps : ∀ id, (s.place.store.find? id).isSome = true → (place.store.find? id).isSome = true)
    (htotals : place.worker.stats.Totals s.postings) : Kept w { s with place } where
  settings := hsettings.trans h.settings
  calls k := by
    show InOrder w place.store (place.call k) _
    rw [hcall]
    exact (h.calls k).keeps hkeeps
  totals := htotals

theorem Kept.make (h : Kept w s) (k : κ) : Kept w (s.step (.make k)) := by
  by_cases hnone : s.place.call k = none
  · have hstep : s.step (.make k) =
        { s with place := s.place.goOn k (.poll s.place.adapters s.place.limit) } := by
      simp only [step, Workplace.step, if_pos hnone]
    rw [hstep]
    refine ⟨h.settings, fun j => ?_, h.totals⟩
    have hj := h.calls j
    show InOrder w s.place.store ((s.place.goOn k _).call j) (s.deedsOf j)
    by_cases hjk : j = k
    · subst hjk
      rw [hnone] at hj
      rw [Workplace.call_goOn_self]
      exact hj.make ..
    · rwa [Workplace.call_goOn_of_ne hjk]
  · have hstep : s.step (.make k) = s := by simp only [step, Workplace.step, if_neg hnone]
    rw [hstep]
    exact h

theorem Kept.act (h : Kept w s) (k : κ) (reply : Reply) : Kept w (s.act k reply) := by
  obtain hsame | ⟨q, next, a, place, hcall, hreply, hact⟩ := s.act_cases k reply
  · rw [hsame]
    exact h
  rw [hact]
  have hreplied := Workplace.replied_reply hreply
  have hlawful : Deed.IsLawful w ⟨q, a, s.place.scene, place.scene⟩ :=
    h.settings ▸ hreplied.lawful
  refine ⟨hreplied.settings.trans h.settings, fun j => ?_, ?_⟩
  · have hj := h.calls j
    obtain ⟨rfl, hgone, hdeeds⟩ | ⟨hother, hdeeds⟩ :=
      s.call_cases place k (next a) ⟨q, a, s.place.scene, place.scene⟩ j
    · rw [hcall] at hj
      rw [hgone, hdeeds]
      exact hj.act hlawful hreplied.keeps
    · rw [hother, hdeeds, hreplied.call]
      exact hj.keeps hreplied.keeps
  · rw [postings_add, show (place.goOn k (next a)).worker = place.worker from rfl, hreplied.stats]
    cases hposting : Deed.posting? ⟨q, a, s.place.scene, place.scene⟩ with
    | none => simpa using h.totals
    | some n => exact h.totals.post n

theorem kept_step (h : Kept w s) (t : Turn κ) : Kept w (s.step t) := by
  cases t with
  | others change now =>
    exact h.of_place rfl rfl (change.keeps _) h.totals
  | cancel => exact h.of_place rfl rfl (fun _ h => h) h.totals
  | setRunning running =>
    obtain ⟨hcycles, hskipped, hclaimed, hsucceeded, hretried, hdead, hconflicts, hreclaimed⟩ :=
      h.totals
    exact h.of_place rfl rfl (fun _ h => h)
      ⟨hcycles, hskipped, hclaimed, hsucceeded, hretried, hdead, hconflicts, hreclaimed⟩
  | make k => exact h.make k
  | act k reply => exact h.act k reply

theorem kept_run (h : Kept w s) (turns : List (Turn κ)) : Kept w (s.run turns) := by
  induction turns generalizing s with
  | nil => exact h
  | cons t turns ih => exact ih (kept_step h t)

theorem kept_start (now : Instant) (store : Store) (adapters : List String) (limit : Span) :
    Kept w (start now store w adapters limit : Ledger κ) := by
  refine ⟨rfl, fun k => ⟨fun _ => rfl, nofun, fun d hd => absurd hd List.not_mem_nil,
    fun d hd => absurd hd List.not_mem_nil, fun e ⟨d, hd, _⟩ => absurd hd List.not_mem_nil⟩, ?_⟩
  constructor <;> rfl

/-! ### What the reports and the totals say -/

/-- The accounts of a worker are right. -/
structure Balanced (w : WorkerSettings) (s : Ledger κ) : Prop where
  /-- A call that ran a cycle and has come to a report has one that is right. -/
  report : ∀ k r, s.place.call k = some (.done (some (.ok r))) → r.skipped = false →
    r.Balanced w (s.deedsOf k)
  /-- A call that was skipped has done nothing but be counted. -/
  skipped : ∀ k r, s.place.call k = some (.done (some (.ok r))) → r.skipped = true →
    r = { skipped := true } ∧ Deed.postings (s.deedsOf k) = [.skipped]
  /-- A call that has come to an error or has broken down has added nothing to the totals. -/
  failed : ∀ k, (∃ why, s.place.call k = some (.done (some (.error why)))) ∨
    s.place.call k = some (.done none) → ∀ n ∈ Deed.postings (s.deedsOf k), n.isTotal = false
  /-- A call settles only events that it has claimed. -/
  due : ∀ k, ∀ d ∈ s.deedsOf k, d.ask.IsDue (s.deedsOf k)
  /-- The totals are the sums over the completed cycles. -/
  totals : s.place.worker.stats.Totals s.postings

/-- Whatever calls are made of a worker, and whatever happens to the event log, the clock, the
adapters and the worker in the meantime, its accounts are right. -/
theorem balanced_run (now : Instant) (store : Store) (w : WorkerSettings) (adapters : List String)
    (limit : Span) (turns : List (Turn κ)) :
    Balanced w ((start now store w adapters limit).run turns) := by
  have h : Kept w ((start now store w adapters limit : Ledger κ).run turns) :=
    kept_run (kept_start now store adapters limit) turns
  generalize (start now store w adapters limit : Ledger κ).run turns = s at h
  refine ⟨fun k r hk hran => ?_, fun k r hk hskipped => ?_, fun k hk => ?_,
    fun k => (h.calls k).due, h.totals⟩
  · have hclosed : Closed w (s.deedsOf k) (some (.ok r)) := (h.calls k).closes _ hk
    exact hclosed.balanced hran (fun d hd => ((h.calls k).lawful d hd).1)
      fun d hd => ((h.calls k).lawful d hd).2
  · have hclosed : Closed w (s.deedsOf k) (some (.ok r)) := (h.calls k).closes _ hk
    obtain ⟨hpostings, hr⟩ | ⟨notes, batch, rest, -, -, hunderway, -⟩ := hclosed
    · exact ⟨hr, hpostings⟩
    · rw [hunderway.report, (CycleReport.counts_adding _ notes).skipped] at hskipped
      cases hskipped
  · obtain ⟨why, hk⟩ | hk := hk
    · exact (h.calls k).closes _ hk
    · exact (h.calls k).closes _ hk

/-- In one cycle the log fails when the event is to be claimed; in the next one the event is synced,
while a call that comes in is skipped. -/
example :
    let e : Event := .ofMutation ⟨"employee", "EMP0001", .create, .null⟩ 1 .epoch
    let take (k : Nat) : Turn Nat := .act k (.answered (.answered ⟨true, ""⟩) .middle)
    let s := (start .epoch { events := [e], nextId := 2 } {} ["payroll"] (.ofMillis 10000)).run
      ([.make 0, take 0, take 0, .act 0 (.claimFailed (.database (.other "connection lost"))),
        take 0, take 0, .make 1, take 1, take 1, take 1, .make 2, take 2] ++
          List.replicate 5 (take 1))
    s.place.worker.stats = { cycles := 2, skippedCycles := 1, eventsClaimed := 1, succeeded := 1 } ∧
      s.postings = [.failed, .recorded { fetched := 1 }, .won false, .skipped,
        .settled .succeeded, .recorded { fetched := 1, claimed := 1, succeeded := 1 }] := by
  decide +kernel

end Ledger

end Outbox
