import Outbox.Proofs.Worker.Isolation

/-!
# A worker that is told to stop

A worker may be told to stop at any `Moment`: before a cycle, or while one of the events is being
dispatched. Here the cycle that it breaks off is compared with the one that it would have run, with
the same fate for every dispatch.

Up to that moment the two are one and the same. An event that is being dispatched then is settled
as ever, since the worker asks whether to stop between two events only; after that it asks, and
tries no further claim (`work_of_stopped`). So `work_stoppedAt` finds the attempts of the one cycle
at the beginning of those of the other, down to the event log before and after each outcome.

What is left of the batch then is as it was, as far as nobody else touches it: the worker changes
events that it has claimed, and no others, and leaves them as their outcomes have them
(`work_accounts`). `poll_stopped` says all of that of a whole call.
-/

namespace Outbox

namespace Course

variable {c c' : Course} {w : WorkerSettings} {e : Event}

/-- A claim that is lost leaves everything as it is. -/
theorem scene_of_conflict (h : c.claim w e = (.conflict, c')) : c'.scene = c.scene := by
  obtain ⟨f, -, -, -, hclaim⟩ | ⟨a, -, -, hclaim⟩ :=
    w.claim_cases c.scene.now c.scene.worker.cancelled e c.scene.store
  · simp [claim, hclaim] at h
  · unfold claim at h
    rw [hclaim] at h
    cases a
    all_goals cases h
    rfl

/-- A claim that is won changes the event, and nothing else. -/
theorem scene_of_claimed (h : c.claim w e = (.claimed, c')) :
    c'.scene = { c.scene with
      store := c.scene.store.modify e.id (Store.claimed (w.leaseEnd c.scene.now)) } := by
  obtain ⟨f, -, -, -, hclaim⟩ | ⟨a, hlost, -, hclaim⟩ :=
    w.claim_cases c.scene.now c.scene.worker.cancelled e c.scene.store
  · unfold claim at h
    rw [hclaim] at h
    cases h
    rfl
  · unfold claim at h
    rw [hclaim] at h
    cases a
    all_goals cases h
    exact absurd rfl hlost

/-- The tried claim is noted, whether it is won or lost. -/
theorem claim_frame {a : ClaimEnd} (h : c.claim w e = (a, c')) (ha : a ≠ .cancelled) :
    c'.tried = c.tried ++ [e] ∧ c'.attempts = c.attempts := by
  obtain ⟨-, hclaim⟩ | ⟨c₁, htried, hattempts, hclaim | hclaim⟩ := c.claim_cases w e
  all_goals rw [hclaim] at h; cases h
  · exact absurd rfl ha
  · exact ⟨htried, hattempts⟩
  · exact ⟨htried, hattempts⟩

end Course

/-! ### Moments -/

/-- The course with the worker told to stop. -/
def Course.stop (c : Course) : Course :=
  { c with scene := { c.scene with worker := c.scene.worker.cancel } }

/-- The same fate, but the worker is told to stop while the dispatch goes on. -/
def Fate.stopping (fate : Fate) : Fate where
  dispatch r s :=
    let (d, s) := fate.dispatch r s
    (d, { s with worker := s.worker.cancel })
  chance := fate.chance

namespace Fate

theorem meet_stopping {fate : Fate} {r : SyncRequest} {c c' : Course} {d : DispatchResult}
    (h : fate.meet r c = (d, c')) : fate.stopping.meet r c = (d, c'.stop) := by
  obtain ⟨rfl, rfl⟩ := Prod.mk.inj h
  rfl

/-- Whether the worker was told to stop makes no difference to how a dispatch is settled. -/
theorem settle_stopping {fate : Fate} {w : WorkerSettings} {e : Event} {result : AttemptResult}
    {c c' : Course} {x : Attempt} (h : fate.settle w e result c = (x, c')) :
    fate.stopping.settle w e result c.stop = (x, c'.stop) := by
  obtain ⟨rfl, rfl⟩ := Prod.mk.inj h
  rfl

theorem settle_eq {fate : Fate} {w : WorkerSettings} {e : Event} {result : AttemptResult}
    {c c' : Course} {x : Attempt} (h : fate.settle w e result c = (x, c')) :
    c'.scene.store = x.after ∧ x.before = c.scene.store ∧ c'.scene.now = c.scene.now ∧
      w.retry.settle x.time x.event x.result x.before (fate.chance c.attempts.length) =
        (x.ended, x.after) := by
  obtain ⟨rfl, rfl⟩ := Prod.mk.inj h
  exact ⟨rfl, rfl, rfl, rfl⟩

end Fate

namespace Fates

/-- The same fates, but the worker is told to stop during the dispatch with a number. -/
def stoppedAt (fates : Fates) (n : Nat) : Fates := fun k =>
  if k = n then (fates k).stopping else fates k

/-- The surroundings of a call. -/
def host (fates : Fates) (w : WorkerSettings) : PollHost Solo where
  toCycleHost := fates.cycle w
  enter := fun c =>
    let (entered, worker) := c.scene.worker.enter
    (.ok entered, { c with scene := { c.scene with worker := worker } })
  leaveAfter m := fun c =>
    let (result, c) := m c
    (result, { c with scene := { c.scene with worker := c.scene.worker.leave } })
  record r := fun c =>
    (.ok (), { c with scene := { c.scene with worker := c.scene.worker.record r } })

/-- What a call of the worker comes to. -/
def poll (fates : Fates) (s : Scene) :
    Except Breakdown (Except DeliveryError CycleReport) × Course :=
  (fates.host s.worker.settings).poll { scene := s }

end Fates

/-- When a worker is told to stop. -/
inductive Moment where
  /-- Before the cycle. -/
  | before
  /-- During the dispatch with a number, of those of the cycle. -/
  | during (n : Nat)

namespace Moment

/-- What a call comes to of a worker that is told to stop at the moment. -/
def poll (m : Moment) (fates : Fates) (s : Scene) :
    Except Breakdown (Except DeliveryError CycleReport) × Course :=
  match m with
  | before => fates.poll { s with worker := s.worker.cancel }
  | during n => (fates.stoppedAt n).poll s

/-- How many dispatches have begun by then. -/
def begun : Moment → Nat
  | before => 0
  | during n => n + 1

end Moment

/-! ### One event of a batch -/

/-- The event is claimed, dispatched and settled, in this attempt. -/
inductive Fates.Delivers (fates : Fates) (w : WorkerSettings) (c : Course) (e : Event) (x : Attempt)
    (c' : Course) : Prop where
  | intro {c₁ c₂ : Course} {d : DispatchResult} (hclaim : c.claim w e = (.claimed, c₁))
      (hmeet : (fates c.attempts.length).meet (.ofEvent e) c₁ = (d, c₂))
      (hsettle : (fates c.attempts.length).settle w e d.attempt c₂ = (x, c'))

namespace Fates

variable {fates : Fates} {w : WorkerSettings}

theorem exists_delivers {c c₁ : Course} {e : Event} (h : c.claim w e = (.claimed, c₁)) :
    ∃ x c', fates.Delivers w c e x c' :=
  ⟨_, _, .intro h rfl rfl⟩

namespace Delivers

variable {c c' : Course} {e : Event} {x : Attempt}

theorem frame (h : fates.Delivers w c e x c') :
    x.event = e ∧ c'.tried = c.tried ++ [e] ∧ c'.attempts = c.attempts ++ [x] := by
  obtain ⟨hclaim, hmeet, hsettle⟩ := h
  obtain ⟨htried₁, hattempts₁⟩ := Course.claim_frame hclaim (by simp)
  obtain ⟨htried₂, hattempts₂⟩ := Fate.meet_frame hmeet
  obtain ⟨-, hevent, htried₃, hattempts₃⟩ := Fate.settle_frame hsettle
  rw [htried₃, htried₂, htried₁, hattempts₃, hattempts₂, hattempts₁]
  exact ⟨hevent, rfl, rfl⟩

theorem work_eq (h : fates.Delivers w c e x c') (rest : List Event) (r : CycleReport) :
    (fates.cycle w).work (e :: rest) r c =
      match x.ended with
      | .ok disposition => (fates.cycle w).work rest ((r.claim e).settle disposition) c'
      | .error why => (.error why, c') := by
  obtain ⟨hclaim, hmeet, hsettle⟩ := h
  obtain ⟨-, hattempts₁⟩ := Course.claim_frame hclaim (by simp)
  obtain ⟨-, hattempts₂⟩ := Fate.meet_frame hmeet
  rw [← hattempts₁] at hmeet
  rw [← hattempts₁, ← hattempts₂] at hsettle
  exact work_of_claimed _ w hclaim hmeet hsettle rest r

/-- The attempt is settled with the chance that fell to it. -/
theorem settled (h : fates.Delivers w c e x c') :
    c'.scene.store = x.after ∧ w.retry.settle x.time x.event x.result x.before
      ((fates c.attempts.length).chance c.attempts.length) = (x.ended, x.after) := by
  obtain ⟨hclaim, hmeet, hsettle⟩ := h
  obtain ⟨-, hattempts₁⟩ := Course.claim_frame hclaim (by simp)
  obtain ⟨-, hattempts₂⟩ := Fate.meet_frame hmeet
  obtain ⟨hstore, -, -, hx⟩ := Fate.settle_eq hsettle
  rw [hattempts₂, hattempts₁] at hx
  exact ⟨hstore, hx⟩

end Delivers

/-- What is kept when a claim is lost, and when an event is claimed, dispatched and settled, is
kept by a cycle. -/
theorem work_keeps {P : Course → Prop}
    (hlost : ∀ {c c' e}, P c → c.claim w e = (.conflict, c') → P c')
    (hwon : ∀ {c c' e x}, P c → fates.Delivers w c e x c' → P c')
    {batch : List Event} {r : CycleReport} {c c' : Course} {result : Except Breakdown CycleReport}
    (hc : P c) (h : (fates.cycle w).work batch r c = (result, c')) : P c' := by
  induction batch generalizing r c with
  | nil =>
    obtain ⟨-, rfl⟩ := Prod.mk.inj h
    exact hc
  | cons e rest ih =>
    obtain ⟨-, hclaim⟩ | ⟨c₁, -, -, hclaim | hclaim⟩ := c.claim_cases w e
    · rw [work_of_cancelled _ w hclaim] at h
      obtain ⟨-, rfl⟩ := Prod.mk.inj h
      exact hc
    · rw [work_of_conflict _ w hclaim] at h
      exact ih (hlost hc hclaim) h
    · obtain ⟨x, c₂, hx⟩ := fates.exists_delivers hclaim
      have hc₂ := hwon hc hx
      rw [hx.work_eq] at h
      cases hended : x.ended with
      | error why =>
        simp only [hended] at h
        obtain ⟨-, rfl⟩ := Prod.mk.inj h
        exact hc₂
      | ok disposition =>
        simp only [hended] at h
        exact ih hc₂ h

/-- A cycle goes on from where it has come to. -/
theorem work_prefix {batch : List Event} {r : CycleReport} {c c' : Course}
    {result : Except Breakdown CycleReport}
    (h : (fates.cycle w).work batch r c = (result, c')) :
    c.tried <+: c'.tried ∧ c.attempts <+: c'.attempts := by
  obtain ⟨tried, -, attempts, -, htried, hattempts, -⟩ := fates.work_cases w h
  exact ⟨⟨tried, htried.symm⟩, ⟨attempts, hattempts.symm⟩⟩

/-! ### What a worker that is told to stop still does -/

theorem stoppedAt_self (fates : Fates) (n : Nat) : fates.stoppedAt n n = (fates n).stopping :=
  if_pos rfl

theorem stoppedAt_of_ne (fates : Fates) {n k : Nat} (h : k ≠ n) : fates.stoppedAt n k = fates k :=
  if_neg h

/-- A worker that was told to stop tries no claim any more. -/
theorem work_of_stopped {c : Course} (h : c.scene.worker.cancelled = true) (batch : List Event)
    (r : CycleReport) : (fates.cycle w).work batch r c = (.ok r, c) := by
  cases batch with
  | nil => rfl
  | cons e rest =>
    have hclaim : c.claim w e = (.cancelled, c) := by
      simp [Course.claim, WorkerSettings.claim, h, Course.setStore]
    exact fates.work_of_cancelled w hclaim rest r

/-- The event that is being dispatched is settled as ever. -/
theorem Delivers.stopped {n : Nat} {c c' : Course} {e : Event} {x : Attempt}
    (h : fates.Delivers w c e x c') (hnow : c.attempts.length = n) :
    (fates.stoppedAt n).Delivers w c e x c'.stop := by
  obtain ⟨hclaim, hmeet, hsettle⟩ := h
  subst hnow
  have hmeet' := Fate.meet_stopping hmeet
  have hsettle' := Fate.settle_stopping hsettle
  rw [← fates.stoppedAt_self] at hmeet' hsettle'
  exact .intro hclaim hmeet' hsettle'

/-- Before that all is as ever. -/
theorem Delivers.unstopped {n : Nat} {c c' : Course} {e : Event} {x : Attempt}
    (h : fates.Delivers w c e x c') (hother : c.attempts.length ≠ n) :
    (fates.stoppedAt n).Delivers w c e x c' := by
  obtain ⟨hclaim, hmeet, hsettle⟩ := h
  rw [← fates.stoppedAt_of_ne hother] at hmeet hsettle
  exact .intro hclaim hmeet hsettle

/-- During the dispatch in which it is told to stop, the worker settles the event, and that is
all. -/
theorem Delivers.cut_eq {n : Nat} {c c' cut : Course} {e : Event} {x : Attempt}
    {rest : List Event} {r : CycleReport} {result : Except Breakdown CycleReport}
    (hx : fates.Delivers w c e x c') (hnow : c.attempts.length = n)
    (h : ((fates.stoppedAt n).cycle w).work (e :: rest) r c = (result, cut)) : cut = c'.stop := by
  rw [(hx.stopped hnow).work_eq] at h
  cases hended : x.ended with
  | error why =>
    simp only [hended] at h
    exact (Prod.mk.inj h).2.symm
  | ok disposition =>
    have hstopped : c'.stop.scene.worker.cancelled = true := rfl
    simp only [hended, work_of_stopped hstopped] at h
    exact (Prod.mk.inj h).2.symm

/-- A cycle goes on from where an event was settled. -/
theorem Delivers.work_prefix {c c' full : Course} {e : Event} {x : Attempt} {rest : List Event}
    {r : CycleReport} {result : Except Breakdown CycleReport} (hx : fates.Delivers w c e x c')
    (h : (fates.cycle w).work (e :: rest) r c = (result, full)) :
    c'.tried <+: full.tried ∧ c'.attempts <+: full.attempts := by
  rw [hx.work_eq] at h
  cases hended : x.ended with
  | error why =>
    simp only [hended] at h
    obtain ⟨-, rfl⟩ := Prod.mk.inj h
    exact ⟨List.prefix_rfl, List.prefix_rfl⟩
  | ok disposition =>
    simp only [hended] at h
    exact Fates.work_prefix h

/-- The cycle up to the end of the dispatch during which the worker is told to stop is that of a
worker that is not. If there is no such dispatch, they are the same in all. The induction is on the
batch; it is carried by the number of dispatches there were. -/
theorem work_stoppedAt (n : Nat) {batch : List Event} {r : CycleReport} {c full cut : Course}
    {result result' : Except Breakdown CycleReport} (hn : c.attempts.length ≤ n)
    (hfull : (fates.cycle w).work batch r c = (result, full))
    (hcut : ((fates.stoppedAt n).cycle w).work batch r c = (result', cut)) :
    (full.attempts.length ≤ n ∧ result' = result ∧ cut = full) ∨
      ∃ x, full.attempts[n]? = some x ∧ cut.attempts = full.attempts.take (n + 1) ∧
        cut.tried <+: full.tried ∧ cut.tried.getLast? = some x.event := by
  induction batch generalizing r c with
  | nil =>
    obtain ⟨rfl, rfl⟩ := Prod.mk.inj hfull
    obtain ⟨rfl, rfl⟩ := Prod.mk.inj hcut
    exact .inl ⟨hn, rfl, rfl⟩
  | cons e rest ih =>
    obtain ⟨-, hclaim⟩ | ⟨c₁, -, hattempts, hclaim | hclaim⟩ := c.claim_cases w e
    · rw [work_of_cancelled _ w hclaim] at hfull hcut
      obtain ⟨rfl, rfl⟩ := Prod.mk.inj hfull
      obtain ⟨rfl, rfl⟩ := Prod.mk.inj hcut
      exact .inl ⟨hn, rfl, rfl⟩
    · rw [work_of_conflict _ w hclaim] at hfull hcut
      rw [← hattempts] at hn
      exact ih hn hfull hcut
    · obtain ⟨x, c', hx⟩ := fates.exists_delivers hclaim
      obtain ⟨rfl, htried, hattempts'⟩ := hx.frame
      have hlength : c'.attempts.length = c.attempts.length + 1 := by simp [hattempts']
      by_cases hnow : c.attempts.length = n
      · obtain ⟨hpre, hpre'⟩ := hx.work_prefix hfull
        rw [hx.cut_eq hnow hcut]
        have hlast : c'.attempts[n]? = some x := by simp [hattempts', ← hnow]
        refine .inr ⟨x, ?_, ?_, hpre, ?_⟩
        · obtain ⟨more, hmore⟩ := hpre'
          rw [← hmore, List.getElem?_append_left (by omega), hlast]
        · rw [← hnow, ← hlength]
          exact List.prefix_iff_eq_take.1 hpre'
        · show c'.tried.getLast? = some x.event
          simp [htried]
      · rw [hx.work_eq] at hfull
        rw [(hx.unstopped hnow).work_eq] at hcut
        cases hended : x.ended with
        | error why =>
          simp only [hended] at hfull hcut
          obtain ⟨rfl, rfl⟩ := Prod.mk.inj hfull
          obtain ⟨rfl, rfl⟩ := Prod.mk.inj hcut
          exact .inl ⟨by omega, rfl, rfl⟩
        | ok disposition =>
          simp only [hended] at hfull hcut
          exact ih (by omega) hfull hcut

/-! ### What others leave alone -/

/-- The others leave the event with a number alone. -/
def Spares (fates : Fates) (id : Int) : Prop :=
  ∀ n r s, ((fates n).dispatch r s).2.store.find? id = s.store.find? id

/-- The clock never goes back. -/
def Forward (fates : Fates) : Prop := ∀ n r s, s.now ≤ ((fates n).dispatch r s).2.now

/-- Outcomes can be written: the writes succeed, and when an event is to be tried again, the time
of that is in the calendar. -/
def Writes (fates : Fates) (p : RetryPolicy) (attempts : List Attempt) : Prop :=
  ∀ k x, attempts[k]? = some x → x.before.outcomeFailures = 0 ∧
    ∀ message, x.result = .failure message →
      p.decision x.event.nextFailure x.time ((fates k).chance k) ≠ .pastCalendar

/-- That the worker is told to stop touches neither the log nor the clock nor the chances. -/
theorem frame_stoppedAt (fates : Fates) (n k : Nat) :
    (fates.stoppedAt n k).chance = (fates k).chance ∧
      ∀ r s, ((fates.stoppedAt n k).dispatch r s).2.store = ((fates k).dispatch r s).2.store ∧
        ((fates.stoppedAt n k).dispatch r s).2.now = ((fates k).dispatch r s).2.now := by
  unfold stoppedAt
  split
  · exact ⟨rfl, fun r s => ⟨rfl, rfl⟩⟩
  · exact ⟨rfl, fun r s => ⟨rfl, rfl⟩⟩

theorem Spares.stoppedAt {id : Int} (h : fates.Spares id) (n : Nat) :
    (fates.stoppedAt n).Spares id := by
  intro k r s
  rw [((fates.frame_stoppedAt n k).2 r s).1]
  exact h k r s

theorem Forward.stoppedAt (h : fates.Forward) (n : Nat) : (fates.stoppedAt n).Forward := by
  intro k r s
  rw [((fates.frame_stoppedAt n k).2 r s).2]
  exact h k r s

theorem Writes.stoppedAt {p : RetryPolicy} {attempts : List Attempt}
    (h : fates.Writes p attempts) (n : Nat) : (fates.stoppedAt n).Writes p attempts := by
  intro k x hx
  rw [(fates.frame_stoppedAt n k).1]
  exact h k x hx

/-! ### What a cycle leaves alone -/

/-- An event is as it was found before the cycle, or as the outcome of its dispatch left it. -/
def Accounts (fates : Fates) (w : WorkerSettings) (id : Int) (found : Option Event) (c : Course) :
    Prop :=
  c.scene.store.find? id = found ∨ ∃ k x, c.attempts[k]? = some x ∧ x.event ∈ c.tried ∧
    x.event.id = id ∧ c.scene.store.find? id = x.after.find? id ∧
      w.retry.settle x.time x.event x.result x.before ((fates k).chance k) = (x.ended, x.after)

/-- What is done for one event makes no difference to the others. -/
theorem Delivers.find?_of_ne {id : Int} (hspares : fates.Spares id) {c c' : Course} {e : Event}
    {x : Attempt} (h : fates.Delivers w c e x c') (hid : id ≠ e.id) :
    c'.scene.store.find? id = c.scene.store.find? id := by
  obtain ⟨hevent, -, -⟩ := h.frame
  obtain ⟨hstore, hx⟩ := h.settled
  obtain ⟨hclaim, hmeet, hsettle⟩ := h
  have hsettled : x.after.find? id = x.before.find? id := by
    rw [show x.after = _ from (congrArg Prod.snd hx).symm]
    exact w.retry.find?_settle_of_ne _ _ _ _ (by rwa [hevent])
  obtain ⟨-, hbefore, -, -⟩ := Fate.settle_eq hsettle
  obtain ⟨-, rfl⟩ := Prod.mk.inj hmeet
  rw [hstore, hsettled, hbefore, hspares, Course.scene_of_claimed hclaim,
    Store.find?_modify (Store.id_claimed _), if_neg hid]

/-- It stays so when an event is claimed, dispatched and settled. -/
theorem Accounts.delivers {id : Int} (hspares : fates.Spares id) {found : Option Event}
    {c c' : Course} {e : Event} {x : Attempt} (h : fates.Accounts w id found c)
    (hx : fates.Delivers w c e x c') : fates.Accounts w id found c' := by
  obtain ⟨rfl, htried, hattempts⟩ := hx.frame
  by_cases hid : id = x.event.id
  · obtain ⟨hstore, hsettled⟩ := hx.settled
    refine .inr
      ⟨c.attempts.length, x, by simp [hattempts], by simp [htried], hid.symm, ?_, hsettled⟩
    rw [hstore]
  · have hkept := hx.find?_of_ne hspares hid
    obtain hfound | ⟨k, y, hy, hmem, hyid, hfound, hsettled⟩ := h
    · exact .inl (hkept.trans hfound)
    · refine .inr ⟨k, y, ?_, ?_, hyid, hkept.trans hfound, hsettled⟩
      · rw [hattempts, List.getElem?_append_left (List.getElem?_eq_some_iff.1 hy).1, hy]
      · rw [htried]
        exact List.mem_append_left _ hmem

/-- A worker changes the events that it has claimed, and no others, and settles each of them. -/
theorem work_accounts {id : Int} (hspares : fates.Spares id) {found : Option Event}
    {batch : List Event} {r : CycleReport} {c c' : Course} {result : Except Breakdown CycleReport}
    (hc : fates.Accounts w id found c) (h : (fates.cycle w).work batch r c = (result, c')) :
    fates.Accounts w id found c' := by
  refine work_keeps (fun hc hclaim => ?_) (fun hc hx => hc.delivers hspares hx) hc h
  obtain ⟨htried, hattempts⟩ := Course.claim_frame hclaim (by simp)
  unfold Accounts
  rw [Course.scene_of_conflict hclaim, htried, hattempts]
  refine hc.imp_right fun ⟨k, x, hx, hmem, hrest⟩ => ⟨k, x, hx, ?_, hrest⟩
  exact List.mem_append_left _ hmem

/-- The clock does not go back in a cycle. -/
theorem work_forward (hforward : fates.Forward) {batch : List Event} {r : CycleReport}
    {c c' : Course} {result : Except Breakdown CycleReport}
    (h : (fates.cycle w).work batch r c = (result, c')) : c.scene.now ≤ c'.scene.now := by
  refine work_keeps (P := fun d => c.scene.now ≤ d.scene.now) (fun hc hclaim => ?_)
    (fun hc hx => ?_) (Instant.le_refl _) h
  · rwa [Course.scene_of_conflict hclaim]
  · obtain ⟨hclaim, hmeet, hsettle⟩ := hx
    obtain ⟨-, -, hnow, -⟩ := Fate.settle_eq hsettle
    obtain ⟨-, rfl⟩ := Prod.mk.inj hmeet
    rw [hnow]
    refine Instant.le_trans hc (Instant.le_trans ?_ (hforward _ _ _))
    rw [Course.scene_of_claimed hclaim]
    exact Instant.le_refl _

/-- An event whose outcome can be written is not left in processing, unless it was so before. -/
theorem Accounts.not_processing {id : Int} {found : Option Event} {c : Course} {f : Event}
    (h : fates.Accounts w id found c) (hwrites : fates.Writes w.retry c.attempts)
    (hf : c.scene.store.find? id = some f) (hprocessing : f.status = .processing) :
    found = some f := by
  obtain hfound | ⟨k, x, hx, -, rfl, hfound, hsettled⟩ := h
  · rw [← hfound, hf]
  · exfalso
    obtain ⟨hpossible, htime⟩ := hwrites k x hx
    obtain ⟨⟨message, hresult⟩, hpast, -⟩ | ⟨hpos, -⟩ | ⟨d, g, houtcome, hwritten⟩ :=
      w.retry.settle_cases x.time x.event x.result x.before ((fates k).chance k)
    · exact htime message hresult hpast
    · omega
    · rw [hsettled, Prod.mk.injEq] at hwritten
      rw [hfound, hwritten.2, Store.find?_modify houtcome.id_eq, if_pos rfl,
        Option.map_eq_some_iff] at hf
      obtain ⟨e, -, rfl⟩ := hf
      exact houtcome.status_ne_processing e hprocessing

end Fates

/-! ### A whole call -/

namespace Scene

/-- The events that the worker fetches. -/
def batch (s : Scene) : List Event := s.store.oldestDue s.now s.worker.settings.batchSize

/-- The scene when a cycle has begun. -/
def entered (s : Scene) : Scene := { s with worker := { s.worker with busy := true } }

end Scene

/-- The course when a call is over: a worker that has not broken down adds what it did, and any
worker is idle again. -/
def Course.finish (c : Course) (result : Except Breakdown CycleReport) : Course :=
  let worker := match result with
    | .ok report => c.scene.worker.record report
    | .error _ => c.scene.worker
  { c with scene := { c.scene with worker := worker.leave } }

namespace Fates

variable (fates : Fates) {s : Scene}

theorem leaveAfter_eq {w : WorkerSettings} {m : Solo (Except DeliveryError CycleReport)}
    {c c' : Course} {result : Except Breakdown (Except DeliveryError CycleReport)}
    (h : m c = (result, c')) :
    (fates.host w).leaveAfter m c =
      (result, { c' with scene := { c'.scene with worker := c'.scene.worker.leave } }) := by
  simp only [host, h]

/-- A call of an idle worker works off the oldest due events, if the log gives them. -/
theorem poll_of_work (hidle : s.worker.busy = false) (hfetch : s.store.fetchFailure = none)
    {result : Except Breakdown CycleReport} {c : Course}
    (h : (fates.cycle s.worker.settings).work s.batch { fetched := s.batch.length }
      { scene := s.entered } = (result, c)) :
    fates.poll s = (result.map .ok, c.finish result) := by
  have henter : (fates.host s.worker.settings).enter { scene := s } =
      (.ok true, { scene := s.entered }) := by
    simp only [host, Worker.enter_of_idle hidle, Scene.entered]
  have hbatch : (fates.host s.worker.settings).fetch { scene := s.entered } =
      (.ok (.ok s.batch), { scene := s.entered }) := by
    simp [host, cycle, Fate.host, Scene.entered, Store.fetch, hfetch, Scene.batch, Course.setStore]
  have hrun : (fates.host s.worker.settings).run { scene := s.entered } =
      (result.map .ok, c) := by
    rw [CycleHost.run, Running.bind_of_ok hbatch]
    simp only [map_eq_pure_bind]
    cases result with
    | ok report => exact Running.bind_of_ok h
    | error why => exact Running.bind_of_error h
  rw [poll, PollHost.poll, Running.bind_of_ok henter]
  cases result with
  | ok report =>
    have hcomplete : (fates.host s.worker.settings).complete { scene := s.entered } =
        (.ok (.ok report), { c with
          scene := { c.scene with worker := c.scene.worker.record report } }) := by
      rw [PollHost.complete, Running.bind_of_ok hrun]
      rfl
    exact fates.leaveAfter_eq hcomplete
  | error why =>
    have hcomplete : (fates.host s.worker.settings).complete { scene := s.entered } =
        (.error why, c) := by
      rw [PollHost.complete, Running.bind_of_error hrun]
    exact fates.leaveAfter_eq hcomplete

theorem poll_eq (hidle : s.worker.busy = false)
    (hfetch : s.store.fetchFailure = none) :
    ∃ result c, (fates.cycle s.worker.settings).work s.batch { fetched := s.batch.length }
        { scene := s.entered } = (result, c) ∧
      fates.poll s = (result.map .ok, c.finish result) :=
  ⟨_, _, rfl, fates.poll_of_work hidle hfetch rfl⟩

theorem poll_tried (hidle : s.worker.busy = false) (hfetch : s.store.fetchFailure = none) :
    (fates.poll s).2.tried <+: s.batch := by
  obtain ⟨result, c, hwork, hpoll⟩ := fates.poll_eq hidle hfetch
  rw [hpoll]
  obtain ⟨tried, rest, -, hbatch, htried, -⟩ := fates.work_cases _ hwork
  exact ⟨rest, by rw [hbatch, ← List.nil_append tried]; exact congrArg (· ++ rest) htried⟩

theorem poll_accounts (hidle : s.worker.busy = false) (hfetch : s.store.fetchFailure = none)
    {id : Int} (hspares : fates.Spares id) :
    fates.Accounts s.worker.settings id (s.store.find? id) (fates.poll s).2 := by
  obtain ⟨result, c, hwork, hpoll⟩ := fates.poll_eq hidle hfetch
  rw [hpoll]
  have haccounts : fates.Accounts _ id (s.store.find? id) c :=
    work_accounts hspares (.inl rfl) hwork
  exact haccounts

theorem poll_forward (hidle : s.worker.busy = false) (hfetch : s.store.fetchFailure = none)
    (hforward : fates.Forward) : s.now ≤ (fates.poll s).2.scene.now := by
  obtain ⟨result, c, hwork, hpoll⟩ := fates.poll_eq hidle hfetch
  rw [hpoll]
  exact work_forward hforward hwork

/-- A call that is over has left alone what it did not claim, and nothing is left in processing by
it. -/
structure Leaves (fates : Fates) (s : Scene) (c : Course) : Prop where
  /-- An event of which no claim was tried is as it was. -/
  unchanged : ∀ id, fates.Spares id → id ∉ c.tried.map Event.id →
    c.scene.store.find? id = s.store.find? id
  /-- If it is of the batch, it is still due. -/
  due : fates.Forward → ∀ e ∈ s.batch, fates.Spares e.id → e ∉ c.tried →
    c.scene.store.find? e.id = some e ∧ e.isDue c.scene.now = true
  /-- If outcomes can be written, an event in processing was so before the call. -/
  released : fates.Writes s.worker.settings.retry c.attempts → ∀ id f, fates.Spares id →
    c.scene.store.find? id = some f → f.status = .processing → s.store.find? id = some f

theorem poll_leaves (hidle : s.worker.busy = false) (hfetch : s.store.fetchFailure = none)
    (hordered : s.store.Ordered) : fates.Leaves s (fates.poll s).2 := by
  have hunchanged : ∀ id, fates.Spares id → id ∉ (fates.poll s).2.tried.map Event.id →
      (fates.poll s).2.scene.store.find? id = s.store.find? id := by
    intro id hspares hid
    obtain hfound | ⟨-, x, -, hmem, hxid, -⟩ := fates.poll_accounts hidle hfetch hspares
    · exact hfound
    · exact absurd (List.mem_map.2 ⟨x.event, hmem, hxid⟩) hid
  have hfind : ∀ e ∈ s.batch, s.store.find? e.id = some e := fun e he =>
    hordered.find?_of_mem (Store.of_mem_oldestDue he).1
  refine ⟨hunchanged, fun hforward e he hspares hnot => ?_,
    fun hwrites id f hspares hf hstatus => ?_⟩
  · -- The batch has no other event with that number.
    have hid : e.id ∉ (fates.poll s).2.tried.map Event.id := by
      intro hmem
      obtain ⟨d, hd, hdid⟩ := List.mem_map.1 hmem
      have hsame := hfind d ((fates.poll_tried hidle hfetch).subset hd)
      rw [hdid, hfind e he, Option.some_inj] at hsame
      exact hnot (hsame ▸ hd)
    have hnow := fates.poll_forward hidle hfetch hforward
    rw [hunchanged e.id hspares hid, hfind e he]
    exact ⟨rfl, Event.isDue_later (Store.of_mem_oldestDue he).2 hnow⟩
  · exact (fates.poll_accounts hidle hfetch hspares).not_processing hwrites hf hstatus

end Fates

/-- What a call comes to that is told to stop at a moment, beside what it would come to. -/
structure CleanStop (fates : Fates) (m : Moment) (s : Scene) : Prop where
  /-- Claims are tried from the beginning of the batch on, as without the stop. -/
  tried : (m.poll fates s).2.tried <+: (fates.poll s).2.tried
  batch : (fates.poll s).2.tried <+: s.batch
  /-- No claim is tried after the moment. If it comes in a dispatch, that is of the last event
  of which a claim is tried; if there is no such dispatch, the call is the same in all. -/
  last : match m with
    | .before => (m.poll fates s).2.tried = []
    | .during n =>
      (∀ x, (fates.poll s).2.attempts[n]? = some x →
          (m.poll fates s).2.tried.getLast? = some x.event) ∧
        ((fates.poll s).2.attempts[n]? = none → m.poll fates s = fates.poll s)
  /-- What was claimed is dispatched and settled as without the stop. -/
  attempts : (m.poll fates s).2.attempts = (fates.poll s).2.attempts.take m.begun
  /-- What it did not claim is left alone, and nothing is left in processing by it. -/
  leaves : fates.Leaves s (m.poll fates s).2

namespace Fates

variable (fates : Fates) {s : Scene}

variable {fates} in
theorem Leaves.of_stoppedAt {n : Nat} {c : Course} (h : (fates.stoppedAt n).Leaves s c) :
    fates.Leaves s c where
  unchanged id hspares := h.unchanged id (hspares.stoppedAt n)
  due hforward e he hspares := h.due (hforward.stoppedAt n) e he (hspares.stoppedAt n)
  released hwrites id f hspares := h.released (hwrites.stoppedAt n) id f (hspares.stoppedAt n)

/-- A worker that was told to stop before a call tries no claim in it. -/
theorem poll_of_stopped (hidle : s.worker.busy = false) (hfetch : s.store.fetchFailure = none)
    (hstopped : s.worker.cancelled = true) :
    (fates.poll s).2.tried = [] ∧ (fates.poll s).2.attempts = [] := by
  rw [fates.poll_of_work hidle hfetch (work_of_stopped hstopped s.batch _)]
  exact ⟨rfl, rfl⟩

theorem cleanStop_before (hidle : s.worker.busy = false) (hfetch : s.store.fetchFailure = none)
    (hordered : s.store.Ordered) : CleanStop fates .before s := by
  obtain ⟨htried, hattempts⟩ := fates.poll_of_stopped
    (s := { s with worker := s.worker.cancel }) hidle hfetch rfl
  have hleaves := fates.poll_leaves (s := { s with worker := s.worker.cancel })
    hidle hfetch hordered
  refine ⟨?_, fates.poll_tried hidle hfetch, htried, hattempts, hleaves.unchanged, hleaves.due,
    hleaves.released⟩
  show (fates.poll { s with worker := s.worker.cancel }).2.tried <+: (fates.poll s).2.tried
  rw [htried]
  exact List.nil_prefix

theorem cleanStop_during (n : Nat) (hidle : s.worker.busy = false)
    (hfetch : s.store.fetchFailure = none) (hordered : s.store.Ordered) :
    CleanStop fates (.during n) s := by
  have hbatch := fates.poll_tried hidle hfetch
  obtain ⟨result, full, hfull, hpoll⟩ := fates.poll_eq hidle hfetch
  obtain ⟨result', cut, hcut, hpoll'⟩ := (fates.stoppedAt n).poll_eq hidle hfetch
  have hleaves := ((fates.stoppedAt n).poll_leaves hidle hfetch hordered).of_stoppedAt
  obtain ⟨hshort, rfl, rfl⟩ | ⟨x, hx, hattempts, htried, hlast⟩ :=
    work_stoppedAt n (c := { scene := s.entered }) (Nat.zero_le n) hfull hcut
  · have hsame : (Moment.during n).poll fates s = fates.poll s := hpoll'.trans hpoll.symm
    have hnone : (fates.poll s).2.attempts[n]? = none := by
      rw [hpoll]
      exact List.getElem?_eq_none hshort
    have htake : (fates.poll s).2.attempts.take (n + 1) = (fates.poll s).2.attempts := by
      rw [hpoll]
      exact List.take_of_length_le (Nat.le_succ_of_le hshort)
    refine ⟨?_, hbatch, ⟨fun x hx => ?_, fun _ => hsame⟩, ?_, hleaves⟩
    · simp only [hsame, List.prefix_rfl]
    · rw [hnone] at hx
      cases hx
    · rw [hsame]
      exact htake.symm
  · have hsome : (fates.poll s).2.attempts[n]? = some x := by
      rw [hpoll]
      exact hx
    refine ⟨?_, hbatch, ⟨fun y hy => ?_, fun hnone => ?_⟩, ?_, hleaves⟩
    · rw [hpoll, Moment.poll, hpoll']
      exact htried
    · obtain rfl : x = y := Option.some_inj.1 (hsome.symm.trans hy)
      rw [Moment.poll, hpoll']
      exact hlast
    · rw [hsome] at hnone
      cases hnone
    · rw [hpoll, Moment.poll, hpoll']
      exact hattempts

/-- A stop is clean at every moment: before the cycle, or in any dispatch of it. -/
theorem poll_stopped (m : Moment) (hidle : s.worker.busy = false)
    (hfetch : s.store.fetchFailure = none) (hordered : s.store.Ordered) :
    CleanStop fates m s := by
  cases m with
  | before => exact fates.cleanStop_before hidle hfetch hordered
  | during n => exact fates.cleanStop_during n hidle hfetch hordered

end Fates

/-- A worker with two changes to deliver. -/
def Scene.two : Scene where
  store := .ofEvents [Bench.moving, Bench.hiring]
  now := .epoch
  worker := {}

/-- Every adapter takes the change over, and nothing else happens. -/
def Fate.smooth : Fate := ⟨fun _ s => (⟨true, "", []⟩, s), fun _ => .middle⟩

/-- The first of two changes is delivered although the worker is told to stop meanwhile; the second
one is left to the next cycle. -/
theorem Fates.poll_stopped_two :
    Scene.two.worker.busy = false ∧ Scene.two.store.fetchFailure = none ∧
      Scene.two.store.Ordered ∧
      let c := ((Moment.during 0).poll (fun _ => .smooth) Scene.two).2
      c.tried = [Bench.hiring] ∧ c.attempts.map Attempt.ended = [.ok .succeeded] ∧
        c.scene.store.find? 2 = some Bench.moving ∧ Bench.moving.isDue c.scene.now = true ∧
        ∀ f, c.scene.store.find? 1 = some f → f.status ≠ .processing := by
  have hordered : Scene.two.store.Ordered := Store.ordered_ofEvents _
  have h := poll_stopped (fun _ => .smooth) (.during 0) (s := Scene.two) rfl rfl hordered
  have hbatch : Scene.two.batch = [Bench.hiring, Bench.moving] := Bench.batch_two
  have hspares : ∀ id, Fates.Spares (fun _ => .smooth) id := fun _ _ _ _ => rfl
  have hcourse : ((Moment.during 0).poll (fun _ => .smooth) Scene.two).2.tried = [Bench.hiring] ∧
      ((Moment.during 0).poll (fun _ => .smooth) Scene.two).2.attempts.map Attempt.ended =
        [.ok .succeeded] ∧
      ∀ x ∈ ((Moment.during 0).poll (fun _ => .smooth) Scene.two).2.attempts,
        x.before.outcomeFailures = 0 ∧ x.result = .success := by
    rw [Moment.poll, poll_of_work _ (s := Scene.two) rfl rfl rfl, hbatch]
    decide +kernel
  obtain ⟨htried, hended, hattempts⟩ := hcourse
  have hdue := h.leaves.due (fun _ _ _ => Instant.le_refl _) Bench.moving (by simp [hbatch])
    (hspares _) (by rw [htried]; decide)
  refine ⟨rfl, rfl, hordered, htried, hended, hdue.1, hdue.2, fun f hf hprocessing => ?_⟩
  have hwrites : Fates.Writes (fun _ => .smooth) Scene.two.worker.settings.retry
      ((Moment.during 0).poll (fun _ => .smooth) Scene.two).2.attempts := by
    intro k x hx
    obtain ⟨hzero, hsuccess⟩ := hattempts x (List.mem_of_getElem? hx)
    exact ⟨hzero, fun message hmessage => by rw [hsuccess] at hmessage; cases hmessage⟩
  have hbefore := h.leaves.released hwrites 1 f (hspares 1) hf hprocessing
  rw [show Scene.two.store.find? 1 = some Bench.hiring from rfl, Option.some_inj] at hbefore
  rw [← hbefore] at hprocessing
  cases hprocessing

end Outbox
