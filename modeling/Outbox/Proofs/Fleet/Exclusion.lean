import Outbox.Proofs.Fleet.Invariant
import Mathlib.Data.Fintype.Basic

/-!
# One worker at a time

A claim keeps other workers away only until it runs out, so that an event is in the hands
of one worker at a time is a question of time. What decides it is that an outcome is written
before the claim runs out. In a run in which all workers do that, whoever holds a claim that
still lasts is the owner of the event (`Held`): no one can have claimed or reset the event in
the meantime, since it was neither due nor idle, and no one can have settled it, since that
takes a claim that lasts, and its holder would have been the owner.
-/

namespace Outbox.Fleet

variable {ι : Type} {s : Fleet ι}

/-- Every claim lasts that a worker holds. -/
def InTime (s : Fleet ι) : Prop := ∀ i c, s.Holds i c → s.now < c.leaseEnd

instance [Fintype ι] (s : Fleet ι) : Decidable s.InTime :=
  decidable_of_iff (∀ i, ∀ c ∈ (s.member i).notes.claim, s.now < c.leaseEnd) Iff.rfl

/-- A worker that has an outcome written in a step does it before its claim runs out. -/
def Punctual (s : Fleet ι) (m : Move ι) : Prop :=
  ∀ i answer chance c, m = .proceed i answer chance → (s.settling? i).isSome →
    s.Holds i c → s.now < c.leaseEnd

/-- Whoever holds a claim that lasts is the owner of the event. -/
def Held (s : Fleet ι) : Prop :=
  ∀ i c, s.Holds i c → s.now < c.leaseEnd → s.owner c.event.id = some i

theorem InTime.punctual (h : s.InTime) (m : Move ι) : s.Punctual m :=
  fun i _ _ c _ _ hc => h i c hc

/-- An event whose owner holds it under a claim that lasts is not due. -/
theorem Sound.not_due (h : s.Sound) {i : ι} {c : Claim} (hc : s.Holds i c)
    (hlasts : s.now < c.leaseEnd) (howns : s.owner c.event.id = some i) :
    ∃ f, s.store.find? c.event.id = some f ∧ f.status = .processing ∧
      f.nextRunAt = some c.leaseEnd ∧ f.claimExpired s.now = false ∧ f.isDue s.now = false := by
  have hexpired : (Store.claimed c.leaseEnd c.found).claimExpired s.now = false := by
    have hle : ¬ c.leaseEnd ≤ s.now := Instant.not_le.2 hlasts
    simp [Event.claimExpired, Store.claimed, hle]
  exact ⟨_, h.current i c hc howns, rfl, rfl, hexpired, hexpired⟩

/-- A worker that records an outcome in a punctual step holds a claim of the event, and is its
owner. -/
theorem Records.owner {m : Move ι} {i : ι} {e : Event} {result : AttemptResult}
    (hrecords : s.Records m i e result) (hs : s.Sound) (h : s.Held) (hm : s.Punctual m) :
    ∃ c, s.Holds i c ∧ c.event = e ∧ s.owner e.id = some i := by
  obtain ⟨answer, chance, d, rfl, hsettling, -⟩ := hrecords
  obtain ⟨c, ends, hc, rfl, -⟩ := hs.earned hsettling
  have hlasts : s.now < c.leaseEnd := hm i answer chance c rfl (by simp [hsettling]) hc
  exact ⟨c, hc, rfl, h i c hc hlasts⟩

variable [DecidableEq ι] {now : Instant} {adapters : List String} {limit : Span}
  {settings : ι → WorkerSettings}

/-- A punctual step keeps it so that whoever holds a claim that lasts is the owner. -/
theorem held_step (hs : s.Sound) (h : s.Held) {m : Move ι} (hm : s.Punctual m) :
    (s.step m).Held := by
  intro i c hc hlasts
  rcases holds_step hc with hbefore | hwins
  · have hlasted : s.now < c.leaseEnd := by
      have hnow := (s.frame_step m).1
      rw [← Instant.not_le] at hlasts ⊢
      exact fun hle => hlasts (Instant.le_trans hle hnow)
    have howns := h i c hbefore hlasted
    obtain ⟨f, hf, hstatus, -, hexpired, hdue⟩ := hs.not_due hbefore hlasted howns
    cases step_effect hs.ordered m c.event.id with
    | kept hfind howner => rw [howner, howns]
    | appended change hfree hfind howner => rw [howner, howns]
    | claimed hwins hid hholds =>
      -- The event is not due, so no one wins a claim of it.
      have hfound := hwins.found
      rw [hid, hf, Option.some.injEq] at hfound
      rw [hfound, hwins.due] at hdue
      cases hdue
    | settled hrecords hid houtcome hfind howner hfree =>
      -- Whoever records an outcome is the owner, and holds no claim afterwards.
      obtain ⟨d, -, -, howns'⟩ := hrecords.owner hs h hm
      rw [hid, howns, Option.some.injEq] at howns'
      subst howns'
      simp [Holds, hfree] at hc
    | reset hm hf' hidle hfind howner =>
      rw [hf, Option.some.injEq] at hf'
      subst hf'
      rw [hidle hstatus] at hexpired
      cases hexpired
  · exact hwins.owned

/-- In a punctual run whoever holds a claim that lasts is the owner of the event. -/
theorem held_run {moves : List (Move ι)}
    (h : Obeys Punctual (start now adapters limit settings) moves) :
    ((start now adapters limit settings).run moves).Held := by
  have hboth : ((start now adapters limit settings).run moves).Sound ∧
      ((start now adapters limit settings).run moves).Held :=
    h.induction (P := fun s => s.Sound ∧ s.Held)
      (fun s m hs hm => ⟨sound_step hs.1 m, held_step hs.1 hs.2 hm⟩)
      ⟨sound_start, fun _ _ hc => absurd hc not_holds_start⟩
  exact hboth.2

/-- A run in which every claim lasts as long as it is held is punctual. -/
theorem punctual_of_inTime {moves : List (Move ι)} (hs : s.InTime)
    (h : Obeys (fun s m => (s.step m).InTime) s moves) : Obeys Punctual s moves := by
  induction moves generalizing s with
  | nil => trivial
  | cons m rest ih => exact ⟨hs.punctual m, ih h.1 h.2⟩

/-- If every claim lasts as long as it is held, whatever the order of the steps, then at most
one worker holds a claim of an event, and a worker that is about to have an outcome written
finds the event processing under its own claim. -/
theorem exclusive {moves : List (Move ι)}
    (h : Obeys (fun s m => (s.step m).InTime) (start now adapters limit settings) moves) :
    let s := (start now adapters limit settings).run moves
    (∀ i j c d, s.Holds i c → s.Holds j d → c.event.id = d.event.id → i = j) ∧
      ∀ i e result, s.settling? i = some (e, result) →
        ∃ c f, s.Holds i c ∧ c.event = e ∧ s.store.find? e.id = some f ∧
          f.status = .processing ∧ f.nextRunAt = some c.leaseEnd := by
  intro s
  have hstart : (start now adapters limit settings).InTime :=
    fun _ _ hc => absurd hc not_holds_start
  have hsound : s.Sound := sound_run moves
  have hheld : s.Held := held_run (punctual_of_inTime hstart h)
  have hintime : s.InTime := h.induction (P := InTime) (fun _ _ _ hm => hm) hstart
  refine ⟨?_, ?_⟩
  · intro i j c d hc hd hid
    have hi := hheld i c hc (hintime i c hc)
    have hj := hheld j d hd (hintime j d hd)
    rw [hid, hj, Option.some.injEq] at hi
    exact hi.symm
  · intro i e result hsettling
    obtain ⟨c, ends, hc, rfl, -⟩ := hsound.earned hsettling
    obtain ⟨f, hf, hstatus, hnext, -⟩ :=
      hsound.not_due hc (hintime i c hc) (hheld i c hc (hintime i c hc))
    exact ⟨c, f, hc, rfl, hf, hstatus, hnext⟩

/-- A run in which both workers fetch an event, and the one that wins the claim has it
dispatched and is about to record the outcome. -/
def rivalry : List (Move Bool) :=
  [.append change, .begin false, .begin true, goes false true, goes true true,
    goes false true, goes true true, goes false true, goes false true]

theorem exclusive_rivalry :
    Obeys (fun s m => (s.step m).InTime) pair rivalry ∧
      (pair.run rivalry).settling? false = some (.ofMutation change 1 .epoch, .success) ∧
        ∃ c f, (pair.run rivalry).Holds false c ∧ c.event = .ofMutation change 1 .epoch ∧
          (pair.run rivalry).store.find? 1 = some f ∧ f.status = .processing ∧
            f.nextRunAt = some c.leaseEnd := by
  have hintime : Obeys (fun s m => (s.step m).InTime) pair rivalry := by decide +kernel
  have hsettling : (pair.run rivalry).settling? false =
      some (.ofMutation change 1 .epoch, .success) := by decide +kernel
  exact ⟨hintime, hsettling, (exclusive hintime).2 _ _ _ hsettling⟩

end Outbox.Fleet
