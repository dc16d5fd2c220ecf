import Outbox.Proofs.Fleet.Step

/-!
# What holds at every moment

Whatever order the steps are taken in, a fleet stays `Sound`: the log is ordered, every
worker is where its cycle has led it, the events of its batch are still in the log with the
changes that they are about, and an event whose owner still holds it is just as the owner's
claim has left it. No assumption about time is made here; a claim may run out, and then be
taken over by another worker.
-/

namespace Outbox

/-! ### Where a worker is in its cycle -/

namespace Member

variable {adapters : List String} {limit : Span} {m : Member}
  {p q : Program (Except DeliveryError CycleReport)}

/-- The rest of the worker's cycle is orderly, and between two cycles it holds no claim. -/
structure Orderly (adapters : List String) (limit : Span) (m : Member) : Prop where
  /-- A cycle is in progress as long as the worker is busy. -/
  busy : m.worker.busy = m.program.isSome
  /-- Between two cycles the worker holds no claim. -/
  idle : m.program = none → m.notes.claim = none
  /-- What is left of a cycle is orderly. -/
  course : ∀ p, m.program = some p →
    p.Orderly adapters limit (fun _ n => n.claim = none) m.notes

theorem Orderly.begin (h : m.Orderly adapters limit) :
    (m.begin (Program.cycle adapters limit)).Orderly adapters limit := by
  have hbusy := h.busy
  unfold Member.begin
  cases hp : m.program with
  | some p =>
    rw [hp, Option.isSome_some] at hbusy
    simp only [Worker.enter, hbusy, if_true]
    refine ⟨rfl, nofun, ?_⟩
    rintro q ⟨⟩
    exact h.course p hp
  | none =>
    rw [hp, Option.isSome_none] at hbusy
    simp only [Worker.enter, hbusy, Bool.false_eq_true, if_false]
    refine ⟨rfl, nofun, ?_⟩
    rintro p ⟨⟩
    exact Program.orderly_cycle adapters limit m.notes (h.idle hp)

theorem Orderly.finish (h : m.Orderly adapters limit)
    {result : Except DeliveryError CycleReport} (hp : m.program = some (.done result)) :
    (m.finish result).Orderly adapters limit :=
  ⟨rfl, fun _ => h.course _ hp, nofun⟩

theorem Orderly.goOn (h : m.Orderly adapters limit) (hp : m.program = some p) {n : Notes}
    (hq : q.Orderly adapters limit (fun _ n => n.claim = none) n) :
    (m.goOn q n).Orderly adapters limit := by
  refine ⟨?_, nofun, ?_⟩
  · have hbusy := h.busy
    rw [hp] at hbusy
    exact hbusy
  · rintro p ⟨⟩
    exact hq

theorem Orderly.breakDown : m.breakDown.Orderly adapters limit := ⟨rfl, fun _ => rfl, nofun⟩

end Member

namespace Fleet

variable {ι : Type} {s : Fleet ι} {now : Instant} {adapters : List String} {limit : Span}
  {settings : ι → WorkerSettings}

/-! ### The invariant -/

/-- What holds of a fleet at every moment. -/
structure Sound (s : Fleet ι) : Prop where
  /-- The log is ordered. -/
  ordered : s.store.Ordered
  /-- Every worker is where its cycle has led it. -/
  orderly : ∀ i, (s.member i).Orderly s.adapters s.limit
  /-- The events of every batch are in the log with the changes that they are about. -/
  known : ∀ i, ∀ e ∈ (s.member i).notes.batch,
    ∃ f, s.store.find? e.id = some f ∧ f.mutation = e.mutation
  /-- What the owner holds is as its claim has left it. -/
  current : ∀ i c, s.Holds i c → s.owner c.event.id = some i →
    s.store.find? c.event.id = some (Store.claimed c.leaseEnd c.found)

theorem sound_start : (start now adapters limit settings).Sound where
  ordered := Store.ordered_empty
  orderly _ := ⟨rfl, fun _ => rfl, nofun⟩
  known _ _ he := absurd he List.not_mem_nil
  current _ _ hc := by cases hc

/-- A worker that is about to have an outcome written holds a claim of the event, and the
outcome is what the dispatch of the event came to. -/
theorem Sound.earned (h : s.Sound) {i : ι} {e : Event} {result : AttemptResult}
    (hsettling : s.settling? i = some (e, result)) :
    (s.member i).notes.Earned s.adapters s.limit e result := by
  obtain ⟨next, hp⟩ := settling?_eq_some.1 hsettling
  exact ((h.orderly i).course _ hp).1

variable [DecidableEq ι]

/-- Only an event of the batch is claimed. -/
theorem Sound.mem_batch_of_wins (h : s.Sound) {m : Move ι} {c : Claim} (hwins : s.Wins m i c) :
    c.event ∈ (s.member i).notes.batch := by
  obtain ⟨answer, chance, next, -, hp⟩ := hwins.asked
  exact ((h.orderly i).course _ hp).1.2

/-! ### What a step leaves as it is -/

/-- The step of a worker takes no time, and changes neither the adapters nor the time limit. -/
theorem frame_proceed (s : Fleet ι) (i : ι) (answer : CallEnd SyncOutcome) (chance : Chance) :
    (s.step (.proceed i answer chance)).now = s.now ∧
      (s.step (.proceed i answer chance)).adapters = s.adapters ∧
      (s.step (.proceed i answer chance)).limit = s.limit := by
  obtain ⟨store, m, -, -, h⟩ | ⟨c, m, -, -, h⟩ | ⟨e, result, d, g, m, -, -, -, h⟩ :=
    s.step_proceed i answer chance <;>
    simp [h]

/-- No step turns the clock back, or changes the adapters or the time limit. -/
theorem frame_step (s : Fleet ι) (m : Move ι) :
    s.now ≤ (s.step m).now ∧ (s.step m).adapters = s.adapters ∧ (s.step m).limit = s.limit := by
  cases m with
  | advance t =>
    refine ⟨?_, rfl, rfl⟩
    simp only [step]
    split
    · assumption
    · exact s.now.le_refl
  | retryOne id =>
    obtain ⟨f, -, -, hr⟩ | ⟨why, hr⟩ := s.store.retryOne_cases s.now id <;>
      simpa only [step, hr, and_true] using s.now.le_refl
  | proceed i answer chance =>
    obtain ⟨hnow, hframe⟩ := s.frame_proceed i answer chance
    exact ⟨by rw [hnow]; exact s.now.le_refl, hframe⟩
  | _ => exact ⟨s.now.le_refl, rfl, rfl⟩

theorem ordered_step (h : s.store.Ordered) (m : Move ι) : (s.step m).store.Ordered := by
  cases m with
  | append change => exact h.append s.now change
  | retryOne id =>
    obtain ⟨f, -, -, hr⟩ | ⟨why, hr⟩ := s.store.retryOne_cases s.now id
    · simpa only [step, hr] using h.modify Event.id_reset
    · simpa only [step, hr] using h
  | retryAllDead => exact h.resetWhere _
  | replay f hreplay => exact h.resetWhere _
  | failAppends count => exact h.congr rfl rfl
  | failOutcomes count => exact h.congr rfl rfl
  | failFetch why => exact h.congr rfl rfl
  | advance | cancel | begin => exact h
  | proceed i answer chance =>
    obtain ⟨store, m, hevents, hnext, hstep⟩ | ⟨c, m, -, -, hstep⟩ |
      ⟨e, result, d, g, m, houtcome, -, -, hstep⟩ := s.step_proceed i answer chance
    · rw [hstep, store_setMember]
      exact h.congr hevents hnext
    · rw [hstep, store_setMember]
      exact h.modify (Store.id_claimed _)
    · rw [hstep, store_setMember]
      exact h.modify houtcome.id_eq

/-- An event stays in the log, and with it the change that it is about. -/
theorem kept_step (h : s.store.Ordered) (m : Move ι) {id : Int} {f : Event}
    (hf : s.store.find? id = some f) :
    ∃ f', (s.step m).store.find? id = some f' ∧ f'.mutation = f.mutation := by
  cases step_effect h m id with
  | kept hfind howner => exact ⟨f, by rw [hfind, hf], rfl⟩
  | appended change hfree hfind howner => simp [hfree] at hf
  | claimed hwins hid hholds =>
    subst hid
    rw [hwins.found, Option.some.injEq] at hf
    exact ⟨_, hwins.stored, by rw [Store.mutation_claimed, hf]⟩
  | settled hrecords hid houtcome hfind howner hfree =>
    exact ⟨_, by rw [hfind, hf, Option.map_some], houtcome.mutation_eq f⟩
  | reset hm hf' hidle hfind howner =>
    rw [hf', Option.some.injEq] at hf
    exact ⟨_, hfind, by rw [Event.mutation_reset, hf]⟩

/-! ### Every step keeps it -/

/-- The step of a worker leaves it where its cycle has led it. -/
theorem orderly_proceed {i : ι} (h : (s.member i).Orderly s.adapters s.limit)
    (answer : CallEnd SyncOutcome) (chance : Chance) :
    ((s.step (.proceed i answer chance)).member i).Orderly s.adapters s.limit := by
  cases hp : (s.member i).program with
  | none => rwa [step_idle hp]
  | some p =>
    cases p with
    | done result =>
      rw [step_done hp, member_setMember_self]
      exact h.finish hp
    | ask q next =>
      obtain ⟨-, hnext⟩ := h.course _ hp
      cases q with
      | call place r =>
        rw [step_call hp, member_setMember_self]
        exact h.goOn hp (hnext () _ rfl)
      | await place =>
        rw [step_await hp, member_setMember_self]
        exact h.goOn hp (hnext answer _ rfl)
      | fetch =>
        obtain ⟨a, store, -, hstep⟩ := step_fetch hp answer chance
        rw [hstep, member_setMember_self]
        exact h.goOn hp (hnext a _ rfl)
      | claim e =>
        obtain ⟨c, rfl, -, hstep⟩ | ⟨a, ha, -, hstep⟩ := step_claim hp answer chance
        · rw [hstep, member_setMember_self]
          exact h.goOn hp (hnext .claimed _ (.inl ⟨rfl, c, rfl, rfl⟩))
        · rw [hstep, member_setMember_self]
          exact h.goOn hp (hnext a _ (.inr ⟨ha, rfl⟩))
      | settle e result =>
        obtain ⟨-, hstep⟩ | ⟨why, -, hstep⟩ | ⟨d, g, -, -, hstep⟩ :=
          step_settle hp answer chance
        · rw [hstep, member_setMember_self]
          exact Member.Orderly.breakDown
        · rw [hstep, member_setMember_self]
          exact h.goOn hp (hnext _ _ rfl)
        · rw [hstep, member_setMember_self]
          exact h.goOn hp (hnext d _ rfl)

theorem orderly_step (h : ∀ i, (s.member i).Orderly s.adapters s.limit) (m : Move ι) (j : ι) :
    ((s.step m).member j).Orderly (s.step m).adapters (s.step m).limit := by
  rw [(s.frame_step m).2.1, (s.frame_step m).2.2]
  cases m with
  | retryOne id =>
    obtain ⟨f, -, -, hr⟩ | ⟨why, hr⟩ := s.store.retryOne_cases s.now id <;>
      simpa only [step, hr] using h j
  | cancel i =>
    by_cases hj : j = i
    · subst hj
      simpa only [step, member_setMember_self] using ⟨(h j).busy, (h j).idle, (h j).course⟩
    · simpa only [step, member_setMember_of_ne hj] using h j
  | begin i =>
    by_cases hj : j = i
    · subst hj
      simpa only [step, member_setMember_self] using (h j).begin
    · simpa only [step, member_setMember_of_ne hj] using h j
  | proceed i answer chance =>
    by_cases hj : j = i
    · subst hj
      exact orderly_proceed (h j) answer chance
    · rw [member_proceed_of_ne hj answer chance]
      exact h j
  | _ => exact h j

theorem known_step (h : s.Sound) (m : Move ι) (i : ι) {e : Event}
    (he : e ∈ ((s.step m).member i).notes.batch) :
    ∃ f, (s.step m).store.find? e.id = some f ∧ f.mutation = e.mutation := by
  have hknown : ∃ f, s.store.find? e.id = some f ∧ f.mutation = e.mutation := by
    rcases batch_step he with he | he
    · exact h.known i e he
    · exact ⟨e, h.ordered.find?_of_mem he, rfl⟩
  obtain ⟨f, hf, hmutation⟩ := hknown
  obtain ⟨f', hf', hkept⟩ := kept_step h.ordered m hf
  exact ⟨f', hf', hkept.trans hmutation⟩

theorem current_step (h : s.Sound) (m : Move ι) {i : ι} {c : Claim} (hc : (s.step m).Holds i c)
    (howns : (s.step m).owner c.event.id = some i) :
    (s.step m).store.find? c.event.id = some (Store.claimed c.leaseEnd c.found) := by
  rcases holds_step hc with hbefore | hwins
  · cases step_effect h.ordered m c.event.id with
    | kept hfind howner =>
      rw [howner] at howns
      rw [hfind]
      exact h.current i c hbefore howns
    | appended change hfree hfind howner =>
      rw [howner] at howns
      simp [h.current i c hbefore howns] at hfree
    | claimed hwins hid hholds =>
      -- The worker that wins the claim becomes the owner, and it holds one claim only.
      have howner := hwins.owned
      rw [hid, howns, Option.some.injEq] at howner
      subst howner
      rw [Holds, hc, Option.some.injEq] at hholds
      subst hholds
      exact hwins.stored
    | settled hrecords hid houtcome hfind howner hfree => simp [howner] at howns
    | reset hm hf hidle hfind howner => simp [howner] at howns
  · exact hwins.stored

/-- Every step keeps a fleet sound. -/
theorem sound_step (h : s.Sound) (m : Move ι) : (s.step m).Sound where
  ordered := ordered_step h.ordered m
  orderly := orderly_step h.orderly m
  known i _ := known_step h m i
  current _ _ := current_step h m

/-- A fleet is sound after every run. -/
theorem sound_run (moves : List (Move ι)) :
    ((start now adapters limit settings).run moves).Sound :=
  run_induction (P := Sound) (fun _ m h => sound_step h m) sound_start moves

/-- What holds at the start, and is kept by every step of a sound fleet, holds after every
run. -/
theorem start_induction {P : Fleet ι → Prop} (hstart : P (start now adapters limit settings))
    (hstep : ∀ s m, s.Sound → P s → P (s.step m)) (moves : List (Move ι)) :
    P ((start now adapters limit settings).run moves) :=
  (run_induction (P := fun s => s.Sound ∧ P s)
    (fun s m h => ⟨sound_step h.1 m, hstep s m h.1 h.2⟩) ⟨sound_start, hstart⟩ moves).2

end Fleet

end Outbox
