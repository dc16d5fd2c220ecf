import Outbox.Proofs.Fleet.Invariant

/-!
# The event log only grows

What an event says about its change is written once, when the event is appended: its number,
the change and the time. These `entries` of the log are all that audits and replays rely on.
Workers and operators change how the delivery stands and nothing else, so each step leaves
the entries as they are, or a producer adds one at the end, under a number above all others.

`append_only` is the law over whole runs: at any later moment the entries are the earlier ones
and some more after them. An append that fails adds nothing and uses up no number.
-/

namespace Outbox

namespace Event

/-- What an event says for good. -/
structure Entry where
  /-- The number of the event. -/
  id : Int
  /-- The change that it is about. -/
  change : Mutation
  /-- When it was appended. -/
  createdAt : Instant
  deriving DecidableEq

/-- What an event says for good. -/
def entry (e : Event) : Entry := ⟨e.id, e.mutation, e.createdAt⟩

@[simp] theorem entry_ofMutation (m : Mutation) (id : Int) (now : Instant) :
    (ofMutation m id now).entry = ⟨id, m, now⟩ := rfl

@[simp] theorem entry_reset (e : Event) : e.reset.entry = e.entry := rfl

end Event

theorem Outcome.entry_eq {p : RetryPolicy} {now : Instant} {chance : Chance} {e : Event}
    {result : AttemptResult} {d : Disposition} {g : Event → Event}
    (h : Outcome p now chance e result d g) (f : Event) : (g f).entry = f.entry := by
  cases h <;> rfl

namespace Store

/-- What the events of the log say for good, in the order of their numbers. -/
def entries (s : Store) : List Event.Entry := s.events.map Event.entry

@[simp] theorem entry_claimed (t : Instant) (e : Event) : (claimed t e).entry = e.entry := rfl

theorem entries_congr {s s' : Store} (h : s'.events = s.events) : s'.entries = s.entries := by
  rw [entries, entries, h]

/-- A map over the events that keeps what each says for good keeps the entries. -/
theorem entries_map {s s' : Store} {g : Event → Event} (h : s'.events = s.events.map g)
    (hg : ∀ e, (g e).entry = e.entry) : s'.entries = s.entries := by
  simp only [entries, h, List.map_map, Function.comp_def, hg]

theorem entries_modify (s : Store) (id : Int) {f : Event → Event}
    (hf : ∀ e, (f e).entry = e.entry) : (s.modify id f).entries = s.entries :=
  entries_map rfl (by intro e; split <;> simp [hf])

theorem entries_resetWhere (s : Store) (select : Event → Bool) :
    (s.resetWhere select).2.entries = s.entries :=
  entries_map rfl (by intro e; split <;> simp)

end Store

namespace Fleet

variable {ι : Type} [DecidableEq ι] {s : Fleet ι} {now : Instant} {adapters : List String}
  {limit : Span} {settings : ι → WorkerSettings}

/-- The step of a worker adds no entry and changes none. -/
theorem entries_proceed (s : Fleet ι) (i : ι) (answer : CallEnd SyncOutcome) (chance : Chance) :
    (s.step (.proceed i answer chance)).store.entries = s.store.entries := by
  obtain ⟨store, m, hevents, -, hstep⟩ | ⟨c, m, -, -, hstep⟩ |
    ⟨e, result, d, g, m, houtcome, -, -, hstep⟩ := s.step_proceed i answer chance
  · rw [hstep, store_setMember]
    exact Store.entries_congr hevents
  · rw [hstep, store_setMember]
    exact Store.entries_modify _ _ (Store.entry_claimed _)
  · rw [hstep, store_setMember]
    exact Store.entries_modify _ _ houtcome.entry_eq

/-- A step leaves the entries as they are, or a producer adds one at the end. -/
theorem entries_step (h : s.store.Ordered) (m : Move ι) :
    (s.step m).store.entries = s.store.entries ∨
      ∃ change, m = .append change ∧
        (s.step m).store.entries = s.store.entries ++ [⟨s.store.nextId, change, s.now⟩] := by
  cases m with
  | append change =>
    obtain ⟨-, -, hevents, -⟩ | ⟨-, hevents, -⟩ := s.store.append_cases s.now change
    · exact .inl (Store.entries_congr hevents)
    · rw [Store.place_eq_append h.bounded] at hevents
      exact .inr ⟨change, rfl, by simp [step, Store.entries, hevents]⟩
  | retryOne id =>
    refine .inl ?_
    obtain ⟨f, -, -, hr⟩ | ⟨why, hr⟩ := s.store.retryOne_cases s.now id
    · simpa only [step, hr] using Store.entries_modify _ _ Event.entry_reset
    · simp only [step, hr]
  | retryAllDead => exact .inl (s.store.entries_resetWhere _)
  | replay f hreplay => exact .inl (s.store.entries_resetWhere _)
  | proceed i answer chance => exact .inl (s.entries_proceed i answer chance)
  | advance | failAppends | failOutcomes | failFetch | cancel | begin => exact .inl rfl

/-- No run removes an entry or changes one. -/
theorem entries_run (h : s.store.Ordered) (moves : List (Move ι)) :
    s.store.entries <+: (s.run moves).store.entries := by
  refine (run_induction
    (P := fun t => t.store.Ordered ∧ s.store.entries <+: t.store.entries) ?_ ⟨h, List.prefix_rfl⟩
    moves).2
  rintro t m ⟨ht, hprefix⟩
  refine ⟨ordered_step ht m, ?_⟩
  obtain hkept | ⟨change, -, hadded⟩ := entries_step ht m
  · rwa [hkept]
  · exact hadded ▸ hprefix.trans (List.prefix_append _ _)

/-- No run removes an event. -/
theorem kept_run (h : s.store.Ordered) {id : Int} {f : Event} (hf : s.store.find? id = some f)
    (moves : List (Move ι)) : ∃ f', (s.run moves).store.find? id = some f' := by
  refine (run_induction
    (P := fun t => t.store.Ordered ∧ ∃ f', t.store.find? id = some f') ?_ ⟨h, f, hf⟩ moves).2
  rintro t m ⟨ht, g, hg⟩
  obtain ⟨g', hg', -⟩ := kept_step ht m hg
  exact ⟨ordered_step ht m, g', hg'⟩

/-- From any moment of any run to any later one, entries are added at the end of the log and
nothing else happens to them; and each event is found under its own number. An append that
succeeds then adds exactly the event of its change, under a number above all others, and one
that fails adds nothing and leaves the next number as it is. -/
theorem append_only (moves rest : List (Move ι)) :
    let before := (start now adapters limit settings).run moves
    let after := before.run rest
    before.store.entries <+: after.store.entries ∧
      (∀ e ∈ after.store.events, after.store.find? e.id = some e) ∧
      ∀ change,
        let next := (after.step (.append change)).store
        (∀ e, (after.store.append after.now change).1 = .ok e →
          e = .ofMutation change after.store.nextId after.now ∧
            (∀ d ∈ after.store.events, d.id < e.id) ∧
            next.events = after.store.events ++ [e] ∧ next.nextId = e.id + 1) ∧
        ∀ why, (after.store.append after.now change).1 = .error why →
          next.events = after.store.events ∧ next.nextId = after.store.nextId := by
  intro before after
  have hbefore : before.store.Ordered := (sound_run moves).ordered
  have hafter : after.store.Ordered :=
    run_induction (P := fun s => s.store.Ordered) (fun _ m h => ordered_step h m) hbefore rest
  refine ⟨entries_run hbefore rest, fun e he => hafter.find?_of_mem he, fun change => ?_⟩
  obtain ⟨why, hfails, hevents, hnext⟩ | ⟨hadds, hevents, hnext⟩ :=
    after.store.append_cases after.now change
  · exact ⟨fun e he => by simp [hfails] at he, fun _ _ => ⟨hevents, hnext⟩⟩
  · refine ⟨fun e he => ?_, fun why hwhy => by simp [hadds] at hwhy⟩
    obtain rfl : Event.ofMutation change after.store.nextId after.now = e := by
      simpa [hadds] using he
    rw [Store.place_eq_append hafter.bounded] at hevents
    exact ⟨rfl, hafter.bounded, hevents, hnext⟩

/-- An adapter refuses a change, and another change is appended after that. -/
theorem append_only_refused :
    let before := pair.run [.append change]
    let after := before.run (.begin true :: List.replicate 6 (goes true false))
    after.store.events.map Event.status = [.failed] ∧
      before.store.entries <+: after.store.entries ∧
      ∃ e, (after.store.append after.now change).1 = .ok e ∧ e.id = 2 ∧
        (after.step (.append change)).store.events = after.store.events ++ [e] := by
  intro before after
  obtain ⟨hgrown, -, happend⟩ := @append_only Bool _ .epoch ["payroll"] (.ofMillis 30000)
    (fun _ => {}) [.append change] (.begin true :: List.replicate 6 (goes true false))
  have hok : (after.store.append after.now change).1 = .ok (.ofMutation change 2 .epoch) := by
    decide +kernel
  obtain ⟨-, -, hadded, -⟩ := (happend change).1 _ hok
  exact ⟨by decide +kernel, hgrown, _, hok, rfl, hadded⟩

end Fleet

end Outbox
