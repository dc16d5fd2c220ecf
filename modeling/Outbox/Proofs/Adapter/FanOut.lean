import Outbox.Adapter.Scripted
import Outbox.Proofs.Dialogue
import Outbox.Proofs.Dispatch
import Mathlib.Data.Fintype.EquivFin
import Mathlib.Data.List.Nodup
import Mathlib.Data.List.Perm.Subperm

/-!
# Asking all adapters at once

`FanOut.run` asks all adapters, for a dispatch and for a check of their health alike. Each call
is a task of its own, and the tasks end when they end. An `Inquiry` is the dialogue of the one
who asks, and a `Survey` such a question under way: what is still to be done, the adapters that were
asked, and the tasks that have ended. Its steps are those of the one who asks and the ends of the
tasks, in any order. How a call ends is laid down by the adapter alone.

`Inquiry.follows_run` says where the one who asks stands, by a protocol that the rest of the inquiry
follows at every step (`Survey.Sound`). So a survey cannot get stuck and cannot go on for
ever, and that what it comes to does not depend on the order in which the tasks ended. The one
thing that an adapter has no say in is the number of its task, which is shown where the task
breaks down.
-/

namespace Outbox

/-! ### Surveys -/

/-- What one who asks adapters does in one atomic step. -/
inductive Inquiry.Query (ρ : Type) where
  /-- To begin the call of the adapter at a place, in a task that is given a number. -/
  | call (place : Nat) (q : ρ)
  /-- To wait for the end of a task. -/
  | await (task : Nat)

/-- What comes of it. -/
@[reducible] def Inquiry.Query.Answer (ρ β : Type) : Query ρ → Type
  | call .. => Nat
  | await _ => CallEnd β

/-- What one who asks adapters has still to do, one atomic step after the other. -/
abbrev Inquiry (ρ β : Type) : Type → Type := Dialogue (Inquiry.Query.Answer ρ β)

/-- What it takes to ask all adapters: nothing but to write down what is asked. -/
def Inquiry.host {ρ β : Type} : FanOut (Inquiry ρ β) ρ β Nat where
  call place q := .ask (.call place q) .done
  await task := .ask (.await task) .done

/-- An adapter that was asked. -/
structure Asked (ρ : Type) where
  /-- The place of the adapter. -/
  place : Nat
  /-- What it was asked. -/
  question : ρ
  /-- The number of the task in which it was called. -/
  task : Nat

/-- Adapters that are asked under a time limit: `react` lays down how each behaves. -/
structure Audience (ρ β : Type) where
  /-- What happens in the call of the adapter at a place. -/
  react : Nat → ρ → Reaction β
  /-- How long a call may take. -/
  limit : Span

namespace Audience

variable {ρ β : Type}

/-- How the call of an adapter ends. -/
def callEnd (a : Audience ρ β) (c : Asked ρ) : CallEnd β :=
  (a.react c.place c.question).callEnd a.limit c.task

end Audience

/-- A question to all adapters that is under way. -/
structure Survey (ρ β α : Type) where
  /-- What is still to be done by the one who asks. -/
  program : Inquiry ρ β α
  /-- The adapters that were asked, in order. -/
  asked : List (Asked ρ) := []
  /-- The tasks that have ended, in the order in which they did. -/
  ended : List Nat := []

namespace Survey

variable {ρ β α : Type}

/-- A step of a survey. -/
inductive Step (a : Audience ρ β) : Survey ρ β α → Survey ρ β α → Prop where
  /-- An adapter is called, in a task with a number that no task has. -/
  | asks {place : Nat} {q : ρ} {next : Nat → Inquiry ρ β α} {asked : List (Asked ρ)}
      {ended : List Nat} {task : Nat} (hnew : task ∉ asked.map Asked.task) :
      Step a ⟨.ask (.call place q) next, asked, ended⟩
        ⟨next task, asked ++ [⟨place, q, task⟩], ended⟩
  /-- A task ends. -/
  | ends {program : Inquiry ρ β α} {asked : List (Asked ρ)} {ended : List Nat} {task : Nat}
      (hmem : task ∈ asked.map Asked.task) (hopen : task ∉ ended) :
      Step a ⟨program, asked, ended⟩ ⟨program, asked, ended ++ [task]⟩
  /-- The one who asks learns how a call ended whose task has ended. -/
  | hears {next : CallEnd β → Inquiry ρ β α} {asked : List (Asked ρ)} {ended : List Nat}
      {c : Asked ρ} (hmem : c ∈ asked) (hended : c.task ∈ ended) :
      Step a ⟨.ask (.await c.task) next, asked, ended⟩ ⟨next (a.callEnd c), asked, ended⟩

/-- So many steps of a survey, one after the other. -/
inductive Steps (a : Audience ρ β) (s : Survey ρ β α) : Nat → Survey ρ β α → Prop where
  /-- None. -/
  | none : Steps a s 0 s
  /-- One more. -/
  | more {k : Nat} {t u : Survey ρ β α} : Steps a s k t → Step a t u → Steps a s (k + 1) u

/-- Whatever the order of its steps, the survey comes to an end, after so many of them at the
latest, and to a result that is right for those who were asked. -/
structure Settles (a : Audience ρ β) (s : Survey ρ β α) (n : Nat)
    (right : α → List (Asked ρ) → Prop) : Prop where
  /-- There are no more steps than that. -/
  bounded : ∀ k t, Steps a s k t → k ≤ n
  /-- As long as there is no result there is a next step. -/
  onward : ∀ k t, Steps a s k t → (∃ u, Step a t u) ∨ ∃ x, t.program = .done x
  /-- The result is right. -/
  result : ∀ k t x, Steps a s k t → t.program = .done x → right x t.asked

end Survey

/-! ### What the one who asks does -/

namespace Inquiry

variable {ρ β α γ : Type} (a : Audience ρ β)

/-- How far an inquiry is. -/
structure Progress (ρ : Type) where
  /-- The adapters that were asked. -/
  asked : List (Asked ρ)
  /-- How many steps may still be taken, those in which the tasks end included. -/
  left : Nat

/-- One who asks waits only for tasks of those that were asked, and takes so many steps at most. -/
def protocol : Protocol (Query.Answer ρ β) (Progress ρ) where
  May
    | s, .call .. => 2 ≤ s.left
    | s, .await task => 1 ≤ s.left ∧ ∃ c ∈ s.asked, c.task = task
  Leads
    | s, .call place q, task, t =>
      task ∉ s.asked.map Asked.task ∧ t = ⟨s.asked ++ [⟨place, q, task⟩], s.left - 2⟩
    | s, .await task, e, t =>
      (∃ c ∈ s.asked, c.task = task ∧ e = a.callEnd c) ∧ t = ⟨s.asked, s.left - 1⟩

/-- Those who are asked in tasks with these numbers, the first of them at a place. -/
def asks (q : ρ) : Nat → List Nat → List (Asked ρ)
  | _, [] => []
  | first, task :: tasks => ⟨first, q, task⟩ :: asks q (first + 1) tasks

theorem map_task_asks (q : ρ) (first : Nat) (tasks : List Nat) :
    (asks q first tasks).map Asked.task = tasks := by
  induction tasks generalizing first with
  | nil => rfl
  | cons task tasks ih => rw [asks, List.map_cons, ih]

theorem map_place_asks (q : ρ) (first : Nat) (tasks : List Nat) :
    (asks q first tasks).map Asked.place = List.range' first tasks.length := by
  induction tasks generalizing first with
  | nil => rfl
  | cons task tasks ih => rw [asks, List.map_cons, ih, List.length_cons, List.range'_succ]

theorem question_of_mem_asks {q : ρ} {first : Nat} {tasks : List Nat} {c : Asked ρ}
    (h : c ∈ asks q first tasks) : c.question = q := by
  induction tasks generalizing first with
  | nil => exact absurd h List.not_mem_nil
  | cons task tasks ih =>
    rcases List.mem_cons.1 h with rfl | h
    · rfl
    · exact ih h

/-- The calls of the adapters from a place on. -/
theorem follows_calls (q : ρ) (names : List String) (first : Nat) (asked : List (Asked ρ))
    (htasks : (asked.map Asked.task).Nodup) (n : Nat) :
    Dialogue.Follows (protocol a)
      (fun calls t => ∃ tasks : List Nat, tasks.length = names.length ∧
        calls = names.zip tasks ∧ t = ⟨asked ++ asks q first tasks, n⟩ ∧
          (t.asked.map Asked.task).Nodup)
      ((names.zipIdx first).mapM fun (name, place) => do
        return (name, ← (host : FanOut (Inquiry ρ β) ρ β Nat).call place q))
      ⟨asked, 2 * names.length + n⟩ := by
  induction names generalizing first asked with
  | nil => exact ⟨[], rfl, rfl, by simp [asks], htasks⟩
  | cons name names ih =>
    rw [List.zipIdx_cons, List.mapM_cons, List.length_cons]
    refine ⟨show 2 ≤ 2 * (names.length + 1) + n by omega, ?_⟩
    rintro task t ⟨hnew, rfl⟩
    have hleft : 2 * (names.length + 1) + n - 2 = 2 * names.length + n := by omega
    have htasks' : (List.map Asked.task (asked ++ [⟨first, q, task⟩])).Nodup := by
      rw [List.map_append, List.map_singleton, ← List.concat_eq_append]
      exact htasks.concat hnew
    have hrest := ih (first + 1) (asked ++ [⟨first, q, task⟩]) htasks'
    rw [← hleft] at hrest
    refine hrest.bind ?_
    rintro calls t ⟨tasks, hlength, rfl, rfl, hnodup⟩
    exact ⟨task :: tasks, congrArg Nat.succ hlength, rfl, by simp [asks], hnodup⟩

/-- The waits for those who were asked. -/
theorem follows_waits (tell : String → CallEnd β → γ) {names : List String}
    {cs asked : List (Asked ρ)} (hlength : cs.length = names.length) (hasked : cs ⊆ asked)
    (htasks : (asked.map Asked.task).Nodup) (n : Nat) :
    Dialogue.Follows (protocol a)
      (fun told t => t = ⟨asked, n⟩ ∧
        told = List.zipWith (fun name c => tell name (a.callEnd c)) names cs)
      ((host : FanOut (Inquiry ρ β) ρ β Nat).awaitAll tell (names.zip (cs.map Asked.task)))
      ⟨asked, names.length + n⟩ := by
  unfold FanOut.awaitAll
  induction names generalizing cs with
  | nil => exact ⟨by simp, rfl⟩
  | cons name names ih =>
    obtain ⟨c, cs, rfl⟩ := List.exists_cons_of_length_eq_add_one hlength
    obtain ⟨hc, hcs⟩ := List.cons_subset.1 hasked
    have hrest : cs.length = names.length := Nat.succ.inj hlength
    rw [List.map_cons, List.zip_cons_cons, List.mapM_cons, List.length_cons]
    refine ⟨⟨show 1 ≤ names.length + 1 + n by omega, c, hc, rfl⟩, ?_⟩
    rintro e t ⟨⟨d, hd, htask, rfl⟩, rfl⟩
    obtain rfl : d = c := List.inj_on_of_nodup_map htasks hd hc htask
    have hleft : names.length + 1 + n - 1 = names.length + n := by omega
    have hwaits := ih hrest hcs
    rw [← hleft] at hwaits
    refine hwaits.bind ?_
    rintro told t ⟨rfl, rfl⟩
    exact ⟨rfl, rfl⟩

/-- What has been told when all adapters have been asked. -/
def IsTold (tell : String → CallEnd β → γ) (names : List String) (q : ρ) (told : List γ)
    (asked : List (Asked ρ)) : Prop :=
  ∃ tasks, tasks.length = names.length ∧ asked = asks q 0 tasks ∧
    told = List.zipWith (fun name c => tell name (a.callEnd c)) names asked

/-- To ask all adapters is to call each of them once and to wait for the ends of these calls. -/
theorem follows_run (tell : String → CallEnd β → γ) (names : List String) (q : ρ) :
    Dialogue.Follows (protocol a) (fun told t => IsTold a tell names q told t.asked)
      (FanOut.run host tell names q) ⟨[], 3 * names.length⟩ := by
  have hbudget : 3 * names.length = 2 * names.length + (names.length + 0) := by omega
  rw [hbudget]
  refine (follows_calls a q names 0 [] .nil _).bind ?_
  rintro calls t ⟨tasks, hlength, rfl, rfl, htasks⟩
  have hcalled : (asks q 0 tasks).length = names.length := by
    rw [← List.length_map, map_task_asks, hlength]
  have hwaits := follows_waits a tell hcalled (List.Subset.refl _) htasks 0
  rw [map_task_asks] at hwaits
  refine hwaits.imp ?_
  rintro told t ⟨rfl, rfl⟩
  exact ⟨tasks, hlength, rfl, rfl⟩

end Inquiry

/-! ### What a survey keeps -/

namespace Survey

variable {ρ β α γ : Type} {a : Audience ρ β} {post : α → List (Asked ρ) → Prop}

/-- What holds after so many steps of a survey that takes at most `total`. -/
structure Sound (a : Audience ρ β) (post : α → List (Asked ρ) → Prop) (total k : Nat)
    (s : Survey ρ β α) : Prop where
  /-- What is still to be done follows on what was done, and so does the number of steps. -/
  follows : ∃ n, s.program.Follows (Inquiry.protocol a) (fun x t => post x t.asked) ⟨s.asked, n⟩ ∧
    k + n + s.asked.length = total + s.ended.length
  /-- Those tasks have ended in which adapters were called. -/
  ended : s.ended ⊆ s.asked.map Asked.task
  /-- No task ends twice. -/
  once : s.ended.Nodup

variable {total k : Nat} {s t : Survey ρ β α}

theorem sound_step (h : s.Sound a post total k) (hstep : Step a s t) :
    t.Sound a post total (k + 1) := by
  obtain ⟨⟨n, hfollows, hcount⟩, hended, honce⟩ := h
  cases hstep with
  | @asks place q next asked ended task hnew =>
    obtain ⟨hleft, hnext⟩ := hfollows
    have hleft : 2 ≤ n := hleft
    refine ⟨⟨n - 2, hnext task _ ⟨hnew, rfl⟩, ?_⟩, ?_, honce⟩
    · simp only [List.length_append, List.length_singleton] at hcount ⊢
      omega
    · rw [List.map_append]
      exact fun x hx => List.mem_append_left _ (hended hx)
  | @ends program asked ended task hmem hopen =>
    refine ⟨⟨n, hfollows, ?_⟩, ?_, ?_⟩
    · simp only [List.length_append, List.length_singleton] at hcount ⊢
      omega
    · exact List.append_subset.2 ⟨hended, by simpa using hmem⟩
    · rw [← List.concat_eq_append]
      exact honce.concat hopen
  | @hears next asked ended c hmem hend =>
    obtain ⟨⟨hleft, -⟩, hnext⟩ := hfollows
    have hleft : 1 ≤ n := hleft
    refine ⟨⟨n - 1, hnext _ _ ⟨⟨c, hmem, rfl, rfl⟩, rfl⟩, ?_⟩, hended, honce⟩
    simp only at hcount ⊢
    omega

theorem sound_steps (h : s.Sound a post total 0) (hsteps : Steps a s k t) :
    t.Sound a post total k := by
  induction hsteps with
  | none => exact h
  | more _ hstep ih => exact sound_step ih hstep

/-- No survey takes more steps than it may. -/
theorem Sound.le (h : s.Sound a post total k) : k ≤ total := by
  obtain ⟨n, -, hcount⟩ := h.follows
  have hended := (h.once.subperm h.ended).length_le
  rw [List.length_map] at hended
  omega

/-- A survey without a result can go on: the next adapter can be called, or the call that is
waited for can end or has ended. -/
theorem Sound.onward (h : s.Sound a post total k) :
    (∃ t, Step a s t) ∨ ∃ x, s.program = .done x := by
  obtain ⟨program, asked, ended⟩ := s
  obtain ⟨n, hfollows, -⟩ := h.follows
  cases program with
  | done x => exact .inr ⟨x, rfl⟩
  | ask q next =>
    cases q with
    | call place q =>
      obtain ⟨task, hnew⟩ := Infinite.exists_notMem_finset (asked.map Asked.task).toFinset
      exact .inl ⟨_, .asks fun hmem => hnew (List.mem_toFinset.2 hmem)⟩
    | await task =>
      obtain ⟨⟨-, c, hc, rfl⟩, -⟩ := hfollows
      by_cases hend : c.task ∈ ended
      · exact .inl ⟨_, .hears hc hend⟩
      · exact .inl ⟨_, .ends (List.mem_map_of_mem hc) hend⟩

/-- An inquiry that follows on nothing comes to an end, and to the result it should have. -/
theorem settles_of_follows {p : Inquiry ρ β α}
    (h : p.Follows (Inquiry.protocol a) (fun x t => post x t.asked) ⟨[], total⟩) :
    Settles a ⟨p, [], []⟩ total post := by
  have hstart : Sound a post total 0 ⟨p, [], []⟩ :=
    ⟨⟨total, h, by simp⟩, List.Subset.refl _, .nil⟩
  refine ⟨fun k t h => (sound_steps hstart h).le, fun k t h => (sound_steps hstart h).onward, ?_⟩
  intro k t x h hx
  obtain ⟨n, hfollows, -⟩ := (sound_steps hstart h).follows
  rw [hx] at hfollows
  exact hfollows

theorem Settles.imp {post' : α → List (Asked ρ) → Prop} (h : Settles a s total post)
    (hpost : ∀ x asked, post x asked → post' x asked) : Settles a s total post' :=
  ⟨h.bounded, h.onward, fun k t x hsteps hx => hpost x t.asked (h.result k t x hsteps hx)⟩

/-- A survey that settles comes to a result in the end. -/
theorem Settles.exists_result (h : Settles a s total post) :
    ∃ k t x, Steps a s k t ∧ t.program = .done x := by
  suffices hgoOn : ∀ left k t, k + left = total → Steps a s k t →
      ∃ k t x, Steps a s k t ∧ t.program = .done x from hgoOn total 0 s (Nat.zero_add _) .none
  -- The induction is on the number of steps that are left.
  intro left
  induction left with
  | zero =>
    intro k t hk hsteps
    obtain ⟨u, hu⟩ | ⟨x, hx⟩ := h.onward k t hsteps
    · exact absurd (h.bounded _ u (hsteps.more hu)) (by omega)
    · exact ⟨k, t, x, hsteps, hx⟩
  | succ left ih =>
    intro k t hk hsteps
    obtain ⟨u, hu⟩ | ⟨x, hx⟩ := h.onward k t hsteps
    · exact ih (k + 1) u (by omega) (hsteps.more hu)
    · exact ⟨k, t, x, hsteps, hx⟩

end Survey

/-! ### What has been told -/

namespace Inquiry

variable {ρ β γ : Type}

theorem getElem?_asks (q : ρ) (first : Nat) (tasks : List Nat) (i : Nat) :
    (asks q first tasks)[i]? = (tasks[i]?).map fun task => ⟨first + i, q, task⟩ := by
  induction tasks generalizing first i with
  | nil => rfl
  | cons task tasks ih =>
    cases i with
    | zero => rfl
    | succ i =>
      rw [asks, List.getElem?_cons_succ, List.getElem?_cons_succ, ih, Nat.add_right_comm,
        Nat.add_assoc]

/-- The adapters with these names were asked the same, each of them once, in their order. -/
structure IsAsked (names : List String) (q : ρ) (asked : List (Asked ρ)) : Prop where
  places : asked.map Asked.place = List.range names.length
  question : ∀ c ∈ asked, c.question = q

variable {a : Audience ρ β} {tell : String → CallEnd β → γ} {names : List String} {q : ρ}
  {told : List γ} {asked : List (Asked ρ)}

theorem IsTold.isAsked (h : IsTold a tell names q told asked) : IsAsked names q asked := by
  obtain ⟨tasks, hlength, rfl, -⟩ := h
  refine ⟨?_, fun c hc => question_of_mem_asks hc⟩
  rw [map_place_asks, hlength, List.range_eq_range']

theorem IsTold.length_eq (h : IsTold a tell names q told asked) : told.length = names.length := by
  obtain ⟨tasks, hlength, rfl, rfl⟩ := h
  have hasked : (asks q 0 tasks).length = names.length := by
    rw [← List.length_map, map_task_asks, hlength]
  rw [List.length_zipWith, hasked, Nat.min_self]

/-- What is told of an adapter depends on how it behaves, and on nothing that another does. -/
theorem IsTold.getElem? (h : IsTold a tell names q told asked) {i : Nat} {x : γ}
    (hx : told[i]? = some x) : ∃ name task, names[i]? = some name ∧
      x = tell name ((a.react i q).callEnd a.limit task) := by
  obtain ⟨tasks, -, rfl, rfl⟩ := h
  rw [List.getElem?_zipWith_eq_some] at hx
  obtain ⟨name, c, hname, hc, rfl⟩ := hx
  rw [getElem?_asks, Option.map_eq_some_iff] at hc
  obtain ⟨task, -, rfl⟩ := hc
  exact ⟨name, task, hname, by rw [Audience.callEnd, Nat.zero_add]⟩

end Inquiry

/-! ### Dispatches and checks -/

namespace Reaction

/-- The answer comes within the limit and is a good one. -/
def IsGood {β : Type} (good : β → Bool) (limit : Span) (r : Reaction β) : Prop :=
  ∃ after x, r = .answer after x ∧ after ≤ limit ∧ good x = true

variable {limit : Span} {task : Nat}

theorem isSuccess_callEnd {r : Reaction SyncOutcome} :
    (r.callEnd limit task).IsSuccess ↔ r.IsGood SyncOutcome.success limit := by
  cases r with
  | answer after x => by_cases h : after ≤ limit <;> simp [callEnd, CallEnd.IsSuccess, IsGood, h]
  | raise e => simp [callEnd, CallEnd.IsSuccess, IsGood]
  | panic message => simp [callEnd, CallEnd.IsSuccess, IsGood]

theorem healthy_ofCall_callEnd {name : String} {r : Reaction Health} :
    (HealthReport.ofCall name limit (r.callEnd limit task)).healthy = true ↔
      r.IsGood Health.healthy limit := by
  cases r with
  | answer after x => by_cases h : after ≤ limit <;> simp [callEnd, HealthReport.ofCall, IsGood, h]
  | raise e => simp [callEnd, HealthReport.ofCall, IsGood]
  | panic message => simp [callEnd, HealthReport.ofCall, IsGood]

end Reaction

namespace DispatchResult

theorem outcomes_ofOutcomes (outcomes : List AdapterOutcome) :
    (ofOutcomes outcomes).outcomes = outcomes := by
  unfold ofOutcomes
  split <;> rfl

theorem success_ofOutcomes {outcomes : List AdapterOutcome} :
    (ofOutcomes outcomes).success = true ↔ ∀ o ∈ outcomes, o.result = .success := by
  rw [← attempt_ofOutcomes, attempt]
  split <;> simp [*]

theorem message_ofOutcomes {outcomes : List AdapterOutcome}
    (h : (ofOutcomes outcomes).success = false) :
    (ofOutcomes outcomes).message = String.intercalate "; " (failures outcomes) := by
  revert h
  unfold ofOutcomes
  split <;> simp [none]

end DispatchResult

/-- A dispatch has come to what it should: every adapter was asked once, and the result has an
entry for every adapter, in their order. -/
structure Dispatched (a : Audience SyncRequest SyncOutcome) (names : List String) (r : SyncRequest)
    (d : DispatchResult) (asked : List (Asked SyncRequest)) : Prop where
  asked : Inquiry.IsAsked names r asked
  length : d.outcomes.length = names.length
  /-- An entry is what the adapter at its place makes of it; the number of a task is shown only
  where the task breaks down. -/
  entry : ∀ i o, d.outcomes[i]? = some o → ∃ name task, names[i]? = some name ∧
    o = AdapterOutcome.ofCall a.limit name ((a.react i r).callEnd a.limit task)
  entry_success : ∀ i o, d.outcomes[i]? = some o →
    (o.result = .success ↔ (a.react i r).IsGood SyncOutcome.success a.limit)
  success : d.success = true ↔ ∀ o ∈ d.outcomes, o.result = .success
  message : d.success = false →
    d.message = String.intercalate "; " (d.outcomes.filterMap fun o => o.result.failure?)

/-- A check has come to what it should: every adapter was asked once, and there is a report for
every adapter, in their order. -/
structure Checked (a : Audience Unit Health) (names : List String) (reports : List HealthReport)
    (asked : List (Asked Unit)) : Prop where
  asked : Inquiry.IsAsked names () asked
  length : reports.length = names.length
  /-- A report is what the adapter at its place makes of it. -/
  entry : ∀ i o, reports[i]? = some o → ∃ name task, names[i]? = some name ∧
    o = HealthReport.ofCall name a.limit ((a.react i ()).callEnd a.limit task)
  entry_healthy : ∀ i o, reports[i]? = some o →
    (o.healthy = true ↔ (a.react i ()).IsGood Health.healthy a.limit)

theorem Inquiry.IsTold.dispatched {a : Audience SyncRequest SyncOutcome} {names : List String}
    {r : SyncRequest} {outcomes : List AdapterOutcome} {asked : List (Asked SyncRequest)}
    (h : IsTold a (AdapterOutcome.ofCall a.limit) names r outcomes asked) :
    Dispatched a names r (.ofOutcomes outcomes) asked := by
  have houtcomes := DispatchResult.outcomes_ofOutcomes outcomes
  refine ⟨h.isAsked, ?_, ?_, ?_, ?_, ?_⟩
  · rw [houtcomes, h.length_eq]
  · rw [houtcomes]
    exact fun i o ho => h.getElem? ho
  · rw [houtcomes]
    intro i o ho
    obtain ⟨name, task, -, rfl⟩ := h.getElem? ho
    rw [AdapterOutcome.ofCall, AttemptResult.ofCall_eq_success, Reaction.isSuccess_callEnd]
  · rw [houtcomes, DispatchResult.success_ofOutcomes]
  · rw [houtcomes]
    exact DispatchResult.message_ofOutcomes

theorem Inquiry.IsTold.checked {a : Audience Unit Health} {names : List String}
    {reports : List HealthReport} {asked : List (Asked Unit)}
    (h : IsTold a (HealthReport.ofCall · a.limit) names () reports asked) :
    Checked a names reports asked := by
  refine ⟨h.isAsked, h.length_eq, fun i o ho => h.getElem? ho, ?_⟩
  intro i o ho
  obtain ⟨name, task, -, rfl⟩ := h.getElem? ho
  exact Reaction.healthy_ofCall_callEnd

/-- However adapters behave when they are asked to sync or for their health, and in whatever order
their tasks end, a dispatch and a check come to an end, each has asked every adapter once, and
what they say of an adapter is due to that adapter alone. -/
theorem fanOut_isolates (names : List String) (limit : Span) (r : SyncRequest)
    (sync : Nat → SyncRequest → Reaction SyncOutcome) (health : Nat → Unit → Reaction Health) :
    Survey.Settles ⟨sync, limit⟩ ⟨DispatchHost.run Inquiry.host names limit r, [], []⟩
        (3 * names.length) (Dispatched ⟨sync, limit⟩ names r) ∧
      Survey.Settles ⟨health, limit⟩ ⟨HealthHost.run Inquiry.host names limit, [], []⟩
        (3 * names.length) (Checked ⟨health, limit⟩ names) := by
  constructor
  · have hrun := Inquiry.follows_run ⟨sync, limit⟩ (AdapterOutcome.ofCall limit) names r
    refine Survey.settles_of_follows (hrun.bind ?_)
    intro outcomes t h
    exact h.dispatched
  · have hrun := Inquiry.follows_run ⟨health, limit⟩ (HealthReport.ofCall · limit) names ()
    refine Survey.settles_of_follows (hrun.imp ?_)
    intro reports t h
    exact h.checked

end Outbox
