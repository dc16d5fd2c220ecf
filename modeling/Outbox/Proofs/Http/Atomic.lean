import Mathlib.Data.List.TakeWhile
import Outbox.Proofs.Http.Application
import Outbox.Proofs.Store.Lookup
import Outbox.Proofs.Text.Numeral

/-!
# Errors of the interface are atomic

An answer that tells of an error, other than that the time was up, comes of a request that has
done nothing: no event was appended or changed, no number was used up and no adapter was called.
It may be refused at any of the places where it is read, or by the event log at the end of all
further tries; each of them is passed without a trace. A request that only reads leaves none in
any case. `errors_atomic` says so for every request, and says how the reset of one event is
answered.
-/

namespace Outbox

namespace Http

/-! ### What requests ask for -/

namespace Call

/-- The call only asks. -/
def IsReading : Call → Prop
  | health | live | integrations | list .. | stats => True
  | retry _ | retryDead | replay _ | publish _ => False

/-- A request to read, if it is understood, comes to a call that only asks. -/
theorem isReading_of_ofRequest {r : Request} {call : Call}
    (hmethod : r.method = "GET" ∨ r.method = "HEAD") (hcall : ofRequest r = .ok call) :
    call.IsReading := by
  have hpost : r.method ≠ "POST" := by
    rcases hmethod with h | h <;> simp [h]
  have hquery : ∀ query, ofQuery query = .ok call → call.IsReading := by
    intro query h
    unfold ofQuery ListQuery.call at h
    split at h
    · simp at h
    · next q hq =>
      cases hstatus : q.wantedStatus with
      | error e => simp [hstatus, Except.map, Except.mapError] at h
      | ok status =>
        simp only [hstatus, Except.map, Except.mapError, Except.ok.injEq] at h
        exact h ▸ trivial
  unfold ofRequest at hcall
  split at hcall
  · simp at hcall
  · next route hroute =>
    split at hcall
    · cases route <;> simp only [ofRead, Except.ok.injEq, reduceCtorEq] at hcall
      case events => exact hquery _ hcall
      all_goals exact hcall ▸ trivial
    · rw [if_neg (by simp [hpost])] at hcall
      simp at hcall

end Call

namespace Request

/-- The request posts to the path under which the event with a number is reset. The number may
be any of 64 bits, written in any way. -/
structure Retries (r : Request) (id : Int) : Prop where
  /-- It posts. -/
  method : r.method = "POST"
  /-- The last segment of the path spells the number. -/
  path : ∃ segment, r.path = Route.retryPath ++ segment ∧ Digits.Spells segment id
  /-- The number is in range. -/
  inRange : minId ≤ id ∧ id ≤ maxId

end Request

/-- The number may be written as its own numeral. -/
theorem Request.retries_toString {id : Int} (h : minId ≤ id ∧ id ≤ maxId) :
    Retries { method := "POST", target := "/events/retry/" ++ toString id } id := by
  have hnumeral := Digits.numeral_toString id
  have hkept : ∀ sep : Char, sep.isDigit = false → sep ∉ ['+', '-'] → sep ∉ Route.retryPath →
      (Route.retryPath ++ (toString id).toList).takeWhile (· ≠ sep) =
        Route.retryPath ++ (toString id).toList := by
    intro sep hdigit hsign hpath
    have hmem := hnumeral.not_mem hdigit (by simp_all) (by simp_all)
    rw [List.takeWhile_eq_self_iff]
    intro c hc
    have hne : c ≠ sep := by
      rintro rfl
      exact (List.mem_append.1 hc).elim hpath hmem
    simpa using hne
  have htarget : ("/events/retry/" ++ toString id).toList =
      Route.retryPath ++ (toString id).toList := String.toList_append
  refine ⟨rfl, ⟨(toString id).toList, ?_, Digits.spells_toString id⟩, h⟩
  rw [Request.path, Request.visible, htarget, hkept '#' (by decide) (by decide) (by decide),
    hkept '?' (by decide) (by decide) (by decide)]

theorem Route.ofPath?_retryPath {segment : List Char} (hne : segment ≠ [])
    (hslash : '/' ∉ segment) :
    ofPath? (retryPath ++ segment) = some (.retry segment) := by
  -- No other route is spelled with the same letters so far.
  have hother : ∀ s : String, retryPath.isPrefixOf s.toList = false →
      String.ofList (retryPath ++ segment) ≠ s := by
    rintro _ h rfl
    rw [String.toList_ofList, List.isPrefixOf_iff_prefix.2 (List.prefix_append ..)] at h
    cases h
  unfold ofPath?
  split
  case h_8 =>
    simp [hne, hslash]
  all_goals exact absurd ‹_› (hother _ (by decide))

/-- Such a request is understood. -/
theorem Request.Retries.ofRequest_eq {r : Request} {id : Int} (h : r.Retries id) :
    Call.ofRequest r = .ok (.retry id) := by
  obtain ⟨segment, hpath, hspells⟩ := h.path
  obtain ⟨s, hdecode, hread⟩ := hspells.integer?_eq
  have hroute := Route.ofPath?_retryPath hspells.ne_nil hspells.not_slash_mem
  have hsegment : Call.ofSegment segment = .ok (.retry id) := by
    simp [Call.ofSegment, hdecode, hread, Option.filter, h.inRange]
  simp [Call.ofRequest, hpath, hroute, h.method, Route.isPostable, Call.ofPost, hsegment]

/-! ### What calls leave as it is -/

/-- The response tells of an error. -/
def Response.IsError (r : Response) : Prop := 400 ≤ r.status

/-- Something failed. -/
def IsFailure {α : Type} (x : Except StoreError α) : Prop := ∃ e, x = .error e

theorem not_isFailure_ok {α : Type} (x : α) : ¬ IsFailure (.ok x) := fun ⟨_, h⟩ => nomatch h

namespace Errand

variable {α β : Type} {m : Errand (Except StoreError α)}

/-- What is done after something that may fail touches nothing on some results, if it does so
after a failure and does not come to such a result after a success. -/
theorem KeepsOn.bindFailure {f : Except StoreError α → Errand β} {kind : β → Prop}
    (hm : m.KeepsOn IsFailure) (herror : ∀ e, (f (.error e)).KeepsOn kind)
    (hok : ∀ x, (f (.ok x)).Avoids kind) : (m >>= f).KeepsOn kind := by
  refine hm.bind ?_ fun x hx => ?_
  · rintro _ ⟨e, rfl⟩
    exact herror e
  · cases x with
    | error e => exact absurd ⟨e, rfl⟩ hx
    | ok x => exact hok x

/-- To answer what an errand comes to is atomic if the errand is. -/
theorem keepsOn_answer {respond : α → Response} (hm : m.KeepsOn IsFailure)
    (hrespond : ∀ x, (respond x).status < 400) :
    (do return answer respond (← m) : Errand Response).KeepsOn Response.IsError :=
  hm.bindFailure (fun _ => (keeps_pure _).keepsOn _) fun x =>
    avoids_pure (Nat.not_le.2 (hrespond x))

/-- An operation on the event log that cannot fail is atomic. -/
theorem keepsOn_ok {g : Store → α × Store} :
    (onStore fun _ s => (g s).map Except.ok id).KeepsOn (IsFailure (α := α)) :=
  keepsOn_onStore fun _ _ h => absurd h (not_isFailure_ok _)

end Errand

namespace Setting

variable {c : Setting}

open Errand

theorem keepsOn_append (change : Mutation) : (c.publishHost.append change).KeepsOn IsFailure := by
  refine keepsOn_onStore fun now s ⟨e, he⟩ => ?_
  obtain ⟨-, -, hkept⟩ | ⟨hadds, -⟩ := s.append_cases now change
  · exact hkept
  · simp [hadds] at he

theorem keeps_sleep (d : Span) : (c.publishHost.sleep d).Keeps :=
  keeps_step fun _ => ⟨rfl, rfl, rfl⟩

/-- An append is tried again and again, and has changed nothing if it fails in the end. -/
theorem keepsOn_tryAppend (change : Mutation) (retries : Nat) (delay : Span) :
    (c.publishHost.tryAppend change retries delay).KeepsOn IsFailure := by
  induction retries generalizing delay with
  | zero =>
    unfold EnqueueHost.tryAppend
    refine (keepsOn_append change).bindFailure (fun e => ?_) fun x =>
      avoids_pure (not_isFailure_ok x)
    cases e <;> exact (keeps_pure _).keepsOn _
  | succ retries ih =>
    unfold EnqueueHost.tryAppend
    refine (keepsOn_append change).bindFailure (fun e => ?_) fun x =>
      avoids_pure (not_isFailure_ok x)
    cases e with
    | invalid why => exact (keeps_pure _).keepsOn _
    | database | notFound | conflict => exact (keeps_sleep delay).bindOn fun _ => ih delay.double

theorem keepsOn_publish (change : Mutation) : (c.host.publish change).KeepsOn IsFailure := by
  change (c.publishHost.publish c.outboxEnabled c.retries firstRetryDelay change).KeepsOn IsFailure
  unfold PublishHost.publish
  split
  · have henqueue : (c.publishHost.enqueue change c.retries firstRetryDelay).KeepsOn IsFailure := by
      unfold EnqueueHost.enqueue
      split
      · exact (keeps_pure _).keepsOn _
      · exact keepsOn_tryAppend change c.retries firstRetryDelay
    exact henqueue.bindFailure (fun _ => (keeps_pure _).keepsOn _) fun x =>
      avoids_pure (not_isFailure_ok _)
  · split
    · exact (keeps_pure _).keepsOn _
    -- What is dispatched at once is answered as done, however the adapters fare.
    · exact (Avoids.bind fun d => avoids_pure (not_isFailure_ok _)).keepsOn

theorem keeps_now : c.host.now.Keeps := keeps_step fun a => .refl a

/-- A call that only asks touches nothing. -/
theorem keeps_perform {call : Call} (h : call.IsReading) : (c.host.perform call).Keeps := by
  cases call with
  | health => exact keeps_now.bind fun _ => keeps_onStore.bind fun _ => keeps_pure _
  | live => exact keeps_now.bind fun _ => keeps_pure _
  | integrations =>
    have hasks : c.host.adapterHealth.Keeps := keeps_step fun _ => ⟨rfl, rfl, rfl⟩
    exact hasks.bind fun _ => keeps_pure _
  | list status page limit =>
    have hasks : (c.host.list status page limit).Keeps := keeps_onStore.bind fun x => by
      cases x with
      | ok p => exact keeps_pure _
      | error why => exact keeps_breakOff
    exact hasks.bind fun _ => keeps_pure _
  | stats =>
    have hasks : c.host.counts.Keeps := keeps_onStore
    exact hasks.bind fun _ => keeps_pure _
  | retry | retryDead | replay | publish => exact h.elim

/-- A call that is answered with an error has touched nothing. -/
theorem keepsOn_perform (call : Call) : (c.host.perform call).KeepsOn Response.IsError := by
  have hok : 200 < 400 := by decide
  have haccepted : 202 < 400 := by decide
  cases call with
  | health | live | integrations | list | stats =>
    refine Keeps.keepsOn (keeps_perform ?_) _
    exact trivial
  | retry id =>
    refine keepsOn_answer (keepsOn_onStore fun now s ⟨e, he⟩ => ?_) fun _ => hok
    obtain ⟨f, -, -, hr⟩ | ⟨why, hr⟩ := s.retryOne_cases now id
    · simp [hr] at he
    · simp [hr]
  | retryDead => exact keepsOn_answer keepsOn_ok fun _ => hok
  | replay request =>
    refine keeps_now.bindOn fun now => ?_
    cases request.filter now with
    | error e => exact (keeps_pure _).keepsOn _
    | ok f => exact keepsOn_answer keepsOn_ok fun _ => hok
  | publish change =>
    refine keepsOn_answer (keepsOn_publish change) fun x => ?_
    cases x with
    | queued e => exact haccepted
    | synced d => exact hok

/-- An answer with an error comes of a request that has touched nothing. -/
theorem keepsOn_respond (r : Request) : (c.host.respond r).KeepsOn Response.IsError := by
  have hhead : ∀ response : Response, ¬ response.IsError →
      (pure (if r.method == "HEAD" then response.headOnly else response) :
        Errand Response).Avoids Response.IsError := by
    intro response hstatus
    refine avoids_pure fun herror => hstatus ?_
    split at herror
    · exact herror
    · exact herror
  unfold Host.respond
  dsimp only
  split
  · exact (keeps_pure _).bindOn fun _ => (keeps_pure _).keepsOn _
  · next call hcall => exact (keepsOn_perform call).bind (fun _ _ => (keeps_pure _).keepsOn _) hhead

/-- A request to read touches nothing. -/
theorem keeps_respond {r : Request} (h : r.method = "GET" ∨ r.method = "HEAD") :
    (c.host.respond r).Keeps := by
  unfold Host.respond
  dsimp only
  split
  · exact (keeps_pure _).bind fun _ => keeps_pure _
  · next call hcall =>
    exact (keeps_perform (Call.isReading_of_ofRequest h hcall)).bind fun _ => keeps_pure _

/-- What is answered with an error, unless its time was up, has touched nothing. -/
theorem untouched_of_error {r : Request} {a : Application} (herror : (c.serve r a).1.IsError)
    (htime : (c.serve r a).1.status ≠ 408) : a.Untouched (c.serve r a).2 := by
  rw [serve_fst] at herror htime
  rw [serve_snd]
  cases hdone : (c.host.respond r a).1 with
  | none =>
    rw [hdone] at htime
    exact absurd rfl htime
  | some response =>
    rw [hdone] at herror
    exact keepsOn_respond r a response hdone herror

/-- A request for the reset of one event takes one step, if there is time for it. -/
theorem serve_retry {r : Request} {id : Int} (h : r.Retries id) {a : Application}
    (htime : 0 < a.patience) :
    c.serve r a =
      (answer (fun e => .json 200 e.toJson) (a.store.retryOne a.now id).1,
        { a with store := (a.store.retryOne a.now id).2, patience := a.patience - 1 }) := by
  have hhead : (r.method == "HEAD") = false := by rw [h.method]; decide
  have hstep : c.host.retryOne id a = (some (a.store.retryOne a.now id).1,
      { a with store := (a.store.retryOne a.now id).2, patience := a.patience - 1 }) :=
    if_neg (Nat.ne_of_gt htime)
  have hrespond : c.host.respond r a =
      (some (answer (fun e => .json 200 e.toJson) (a.store.retryOne a.now id).1),
        { a with store := (a.store.retryOne a.now id).2, patience := a.patience - 1 }) := by
    unfold Host.respond
    rw [h.ofRequest_eq, hhead]
    change Errand.bind (Errand.bind (c.host.retryOne id) _) _ a = _
    simp only [Errand.bind, hstep]
    rfl
  rw [serve, hrespond]
  rfl

/-- The answer to a request for the reset of one event, as long as there is time for it. -/
theorem serve_retry_cases {r : Request} {id : Int} (h : r.Retries id) {a : Application}
    (htime : 0 < a.patience) :
    a.store.find? id = none ∧ (c.serve r a).1.status = 404 ∨
      (∃ e, a.store.find? id = some e ∧ e.IsHeld a.now ∧ (c.serve r a).1.status = 409) ∨
      ∃ e, a.store.find? id = some e ∧ ¬ e.IsHeld a.now ∧
        (c.serve r a).1 = .json 200 e.reset.toJson ∧
        (c.serve r a).2.store = a.store.modify id Event.reset := by
  rw [serve_retry h htime]
  obtain ⟨hfind, hr⟩ | ⟨e, hfind, hheld, hr⟩ | ⟨e, hfind, hheld, hr⟩ :=
    a.store.retryOne_eq a.now id
  · rw [hr]
    exact .inl ⟨hfind, rfl⟩
  · rw [hr]
    exact .inr (.inl ⟨e, hfind, hheld, rfl⟩)
  · rw [hr]
    exact .inr (.inr ⟨e, hfind, hheld, rfl, rfl⟩)

end Setting

/-- Whatever the state of an application and however it is set up, and whatever is requested:

An answer with the status of an error, other than that the time was up, means that the events and
the next number are as they were and that no adapter was called. A request to read means so
whatever the answer.

A request for the reset of the event with some number is answered, unless its time was up before
it began, with 404 if there is no event with this number, with 409 if a worker holds the event
and the claim has not ended, and otherwise with 200 and the event, which is then reset in the
log. -/
theorem errors_atomic (c : Setting) (a : Application) (r : Request) :
    let response := (c.serve r a).1
    let after := (c.serve r a).2
    (400 ≤ response.status → response.status ≠ 408 → a.Untouched after) ∧
      (r.method = "GET" ∨ r.method = "HEAD" → a.Untouched after) ∧
      ∀ id, r.Retries id → 0 < a.patience →
        (response.status = 404 ↔ a.store.find? id = none) ∧
        (response.status = 409 ↔ ∃ e, a.store.find? id = some e ∧ e.IsHeld a.now) ∧
        ∀ e, a.store.find? id = some e → ¬ e.IsHeld a.now →
          response = .json 200 e.reset.toJson ∧ after.store = a.store.modify id Event.reset := by
  intro response after
  refine ⟨Setting.untouched_of_error, fun hread => ?_, fun id hid htime => ?_⟩
  · have hkept := Setting.keeps_respond (c := c) hread a
    rwa [← Setting.serve_snd] at hkept
  · obtain ⟨hfind, hstatus⟩ | ⟨e, hfind, hheld, hstatus⟩ | ⟨e, hfind, hheld, hreset⟩ :=
      Setting.serve_retry_cases (c := c) hid htime
    · simp [response, hstatus, hfind]
    · simp [response, hstatus, hfind, hheld]
    · have hstatus : response.status = 200 := congrArg Response.status hreset.1
      refine ⟨by simp [hstatus, hfind], by simp [hstatus, hfind, hheld], ?_⟩
      rintro _ he -
      obtain rfl := Option.some.inj (hfind.symm.trans he)
      exact hreset

/-- A change that no adapter has taken over. -/
def refusedChange : Event :=
  { Event.ofMutation ⟨"employee", "EMP0001", .update, .null⟩ 1 .epoch with
    status := .dead, attempts := 6, lastError := some "refused" }

/-- An application with that change in its log. -/
def office : Application where
  store := .ofEvents [refusedChange]
  now := .epoch
  registry := { settings := {} }
  patience := 1

/-- Its surroundings, in which nobody answers. -/
def deserted : Setting where
  outboxEnabled := true
  retries := 0
  limit := .ofMillis 10000
  callEnd _ _ := .timedOut
  send _ := none
  wake now _ := now

/-- The change is reset when that is requested. Another one that is not there is not found, and
nothing happens. -/
theorem errors_atomic_office :
    let retry (id : Int) : Request :=
      { method := "POST", target := "/events/retry/" ++ toString id }
    (deserted.serve (retry 1) office).1 = .json 200 refusedChange.reset.toJson ∧
      (deserted.serve (retry 1) office).2.store.events = [refusedChange.reset] ∧
      (deserted.serve (retry 2) office).1.status = 404 ∧
      office.Untouched (deserted.serve (retry 2) office).2 := by
  intro retry
  obtain ⟨-, -, hretry⟩ := errors_atomic deserted office (retry 1)
  obtain ⟨hkept, -, hmissing⟩ := errors_atomic deserted office (retry 2)
  have hone : office.store.find? 1 = some refusedChange := by decide +kernel
  have hidle : ¬ refusedChange.IsHeld office.now := nofun
  obtain ⟨-, -, hreset⟩ := hretry 1 (Request.retries_toString (by decide)) (by decide)
  obtain ⟨hresponse, hstore⟩ := hreset _ hone hidle
  have hstatus : (deserted.serve (retry 2) office).1.status = 404 :=
    (hmissing 2 (Request.retries_toString (by decide)) (by decide)).1.2 (by decide +kernel)
  refine ⟨hresponse, ?_, hstatus, hkept (by rw [hstatus]; decide) (by rw [hstatus]; decide)⟩
  rw [hstore]
  decide +kernel

end Http

end Outbox
