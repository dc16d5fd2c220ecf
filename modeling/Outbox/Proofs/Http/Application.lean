import Outbox.Http.Service
import Outbox.Proofs.Fleet.Basic
import Outbox.Registry

/-!
# The interface of an application

`Host.respond` answers a request wherever the interface runs. Here it runs in an `Application`:
an event log in memory, the adapters of a registry and a clock. A request is carried out step by
step and has time for so many of them; when the time is up it is broken off between two steps,
and what it has done so far remains. Otherwise nothing is assumed of the adapters or of the
clock: a `Setting` fixes at will how calls end and when a sleeper wakes.
-/

namespace Outbox.Http

/-- An application, and what is noted of it. -/
structure Application where
  /-- The event log. -/
  store : Store
  /-- The time. -/
  now : Instant
  /-- The adapters. -/
  registry : Registry
  /-- What has gone on between the interface and the adapters. -/
  exchanges : List Exchange := []
  /-- How many steps the request in progress has time for. -/
  patience : Nat

/-- How an application is set up, and how everything around it behaves. -/
structure Setting where
  /-- Changes go to the event log, and not to the adapters at once. -/
  outboxEnabled : Bool
  /-- How often an append that failed is tried again. -/
  retries : Nat
  /-- How long a call of an adapter may take. -/
  limit : Span
  /-- How the call of the adapter at a place ends, after all that has gone on before. -/
  callEnd : List Exchange → Nat → CallEnd SyncOutcome
  /-- How the payroll system answers when it is asked for its health. -/
  send : PeerRequest → Option PeerResponse
  /-- When it is that one wakes who falls asleep at a time for so long. -/
  wake : Instant → Span → Instant

/-! ### Steps -/

/-- Something that is done in an application: it comes to a result, or is broken off. -/
def Errand (α : Type) : Type := Application → Option α × Application

namespace Errand

variable {α β : Type}

/-- One thing after another, unless the first is broken off. -/
def bind (m : Errand α) (f : α → Errand β) : Errand β := fun a =>
  match m a with
  | (some x, b) => f x b
  | (none, b) => (none, b)

instance : Monad Errand where
  pure x := fun a => (some x, a)
  bind := bind

/-- A step, for which there must be time. -/
def step (f : Application → α × Application) : Errand α := fun a =>
  if a.patience = 0 then (none, a)
  else
    let done := f { a with patience := a.patience - 1 }
    (some done.1, done.2)

/-- To be broken off at once. -/
def breakOff : Errand α := fun a => (none, a)

/-- A step on the event log. -/
def onStore (f : Instant → Store → α × Store) : Errand α := step fun a =>
  let done := f a.now a.store
  (done.1, { a with store := done.2 })

/-- What comes of one thing after another: the second goes on where the first came to a result,
or the first is broken off. -/
theorem bind_cases (m : Errand α) (f : α → Errand β) (a : Application) :
    (∃ x b, m a = (some x, b) ∧ (m >>= f) a = f x b) ∨
      ∃ b, m a = (none, b) ∧ (m >>= f) a = (none, b) := by
  change (∃ x b, m a = (some x, b) ∧ bind m f a = f x b) ∨
    ∃ b, m a = (none, b) ∧ bind m f a = (none, b)
  unfold bind
  split
  · next x b h => exact .inl ⟨x, b, h, rfl⟩
  · next b h => exact .inr ⟨b, h, rfl⟩

end Errand

namespace Application

/-- Adds what goes on between the interface and the adapters. -/
def tell (a : Application) (x : Exchange) : Application :=
  { a with exchanges := a.exchanges ++ [x] }

end Application

/-! ### The interface -/

namespace Setting

/-- A dispatch calls the adapters and waits for them. -/
def dispatchHost (c : Setting) : DispatchHost Errand Nat where
  call place r := .step fun a => (place, a.tell (.call place r))
  await place := .step fun a =>
    let e := c.callEnd a.exchanges place
    (e, a.tell (.answer place e))

/-- What a publisher needs. -/
def publishHost (c : Setting) : PublishHost Errand where
  append change := .onStore fun now s => s.append now change
  sleep d := .step fun a => ((), { a with now := c.wake a.now d })
  dispatch r := do
    let names ← .step fun a =>
      let loaded := a.registry.names
      (loaded.1, { a with registry := loaded.2 })
    c.dispatchHost.run names c.limit r

/-- What the interface needs. -/
def host (c : Setting) : Host Errand where
  now := .step fun a => (a.now, a)
  storeHealth := .onStore fun _ s => (s.health, s)
  adapterHealth := .step fun a =>
    let known := a.registry.healthReports c.send
    (known.1, { a with registry := known.2 })
  list status page limit := do
    match ← Errand.onStore fun _ s => (s.list status page limit, s) with
    | .ok p => return .ok p
    -- No request asks for such a page (`Call.list_of_ofRequest`).
    | .error _ => Errand.breakOff
  counts := .onStore fun _ s => (.ok s.counts, s)
  retryOne id := .onStore fun now s => s.retryOne now id
  retryAllDead := .onStore fun _ s => s.retryAllDead.map .ok id
  replay f := .onStore fun _ s => (s.replay f).map .ok id
  publish change := c.publishHost.publish c.outboxEnabled c.retries firstRetryDelay change

/-- Answers a request in time. -/
def serve (c : Setting) (r : Request) (a : Application) : Response × Application :=
  let done := c.host.respond r a
  (done.1.getD timeoutResponse, done.2)

theorem serve_fst (c : Setting) (r : Request) (a : Application) :
    (c.serve r a).1 = (c.host.respond r a).1.getD timeoutResponse := rfl

theorem serve_snd (c : Setting) (r : Request) (a : Application) :
    (c.serve r a).2 = (c.host.respond r a).2 := rfl

end Setting

/-! ### What an errand leaves as it is -/

namespace Application

/-- One application has the events and the next number of another one, and no more has gone on
between it and the adapters. -/
structure Untouched (a b : Application) : Prop where
  /-- The events are the same. -/
  events : b.store.events = a.store.events
  /-- The next number is the same. -/
  nextId : b.store.nextId = a.store.nextId
  /-- No adapter has been called and none has answered. -/
  exchanges : b.exchanges = a.exchanges

namespace Untouched

variable {a b d : Application}

theorem refl (a : Application) : a.Untouched a := ⟨rfl, rfl, rfl⟩

theorem trans (h : a.Untouched b) (k : b.Untouched d) : a.Untouched d :=
  ⟨k.events.trans h.events, k.nextId.trans h.nextId, k.exchanges.trans h.exchanges⟩

end Untouched

end Application

namespace Errand

open Application

variable {α β : Type} {m : Errand α} {f : α → Errand β}

/-- The errand touches nothing when it comes to a result of some kind. -/
def KeepsOn (kind : α → Prop) (m : Errand α) : Prop :=
  ∀ (a : Application) x, (m a).1 = some x → kind x → a.Untouched (m a).2

/-- The errand touches nothing, even if it is broken off. -/
def Keeps (m : Errand α) : Prop := ∀ a : Application, a.Untouched (m a).2

/-- The errand does not come to a result of some kind. -/
def Avoids (kind : α → Prop) (m : Errand α) : Prop := ∀ a x, (m a).1 = some x → ¬ kind x

theorem Keeps.keepsOn (h : m.Keeps) (kind : α → Prop) : m.KeepsOn kind := fun a _ _ _ => h a

theorem Avoids.keepsOn {kind : α → Prop} (h : m.Avoids kind) : m.KeepsOn kind :=
  fun a x hx hkind => absurd hkind (h a x hx)

theorem keeps_pure (x : α) : (pure x : Errand α).Keeps := fun a => Untouched.refl a

theorem keeps_breakOff : (breakOff : Errand α).Keeps := fun a => Untouched.refl a

theorem Keeps.bind (hm : m.Keeps) (hf : ∀ x, (f x).Keeps) : (m >>= f).Keeps := by
  intro a
  have hma := hm a
  obtain ⟨x, b, hb, hbind⟩ | ⟨b, hb, hbind⟩ := bind_cases m f a
  · rw [hb] at hma
    rw [hbind]
    exact hma.trans (hf x b)
  · rw [hb] at hma
    rwa [hbind]

theorem avoids_pure {kind : α → Prop} {x : α} (h : ¬ kind x) : (pure x : Errand α).Avoids kind := by
  rintro a y hy
  obtain rfl := Option.some.inj hy
  exact h

theorem Avoids.bind {kind : β → Prop} (hf : ∀ x, (f x).Avoids kind) : (m >>= f).Avoids kind := by
  intro a y hy
  obtain ⟨x, b, -, hbind⟩ | ⟨b, -, hbind⟩ := bind_cases m f a
  · rw [hbind] at hy
    exact hf x b y hy
  · simp [hbind] at hy

/-- One thing after another touches nothing on some results if, whatever the first comes to,
either it has touched nothing then and neither does the second, or the second does not come to
such a result. -/
theorem KeepsOn.bind {quiet : α → Prop} {kind : β → Prop} (hm : m.KeepsOn quiet)
    (hquiet : ∀ x, quiet x → (f x).KeepsOn kind) (hloud : ∀ x, ¬ quiet x → (f x).Avoids kind) :
    (m >>= f).KeepsOn kind := by
  intro a y hy hkind
  have hma := hm a
  obtain ⟨x, b, hb, hbind⟩ | ⟨b, -, hbind⟩ := bind_cases m f a
  · rw [hb] at hma
    rw [hbind] at hy ⊢
    by_cases hx : quiet x
    · exact (hma x rfl hx).trans (hquiet x hx b y hy hkind)
    · exact absurd hkind (hloud x hx b y hy)
  · simp [hbind] at hy

theorem Keeps.bindOn {kind : β → Prop} (hm : m.Keeps) (hf : ∀ x, (f x).KeepsOn kind) :
    (m >>= f).KeepsOn kind :=
  (hm.keepsOn fun _ => True).bind (fun x _ => hf x) fun _ h => absurd trivial h

theorem keeps_step {g : Application → α × Application}
    (h : ∀ a : Application, a.Untouched (g a).2) : (step g).Keeps := by
  intro a
  unfold step
  split
  · exact .refl a
  · exact Untouched.trans (b := { a with patience := a.patience - 1 }) ⟨rfl, rfl, rfl⟩ (h _)

theorem keepsOn_onStore {g : Instant → Store → α × Store} {kind : α → Prop}
    (h : ∀ now s, kind (g now s).1 →
      (g now s).2.events = s.events ∧ (g now s).2.nextId = s.nextId) :
    (onStore g).KeepsOn kind := by
  intro a x hx hkind
  by_cases hp : a.patience = 0
  · simp [onStore, step, hp] at hx
  · simp only [onStore, step, if_neg hp, Option.some.injEq] at hx ⊢
    subst hx
    obtain ⟨hevents, hnext⟩ := h _ _ hkind
    exact ⟨hevents, hnext, rfl⟩

/-- To ask the event log something touches nothing. -/
theorem keeps_onStore {g : Store → α} : (onStore fun _ s => (g s, s)).Keeps :=
  keeps_step fun _ => ⟨rfl, rfl, rfl⟩

end Errand

end Outbox.Http
