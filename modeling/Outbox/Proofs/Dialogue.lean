import Mathlib.Data.List.Basic

/-!
# Dialogues

What is written for any surroundings can run in such as do nothing but write down what is asked
of them. What comes of that is a `Dialogue`: the tree of the questions that are still to be asked,
with a branch for each answer. Which questions there are, and what answers each of them may be
given, is up to those who use it.

A `Protocol` says which question may be asked in which state, and what state an answer leads to. A
dialogue `Follows` a protocol if it keeps to that whatever it is answered. `follows_bind` takes such
a law apart along with the dialogue, so that what is proved of the parts of a dialogue can be put
together again.
-/

namespace Outbox

/-- What is still to be asked, one question after the other. -/
inductive Dialogue {Q : Type} (Answer : Q → Type) (α : Type) where
  /-- Nothing: this is the result. -/
  | done (a : α)
  /-- A question, and what is to be asked after it. -/
  | ask (q : Q) (next : Answer q → Dialogue Answer α)

/-- The rules of a dialogue. A state tells how far it has come. -/
structure Protocol {Q : Type} (Answer : Q → Type) (σ : Type) where
  /-- The question may be asked in this state. -/
  May : σ → Q → Prop
  /-- The answer to the question may lead from the one state to the other. -/
  Leads : σ → (q : Q) → Answer q → σ → Prop

namespace Dialogue

variable {Q : Type} {Answer : Q → Type} {α β γ σ : Type}

/-- One dialogue after another. -/
def bind : Dialogue Answer α → (α → Dialogue Answer β) → Dialogue Answer β
  | done a, f => f a
  | ask q next, f => ask q fun a => (next a).bind f

instance : Monad (Dialogue Answer) where
  pure := done
  bind := bind

theorem bind_done (p : Dialogue Answer α) : p.bind done = p := by
  induction p with
  | done a => rfl
  | ask q next ih => exact congrArg (ask q) (funext ih)

theorem bind_assoc (p : Dialogue Answer α) (f : α → Dialogue Answer β)
    (g : β → Dialogue Answer γ) : (p.bind f).bind g = p.bind fun a => (f a).bind g := by
  induction p with
  | done a => rfl
  | ask q next ih => exact congrArg (ask q) (funext ih)

instance : LawfulMonad (Dialogue Answer) :=
  LawfulMonad.mk' (Dialogue Answer) bind_done (fun _ _ => rfl) bind_assoc

/-! ### Dialogues that follow a protocol -/

/-- The dialogue asks for nothing but what it may, whatever it is answered, and its result and the
state at its end are as they should be. -/
def Follows (r : Protocol Answer σ) (post : α → σ → Prop) : Dialogue Answer α → σ → Prop
  | done a, s => post a s
  | ask q next, s => r.May s q ∧ ∀ a t, r.Leads s q a t → Follows r post (next a) t

variable {r : Protocol Answer σ} {post : α → σ → Prop} {p : Dialogue Answer α} {s : σ}

theorem Follows.imp {post' : α → σ → Prop} (h : p.Follows r post s)
    (himp : ∀ a t, post a t → post' a t) : p.Follows r post' s := by
  induction p generalizing s with
  | done a => exact himp a s h
  | ask q next ih => exact ⟨h.1, fun a t hleads => ih a (h.2 a t hleads)⟩

theorem follows_bind {post : β → σ → Prop} {f : α → Dialogue Answer β} :
    (p.bind f).Follows r post s ↔ p.Follows r (fun a t => (f a).Follows r post t) s := by
  induction p generalizing s with
  | done a => rfl
  | ask q next ih =>
    exact and_congr_right' (forall_congr' fun a => forall_congr' fun t =>
      imp_congr_right fun _ => ih a)

/-- One dialogue after another follows the protocol if both do. -/
theorem Follows.bind {post' : β → σ → Prop} {f : α → Dialogue Answer β} (h : p.Follows r post s)
    (hf : ∀ a t, post a t → (f a).Follows r post' t) : (p >>= f).Follows r post' s :=
  follows_bind.2 (h.imp hf)

/-- The dialogue follows the protocol, and what holds of the state before it does so after it. -/
def Keeps (r : Protocol Answer σ) (inv : σ → Prop) (p : Dialogue Answer α) : Prop :=
  ∀ s, inv s → p.Follows r (fun _ t => inv t) s

variable {inv : σ → Prop}

theorem keeps_pure (a : α) : Keeps r inv (pure a : Dialogue Answer α) := fun _ hs => hs

theorem Keeps.bind {f : α → Dialogue Answer β} (h : p.Keeps r inv)
    (hf : ∀ a, (f a).Keeps r inv) : (p >>= f).Keeps r inv :=
  fun s hs => (h s hs).bind fun a t ht => hf a t ht

/-- A loop keeps what each of its turns keeps. -/
theorem keeps_mapM {f : α → Dialogue Answer β} (h : ∀ a, (f a).Keeps r inv) (xs : List α) :
    (xs.mapM f).Keeps r inv := by
  induction xs with
  | nil => exact keeps_pure []
  | cons x xs ih =>
    rw [List.mapM_cons]
    exact (h x).bind fun y => ih.bind fun ys => keeps_pure _

/-! ### Dialogues that may break down -/

variable {p : OptionT (Dialogue Answer) α} {f : α → OptionT (Dialogue Answer) β}

theorem Follows.bindOption {post : Option α → σ → Prop} {post' : Option β → σ → Prop}
    (h : Follows r post p s) (hdone : ∀ a t, post (some a) t → Follows r post' (f a) t)
    (hbroken : ∀ t, post none t → post' none t) :
    Follows r post' (p >>= f : OptionT (Dialogue Answer) β) s := by
  refine Follows.bind h ?_
  rintro (_ | a) t ha
  · exact hbroken t ha
  · exact hdone a t ha

theorem Keeps.bindOption (h : Keeps r inv p) (hf : ∀ a, Keeps r inv (f a)) :
    Keeps r inv (p >>= f : OptionT (Dialogue Answer) β) :=
  fun s hs => (h s hs).bindOption (fun a t ht => hf a t ht) fun _ ht => ht

theorem keeps_mapM_option (h : ∀ a, Keeps r inv (f a)) (xs : List α) :
    Keeps r inv (xs.mapM f : OptionT (Dialogue Answer) (List β)) := by
  induction xs with
  | nil => exact fun _ hs => hs
  | cons x xs ih =>
    rw [List.mapM_cons]
    exact (h x).bindOption fun y => ih.bindOption fun ys _ hs => hs

end Dialogue

end Outbox
