import Outbox.Json.Token

/-!
# The values inside a value

What is asked of a value is often asked of every value inside it as well (`Json.all`). Two such
properties matter for the way of a value through a text: whether a number in floating point is
among them, and whether the members of every object are in ascending order of their keys. How
deep the containers of a value are nested is its `nesting`.
-/

namespace Outbox.Json

mutual

/-- A property of a value and of all values inside it. -/
def all (p : Json → Bool) : Json → Bool
  | array items => p (array items) && allItems p items
  | object members => p (object members) && allMembers p members
  | j => p j

/-- A property of some items and of all values inside them. -/
def allItems (p : Json → Bool) : List Json → Bool
  | [] => true
  | j :: js => all p j && allItems p js

/-- A property of the values of some members and of all values inside them. -/
def allMembers (p : Json → Bool) : List (String × Json) → Bool
  | [] => true
  | (_, j) :: ms => all p j && allMembers p ms

end

mutual

/-- How many containers are open at the most inside a value. -/
def nesting : Json → Nat
  | array items => nestingItems items + 1
  | object members => nestingMembers members + 1
  | _ => 0

/-- How many containers are open at the most inside some items. -/
def nestingItems : List Json → Nat
  | [] => 0
  | j :: js => max (nesting j) (nestingItems js)

/-- How many containers are open at the most inside the values of some members. -/
def nestingMembers : List (String × Json) → Nat
  | [] => 0
  | (_, j) :: ms => max (nesting j) (nestingMembers ms)

end

theorem allItems_iff {p : Json → Bool} {items : List Json} :
    allItems p items = true ↔ ∀ j ∈ items, j.all p = true := by
  induction items with
  | nil => exact iff_of_true rfl (List.forall_mem_nil _)
  | cons j js ih => rw [allItems, Bool.and_eq_true, ih, List.forall_mem_cons]

theorem allMembers_iff {p : Json → Bool} {members : List (String × Json)} :
    allMembers p members = true ↔ ∀ m ∈ members, m.2.all p = true := by
  induction members with
  | nil => exact iff_of_true rfl (List.forall_mem_nil _)
  | cons m ms ih => rw [allMembers, Bool.and_eq_true, ih, List.forall_mem_cons]

theorem nestingItems_le_iff {items : List Json} {depth : Nat} :
    nestingItems items ≤ depth ↔ ∀ j ∈ items, j.nesting ≤ depth := by
  induction items with
  | nil => exact iff_of_true (Nat.zero_le _) (List.forall_mem_nil _)
  | cons j js ih => rw [nestingItems, Nat.max_le, ih, List.forall_mem_cons]

theorem nestingMembers_le_iff {members : List (String × Json)} {depth : Nat} :
    nestingMembers members ≤ depth ↔ ∀ m ∈ members, m.2.nesting ≤ depth := by
  induction members with
  | nil => exact iff_of_true (Nat.zero_le _) (List.forall_mem_nil _)
  | cons m ms ih => rw [nestingMembers, Nat.max_le, ih, List.forall_mem_cons]

/-- A number in floating point. -/
def isFloat : Json → Bool
  | float _ => true
  | _ => false

/-- No number in floating point is inside the value. -/
def isFloatFree (j : Json) : Bool := j.all fun k => !k.isFloat

/-- A value that is printed and read again is the same: it is no number in floating point, and
an integer fits in 64 bits. -/
def isExact : Json → Bool
  | integer n => decide (Numeral.minSigned ≤ n ∧ n ≤ Numeral.maxWhole)
  | float _ => false
  | _ => true

/-- A value as it is read: an integer fits in 64 bits, and the members of an object are in
ascending order of their keys. -/
def isRegular : Json → Bool
  | integer n => decide (Numeral.minSigned ≤ n ∧ n ≤ Numeral.maxWhole)
  | object members => decide (members.Pairwise fun a b => a.1 < b.1)
  | _ => true

mutual

/-- A value as it is read is exact if nothing in it is in floating point. -/
theorem all_isExact : ∀ {j : Json}, j.all isRegular = true → j.isFloatFree = true →
    j.all isExact = true
  | null, _, _ => rfl
  | bool _, _, _ => rfl
  | integer _, h, _ => h
  | float _, _, k => k
  | text _, _, _ => rfl
  | array _, h, k => by
    rw [isFloatFree] at k
    rw [all, Bool.and_eq_true] at *
    exact ⟨rfl, allItems_isExact h.2 k.2⟩
  | object _, h, k => by
    rw [isFloatFree] at k
    rw [all, Bool.and_eq_true] at *
    exact ⟨rfl, allMembers_isExact h.2 k.2⟩

theorem allItems_isExact : ∀ {items : List Json}, allItems isRegular items = true →
    allItems (fun k => !k.isFloat) items = true → allItems isExact items = true
  | [], _, _ => rfl
  | _ :: _, h, k => by
    rw [allItems, Bool.and_eq_true] at *
    exact ⟨all_isExact h.1 k.1, allItems_isExact h.2 k.2⟩

theorem allMembers_isExact : ∀ {members : List (String × Json)},
    allMembers isRegular members = true →
    allMembers (fun k => !k.isFloat) members = true → allMembers isExact members = true
  | [], _, _ => rfl
  | (_, _) :: _, h, k => by
    rw [allMembers, Bool.and_eq_true] at *
    exact ⟨all_isExact h.1 k.1, allMembers_isExact h.2 k.2⟩

end

end Outbox.Json
