import Outbox.Store.Page
import Mathlib.Algebra.Group.Int.Defs
import Mathlib.Algebra.Group.Nat.Defs

/-!
# What comes before a page

A page and a limit are numbers of 32 bits, so the number of events before a page
(`Page.before`) can be almost 2⁶⁴. Its offset (`Page.offset`) is worked out in 64 bits with a
sign, which hold less than half of that. `Page.offset_eq` says where they do: there the offset is
the number of events before the page, and everywhere else there is none. The two lemmas before it
say which limits, and which pages, never come to that.
-/

namespace Outbox

/-- A product is the exact one just if 64 bits with a sign hold the exact one. -/
theorem Overflow.toInt_mul_eq_iff {a b : Int64} :
    (a * b).toInt = a.toInt * b.toInt ↔
      -2 ^ 63 ≤ a.toInt * b.toInt ∧ a.toInt * b.toInt < 2 ^ 63 := by
  constructor
  · intro h
    rw [← h]
    exact ⟨Int64.le_toInt _, Int64.toInt_lt _⟩
  · rintro ⟨hle, hlt⟩
    rw [Int64.toInt_mul]
    exact Int.bmod_eq_of_le (by omega) (by omega)

namespace Page

variable {page limit : Nat}

/-! ### The number of events before a page -/

theorem before_succ (k limit : Nat) : before (k + 1) limit = k * limit := by
  rw [before, Nat.max_eq_left (Nat.le_add_left 1 k), Nat.add_sub_cancel]

theorem before_le (hpage : page ≤ maxPage) : before page limit ≤ (maxPage - 1) * limit := by
  refine Nat.mul_le_mul_right limit ?_
  simp only [maxPage] at hpage ⊢
  omega

/-- The greatest page, and the greatest limit, that has an offset whatever the other is. -/
def maxFactor : Nat := 2147483649

/-- It is the last page that decides about a limit. -/
theorem forall_before_lt_iff_limit :
    (∀ p ≤ maxPage, before p limit < 2 ^ 63) ↔ limit ≤ maxFactor := by
  constructor
  · intro h
    have hlast : (4294967295 - 1) * limit < 2 ^ 63 := h maxPage (Nat.le_refl maxPage)
    rw [maxFactor]
    omega
  · intro hlimit p hp
    calc before p limit ≤ (maxPage - 1) * limit := before_le hp
      _ ≤ (maxPage - 1) * maxFactor := Nat.mul_le_mul_left _ hlimit
      _ < 2 ^ 63 := by decide

/-- It is the greatest limit that decides about a page. -/
theorem forall_before_lt_iff_page :
    (∀ l ≤ maxPage, before page l < 2 ^ 63) ↔ page ≤ maxFactor := by
  constructor
  · intro h
    have hgreatest : (max page 1 - 1) * 4294967295 < 2 ^ 63 := h maxPage (Nat.le_refl maxPage)
    rw [maxFactor]
    omega
  · intro hpage l hl
    have hfactor : max page 1 - 1 ≤ maxFactor - 1 := by
      rw [maxFactor] at hpage ⊢
      omega
    calc before page l ≤ (maxFactor - 1) * maxPage := Nat.mul_le_mul hfactor hl
      _ < 2 ^ 63 := by decide

/-! ### The offset of a page -/

/-- The offset of a page is the number of events before it, as far as 64 bits with a sign hold
that. -/
theorem offset_eq (hpage : page ≤ maxPage) (hlimit : limit ≤ maxPage) :
    offset page limit =
      if before page limit < 2 ^ 63 then .ok (before page limit : Int) else .error .product := by
  have hfactor : max page 1 - 1 < 2 ^ 63 := by
    rw [maxPage] at hpage
    omega
  have hheld : limit < 2 ^ 63 := Nat.lt_of_le_of_lt hlimit (by decide)
  have hexact : (Int64.ofNat (max page 1 - 1)).toInt * (Int64.ofNat limit).toInt =
      (before page limit : Int) := by
    rw [Int64.toInt_ofNat_of_lt hfactor, Int64.toInt_ofNat_of_lt hheld, before, Int.natCast_mul]
  have hfits := Overflow.toInt_mul_eq_iff (a := Int64.ofNat (max page 1 - 1)) (b := .ofNat limit)
  rw [hexact] at hfits
  rw [offset, Overflow.checkedProduct]
  by_cases h : before page limit < 2 ^ 63
  · have hproduct := hfits.2 ⟨by omega, by omega⟩
    rw [if_pos h, if_pos (hproduct.trans hexact.symm), Except.map, hproduct]
  · have hoverflow := mt hfits.1 (by omega)
    rw [if_neg h, if_neg (fun heq => hoverflow (heq.trans hexact))]
    rfl

-- The last page that has an offset under the greatest limit.
example : offset 2147483649 maxPage = .ok 9223372034707292160 := rfl

/-- An offset that is a number of events passes over so many. -/
@[simp] theorem skipped_natCast (n : Nat) : skipped n = n := rfl

end Page

end Outbox
