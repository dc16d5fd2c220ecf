import Outbox.Proofs.Store.Lookup
import Outbox.Proofs.Store.Page
import Mathlib.Data.List.Basic

/-!
# Listings, page by page

A listing is the log as an operator reads it: the events with a status, or all, from the newest
to the oldest, cut into pages of equal length. Here it is asked what somebody reads who turns
all the pages of a log that nobody changes meanwhile.

The listing before it is cut (`Store.newestFirst`) has the events asked for, and their order is
strict as no two of them have a number in common. A page is a slice of it (`Store.slice`), unless
its offset is an overflow (`Store.list_eq`), and slices of equal length, one after the other, are
the whole; `Page.pages_le_iff` says how many of them it takes. The statistics count the same events.
-/

namespace Outbox

/-! ### Pages -/

namespace Page

/-- The slices of a length, one after the other, are as much of the whole as they hold. -/
theorem flatMap_slices {α : Type} (xs : List α) (limit n : Nat) :
    ((List.range n).flatMap fun k => (xs.drop (k * limit)).take limit) = xs.take (n * limit) := by
  induction n with
  | zero => simp
  | succ n ih =>
    rw [List.range_succ, List.flatMap_append, ih, Nat.succ_mul, List.take_add]
    simp

/-- So many pages hold all events exactly if there are no more pages. That is said of pages that
can be counted. -/
theorem pages_le_iff {p : Page} {limit total : Nat} (hp : p.limit = limit)
    (htotal : p.total = total) (hlimit : 0 < limit) (hfits : total ≤ limit * maxPage) (n : Nat) :
    p.pages ≤ n ↔ total ≤ n * limit := by
  have hdiv : ∀ m, (total + limit - 1) / limit ≤ m ↔ total ≤ limit * m := by
    intro m
    rw [Nat.div_le_iff_le_mul_add_pred hlimit]
    omega
  have hcounted : (total + limit - 1) / limit ≤ maxPage := (hdiv maxPage).2 hfits
  rw [pages, hp, if_neg (Nat.ne_of_gt hlimit), htotal, Int.toNat_natCast,
    Nat.min_eq_left hcounted, hdiv, Nat.mul_comm]

end Page

/-! ### Statistics -/

namespace Store

/-- To record events one by one counts them. -/
theorem get_foldl_record (es : List Event) (c : StatusCounts) (t : Status) :
    (es.foldl (fun c e => c.record e.status 1) c).get t =
      c.get t + (es.filter fun e => t == e.status).length := by
  induction es generalizing c with
  | nil => simp
  | cons e es ih =>
    rw [List.foldl_cons, ih, StatusCounts.get_record, List.filter_cons]
    by_cases h : e.status = t
    · simp only [h, if_true, beq_self_eq_true, List.length_cons, Int.natCast_add, Int.natCast_one]
      omega
    · simp only [h, if_false, beq_eq_false_iff_ne.2 (Ne.symm h), Bool.false_eq_true]

theorem total_foldl_record (es : List Event) (c : StatusCounts) :
    (es.foldl (fun c e => c.record e.status 1) c).total = c.total + es.length := by
  induction es generalizing c with
  | nil => simp
  | cons e es ih =>
    rw [List.foldl_cons, ih, StatusCounts.total_record, List.length_cons]
    omega

/-! ### The listing -/

/-- The events that a listing is of: those with a status, or all. -/
def asked (s : Store) (status : Option Status) : List Event :=
  s.events.filter fun e => status.all (· == e.status)

/-- The statistics count the events of a listing. -/
theorem length_asked (s : Store) (status : Option Status) :
    ((s.asked status).length : Int) = match status with
      | some t => s.counts.get t
      | none => s.counts.total := by
  cases status with
  | some t =>
    show _ = s.counts.get t
    rw [counts, get_foldl_record]
    cases t <;> simp [asked, StatusCounts.get]
  | none =>
    show _ = s.counts.total
    rw [counts, total_foldl_record]
    simp [asked, StatusCounts.total]

theorem newestFirst_perm (s : Store) (status : Option Status) :
    (s.newestFirst status).Perm (s.asked status) := List.mergeSort_perm _ _

theorem length_newestFirst (s : Store) (status : Option Status) :
    (s.newestFirst status).length = (s.asked status).length :=
  (s.newestFirst_perm status).length_eq

/-- A listing goes strictly from the newest event to the oldest. -/
theorem Ordered.newestFirst_descending {s : Store} (h : s.Ordered) (status : Option Status) :
    (s.newestFirst status).Pairwise fun a b => b.precedes a = true := by
  have hsorted : (s.newestFirst status).Pairwise fun a b => (!a.precedes b) = true := by
    refine List.pairwise_mergeSort (fun a b c hab hbc => ?_) (fun a b => ?_) _
    · rw [Bool.not_eq_true'] at hab hbc ⊢
      exact Event.not_precedes_trans hbc hab
    · simpa using (Event.not_precedes_total b a)
  have hnumbers : (s.newestFirst status).Pairwise fun a b => a.id ≠ b.id := by
    refine (s.newestFirst_perm status).symm.pairwise ?_ Ne.symm
    exact (h.ascending.imp fun hlt => Int.ne_of_lt hlt).filter _
  refine (hsorted.and hnumbers).imp fun ⟨hle, hne⟩ => ?_
  exact Event.precedes_of_not_precedes (Bool.not_eq_true' _ ▸ hle) hne.symm

/-- A page of a listing as it is to be: it begins behind as many events as come before it. -/
def slice (s : Store) (status : Option Status) (page limit : Nat) : Page where
  events := ((s.newestFirst status).drop (Page.before page limit)).take limit
  total := (s.newestFirst status).length
  page := page
  limit := limit

/-- A listing answers with the slice, or breaks down where the number of events before it does not
fit. -/
theorem list_eq (s : Store) (status : Option Status) {page limit : Nat} (hpage : page ≤ maxPage)
    (hlimit : limit ≤ maxPage) :
    s.list status page limit =
      if Page.before page limit < 2 ^ 63 then .ok (s.slice status page limit)
      else .error .product := by
  rw [list, Page.offset_eq hpage hlimit]
  split <;> rfl

theorem events_slice_succ (s : Store) (status : Option Status) (k limit : Nat) :
    (s.slice status (k + 1) limit).events =
      ((s.newestFirst status).drop (k * limit)).take limit := by
  rw [slice, Page.before_succ]

theorem length_events_slice_succ (s : Store) (status : Option Status) (k limit : Nat) :
    (s.slice status (k + 1) limit).events.length =
      min limit ((s.asked status).length - k * limit) := by
  rw [events_slice_succ, List.length_take, List.length_drop, length_newestFirst]

/-- Every page tells how many events there are on all of them. -/
theorem total_slice (s : Store) (status : Option Status) (page limit : Nat) :
    (s.slice status page limit).total = ((s.asked status).length : Int) :=
  congrArg Int.ofNat (s.length_newestFirst status)

theorem pages_slice_le_iff {s : Store} {status : Option Status} {limit : Nat} (hlimit : 0 < limit)
    (hfits : (s.asked status).length ≤ limit * maxPage) (page n : Nat) :
    (s.slice status page limit).pages ≤ n ↔ (s.asked status).length ≤ n * limit := by
  have hpage : (s.slice status page limit).limit = limit := rfl
  exact Page.pages_le_iff hpage (s.total_slice status page limit) hlimit hfits n

/-! ### All pages of a listing -/

/-- What the pages of a listing are that is said to have `n` of them. -/
structure Paged (s : Store) (status : Option Status) (limit n : Nat) : Prop where
  /-- A listing answers with each of them whose number of events before it fits, -/
  answered : ∀ page ≤ maxPage, Page.before page limit < 2 ^ 63 →
    s.list status page limit = .ok (s.slice status page limit)
  /-- and that is with all pages that there can be if the limit is not too great. -/
  unbroken : limit ≤ Page.maxFactor → ∀ page ≤ maxPage,
    s.list status page limit = .ok (s.slice status page limit)
  /-- One after the other, they have the events asked for, each as it is in the log and once. -/
  complete : ((List.range n).flatMap fun k => (s.slice status (k + 1) limit).events).Perm
    (s.asked status)
  /-- They go strictly from the newest event to the oldest. -/
  descending : ((List.range n).flatMap fun k => (s.slice status (k + 1) limit).events).Pairwise
    fun a b => b.createdAt < a.createdAt ∨ b.createdAt = a.createdAt ∧ b.id < a.id
  /-- All but the last are full. -/
  full : ∀ page, 1 ≤ page → page < n → (s.slice status page limit).events.length = limit
  /-- There is nothing on the pages after them. -/
  empty : ∀ page, n < page → (s.slice status page limit).events = []
  /-- Every page tells how many there are, -/
  pages : ∀ page, (s.slice status page limit).pages = n
  /-- and there are as many as it takes. -/
  least : ∀ m, n ≤ m ↔ (s.asked status).length ≤ m * limit
  /-- Every page tells how many events there are on all of them, -/
  total : ∀ page, (s.slice status page limit).total = (s.asked status).length
  /-- and so do the statistics. -/
  counted : ((s.asked status).length : Int) = match status with
    | some t => s.counts.get t
    | none => s.counts.total

/-- The pages of a listing are the whole of it and nothing else, as long as their number can be
told. -/
theorem Ordered.list_paged {s : Store} (h : s.Ordered) (status : Option Status) {limit : Nat}
    (hlimit : 0 < limit) (hheld : limit ≤ maxPage)
    (hfits : (s.asked status).length ≤ limit * maxPage) :
    Paged s status limit (s.slice status 1 limit).pages := by
  have hleast := pages_slice_le_iff hlimit hfits 1
  generalize hn : (s.slice status 1 limit).pages = n at hleast
  have hall : (s.asked status).length ≤ n * limit := (hleast n).1 (Nat.le_refl n)
  have hwhole : ((List.range n).flatMap fun k => (s.slice status (k + 1) limit).events) =
      s.newestFirst status := by
    simp only [events_slice_succ]
    rw [Page.flatMap_slices, List.take_of_length_le]
    rwa [length_newestFirst]
  have hanswered : ∀ page ≤ maxPage, Page.before page limit < 2 ^ 63 →
      s.list status page limit = .ok (s.slice status page limit) := fun page hpage hbefore => by
    rw [s.list_eq status hpage hheld, if_pos hbefore]
  constructor
  · exact hanswered
  · exact fun hfactor page hpage =>
      hanswered page hpage (Page.forall_before_lt_iff_limit.2 hfactor page hpage)
  · rw [hwhole]
    exact s.newestFirst_perm status
  · rw [hwhole]
    exact (h.newestFirst_descending status).imp Event.precedes_iff.1
  · intro page hfirst hlast
    obtain ⟨k, rfl⟩ := Nat.exists_eq_add_of_le' hfirst
    -- One page less would not do, so what is left before the last page fills this one.
    have hmore : (k + 1) * limit < (s.asked status).length := by
      rw [← Nat.not_le, ← hleast]
      exact Nat.not_le.2 hlast
    rw [length_events_slice_succ, Nat.min_eq_left]
    rw [Nat.succ_mul] at hmore
    omega
  · intro page hpast
    obtain ⟨k, rfl⟩ := Nat.exists_eq_add_of_le' (Nat.one_le_of_lt hpast)
    have hbefore : n * limit ≤ k * limit := Nat.mul_le_mul_right limit (Nat.le_of_lt_succ hpast)
    rw [← List.length_eq_zero_iff, length_events_slice_succ]
    omega
  · intro page
    rw [← hn]
    rfl
  · exact hleast
  · exact fun page => s.total_slice status page limit
  · exact s.length_asked status

/-- Three changes, the last two of which were appended at the same time. -/
def threeChanges : Store := .ofEvents
  [ .ofMutation ⟨"employee", "EMP0001", .create, .null⟩ 1 .epoch,
    .ofMutation ⟨"employee", "EMP0002", .update, .null⟩ 2 .latest,
    .ofMutation ⟨"employee", "EMP0003", .delete, .null⟩ 3 .latest ]

/-- With two of them on a page there are two pages, and one event is alone on the second. -/
theorem list_paged_threeChanges :
    threeChanges.Ordered ∧ 0 < 2 ∧ 2 ≤ maxPage ∧
      (threeChanges.asked none).length ≤ 2 * maxPage ∧ Paged threeChanges none 2 2 ∧
      ∃ second, threeChanges.list none 2 2 = .ok second ∧ second.events.length = 1 := by
  have hordered : threeChanges.Ordered := ordered_ofEvents _
  have hheld : 2 ≤ maxPage := by decide
  have hfits : (threeChanges.asked none).length ≤ 2 * maxPage := by decide
  have hpaged := hordered.list_paged none (by decide) hheld hfits
  have hlength : (threeChanges.asked none).length = 3 := by decide
  have hone := hpaged.least 1
  have htwo := hpaged.least 2
  rw [hlength] at hone htwo
  have hpages : (threeChanges.slice none 1 2).pages = 2 := by omega
  rw [hpages] at hpaged
  have hsecond := hpaged.unbroken (by decide) 2 hheld
  exact ⟨hordered, by decide, hheld, hfits, hpaged, _, hsecond,
    by simp [length_events_slice_succ, hlength]⟩

end Store

end Outbox
