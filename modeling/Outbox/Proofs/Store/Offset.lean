import Outbox.Proofs.Store.Listing

/-!
# Where a page of a listing is

Anyone may ask for any page under any limit, both numbers of 32 bits, while the interface keeps
the limit small. `Store.Located` says what comes of it for each of them: the listing answers with
the right slice, or it breaks down because the number of events before the page does not fit. It
is never wrong, but for many a page and limit it is never there either, and an offset is given for
no page that has none. How far one has to go for that is said by `Page.maxFactor`.
-/

namespace Outbox

namespace Store

/-- Where a page of a listing is, and what becomes of a listing of it. -/
structure Located (s : Store) (status : Option Status) (page limit : Nat) : Prop where
  /-- The offset of the page is the number of events before it where 64 bits with a sign hold that
  number, and there is none elsewhere. -/
  offset : Page.offset page limit =
    if Page.before page limit < 2 ^ 63 then .ok (Page.before page limit : Int)
    else .error .product
  /-- In the same places a listing answers, and elsewhere it breaks down. -/
  listed : s.list status page limit =
    if Page.before page limit < 2 ^ 63 then .ok (s.slice status page limit) else .error .product
  /-- An event in some place of the page is in a place of the listing that is as many places further
  down as there are events before the page. -/
  placed : ∀ i, (s.slice status page limit).events[i]? =
    if i < limit then (s.newestFirst status)[Page.before page limit + i]? else none
  /-- With this limit a listing answers with all pages just if the limit is not too great, -/
  onAnyPage : (∀ p ≤ maxPage, s.list status p limit = .ok (s.slice status p limit)) ↔
    limit ≤ Page.maxFactor
  /-- and with this page it answers under all limits just if the page is not too far behind. -/
  underAnyLimit : (∀ l ≤ maxPage, s.list status page l = .ok (s.slice status page l)) ↔
    page ≤ Page.maxFactor

/-- A listing answers just where the number of events before the page fits. -/
theorem list_eq_ok_iff (s : Store) (status : Option Status) {page limit : Nat}
    (hpage : page ≤ maxPage) (hlimit : limit ≤ maxPage) :
    s.list status page limit = .ok (s.slice status page limit) ↔
      Page.before page limit < 2 ^ 63 := by
  rw [s.list_eq status hpage hlimit]
  split
  · next h => exact iff_of_true rfl h
  · next h => exact iff_of_false (nomatch ·) h

/-- A listing has the right slice of the events or breaks down, and it breaks down just where
64 bits with a sign do not hold the number of events before the page. -/
theorem page_located (s : Store) (status : Option Status) {page limit : Nat}
    (hpage : page ≤ maxPage) (hlimit : limit ≤ maxPage) : s.Located status page limit := by
  constructor
  · exact Page.offset_eq hpage hlimit
  · exact s.list_eq status hpage hlimit
  · intro i
    rw [slice, List.getElem?_take, List.getElem?_drop]
  · rw [← Page.forall_before_lt_iff_limit]
    exact forall₂_congr fun p hp => s.list_eq_ok_iff status hp hlimit
  · rw [← Page.forall_before_lt_iff_page]
    exact forall₂_congr fun l hl => s.list_eq_ok_iff status hpage hl

/-- The first page that has no offset under the greatest limit: a listing of it breaks down. The
page before it is answered, and is empty, as it should be. -/
theorem page_located_firstUnheld :
    2147483650 ≤ maxPage ∧ 2147483649 ≤ maxPage ∧ maxPage ≤ maxPage ∧
      threeChanges.Located none 2147483650 maxPage ∧
      threeChanges.Located none 2147483649 maxPage ∧
      Page.before 2147483650 maxPage = 9223372039002259455 ∧
      Page.offset 2147483650 maxPage = .error .product ∧
      threeChanges.list none 2147483650 maxPage = .error .product ∧
      Page.offset 2147483649 maxPage = .ok 9223372034707292160 ∧
      ∃ p, threeChanges.list none 2147483649 maxPage = .ok p ∧ p.events = [] := by
  have hfirst : 2147483650 ≤ maxPage := by decide
  have hlast : 2147483649 ≤ maxPage := by decide
  have hbeyond := threeChanges.page_located none hfirst (Nat.le_refl maxPage)
  have hwithin := threeChanges.page_located none hlast (Nat.le_refl maxPage)
  have hunheld : ¬ Page.before 2147483650 maxPage < 2 ^ 63 := by decide
  have hheld : Page.before 2147483649 maxPage < 2 ^ 63 := by decide
  have hanswer := hwithin.listed
  rw [if_pos hheld] at hanswer
  have hempty : (threeChanges.slice none 2147483649 maxPage).events.length = 0 := by
    rw [length_events_slice_succ]
    decide
  exact ⟨hfirst, hlast, Nat.le_refl maxPage, hbeyond, hwithin, rfl,
    hbeyond.offset.trans (if_neg hunheld), hbeyond.listed.trans (if_neg hunheld),
    hwithin.offset.trans (if_pos hheld), _, hanswer, List.eq_nil_of_length_eq_zero hempty⟩

end Store

end Outbox
