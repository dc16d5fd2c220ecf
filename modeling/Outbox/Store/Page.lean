import Outbox.Event.Wire

/-!
# Pages of a listing

A listing of events is cut into pages of equal length, counted from one. Page zero is
the first page too. How many events come before a page is worked out in 64 bits with a sign; what
they do not hold is an overflow, and whoever asks breaks down.
-/

namespace Outbox

/-- The greatest number of a page, and of pages. -/
def maxPage : Nat := 4294967295

/-- The greatest number of events that a listing can pass over. -/
def maxSkipped : Nat := 18446744073709551615

/-- Why arithmetic in a fixed width breaks down. -/
inductive Overflow where
  /-- A product does not fit. -/
  | product
  deriving DecidableEq, Repr

namespace Overflow

/-- What is said of it. -/
def message : Overflow → String
  | product => "attempt to multiply with overflow"

/-- A product in 64 bits with a sign, which breaks down where they do not hold it. -/
def checkedProduct (a b : Int64) : Except Overflow Int64 :=
  if (a * b).toInt = a.toInt * b.toInt then .ok (a * b) else .error product

end Overflow

/-- One page of a listing. -/
structure Page where
  /-- The events on it. -/
  events : List Event
  /-- How many events there are on all pages. -/
  total : Int
  /-- The number of the page. -/
  page : Nat
  /-- How many events a page holds. -/
  limit : Nat
  deriving DecidableEq

namespace Page

/-- How many pages there are: the fewest that hold all events, as far as they can be
counted. A page that holds nothing needs no pages. -/
def pages (p : Page) : Nat :=
  if p.limit = 0 then 0 else min ((p.total.toNat + p.limit - 1) / p.limit) maxPage

/-- How many events come before a page. -/
def before (page limit : Nat) : Nat := (max page 1 - 1) * limit

/-- The offset of a page: how many events come before it, worked out in 64 bits with a sign. -/
def offset (page limit : Nat) : Except Overflow Int :=
  (Overflow.checkedProduct (.ofNat (max page 1 - 1)) (.ofNat limit)).map Int64.toInt

/-- How many events a listing passes over that has an offset to go by: as many as that says. One
below zero says nothing, and all are passed over that there can be. -/
def skipped (offset : Int) : Nat := offset.toNat?.getD maxSkipped

/-- A page as JSON. -/
def toJson (p : Page) : Json :=
  .object
    [ ("events", .array (p.events.map Event.toJson)),
      ("limit", .integer p.limit),
      ("page", .integer p.page),
      ("pages", .integer p.pages),
      ("total", .integer p.total) ]

end Page

end Outbox
