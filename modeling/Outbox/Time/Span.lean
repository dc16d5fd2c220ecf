/-!
# Spans of time

A span is a length of time in nanoseconds. Its seconds fit in 64 bits, so there is
a longest span, and doubling a delay often enough leaves the range: `Span.times?`
says when that happens and `Span.double` stays at the longest span.
-/

namespace Outbox

/-- Nanoseconds in a second. -/
abbrev nanosPerSecond : Nat := 1000000000

/-- Nanoseconds in a millisecond. -/
abbrev nanosPerMilli : Nat := 1000000

/-- The nanoseconds of the longest span: 2⁶⁴ seconds less one nanosecond. -/
def Span.maxNanos : Nat := 18446744073709551615999999999

/-- A length of time. -/
structure Span where
  /-- How many nanoseconds it lasts. -/
  nanos : Nat
  /-- It is not longer than the longest span. -/
  bounded : nanos ≤ Span.maxNanos
  deriving DecidableEq, Repr

namespace Span

/-- Spans are compared by their length. -/
instance : LE Span := ⟨fun a b => a.nanos ≤ b.nanos⟩

/-- Spans are compared by their length. -/
instance : LT Span := ⟨fun a b => a.nanos < b.nanos⟩

instance (a b : Span) : Decidable (a ≤ b) := inferInstanceAs (Decidable (a.nanos ≤ b.nanos))

instance (a b : Span) : Decidable (a < b) := inferInstanceAs (Decidable (a.nanos < b.nanos))

/-- The longest span. -/
def longest : Span := ⟨maxNanos, Nat.le_refl _⟩

/-- No time at all. -/
def zero : Span := ⟨0, Nat.zero_le _⟩

instance : Inhabited Span := ⟨zero⟩

/-- A span of so many nanoseconds, if there is one. -/
def ofNanos? (n : Nat) : Option Span :=
  if h : n ≤ maxNanos then some ⟨n, h⟩ else none

/-- A span of so many nanoseconds, or the longest one. -/
def ofNanos (n : Nat) : Span := ⟨min n maxNanos, Nat.min_le_right ..⟩

/-- A span of so many milliseconds, or the longest one. -/
def ofMillis (n : Nat) : Span := ofNanos (n * nanosPerMilli)

/-- A span of so many seconds, or the longest one. -/
def ofSeconds (n : Nat) : Span := ofNanos (n * nanosPerSecond)

/-- The whole seconds of a span. -/
def seconds (a : Span) : Nat := a.nanos / nanosPerSecond

/-- What is left of a span after its whole seconds, in nanoseconds. -/
def subsecNanos (a : Span) : Nat := a.nanos % nanosPerSecond

/-- The whole milliseconds of a span. -/
def millis (a : Span) : Nat := a.nanos / nanosPerMilli

/-- A span `k` times as long, if it is not longer than the longest one. -/
def times? (a : Span) (k : Nat) : Option Span := ofNanos? (a.nanos * k)

/-- A span twice as long, or the longest one. -/
def double (a : Span) : Span := ofNanos (a.nanos * 2)

/-- The shorter of two spans. -/
def shorter (a b : Span) : Span := if a ≤ b then a else b

/-! ### Text

A span is written in the largest unit of which it holds at least one, with as many
digits after the point as it needs. -/

/-- The digits of `part` after the point, where `unit` is one whole: as many as are
needed, and no point when there are none. -/
def fraction (part unit : Nat) : String :=
  go 9 part unit ""
where
  /-- Writes at most `fuel` further digits. -/
  go : Nat → Nat → Nat → String → String
    | 0, _, _, done => done
    | fuel + 1, part, unit, done =>
      if part = 0 then done
      else
        let unit := unit / 10
        let point := if done.isEmpty then "." else ""
        go fuel (part % unit) unit (done ++ point ++ toString (part / unit))

/-- A number of `unit`s with its decimal fraction and the unit's name. -/
def inUnits (nanos unit : Nat) (name : String) : String :=
  toString (nanos / unit) ++ fraction (nanos % unit) unit ++ name

/-- The text of a span, such as 1.5s, 100ms, 1.001µs or 0ns. -/
def text (a : Span) : String :=
  if nanosPerSecond ≤ a.nanos then inUnits a.nanos nanosPerSecond "s"
  else if nanosPerMilli ≤ a.nanos then inUnits a.nanos nanosPerMilli "ms"
  else if 1000 ≤ a.nanos then inUnits a.nanos 1000 "µs"
  else inUnits a.nanos 1 "ns"

/-! ### Lengths of the spans made here -/

@[simp] theorem nanos_longest : longest.nanos = maxNanos := rfl

theorem nanos_ofNanos (n : Nat) : (ofNanos n).nanos = min n maxNanos := rfl

theorem nanos_shorter (a b : Span) : (shorter a b).nanos = min a.nanos b.nanos := by
  unfold shorter
  split
  · next h => exact (Nat.min_eq_left h).symm
  · next h => exact (Nat.min_eq_right (Nat.le_of_not_le h)).symm

theorem times?_eq_some_iff {a b : Span} {k : Nat} :
    a.times? k = some b ↔ b.nanos = a.nanos * k := by
  unfold times? ofNanos?
  split
  · next h =>
    constructor
    · rintro ⟨rfl⟩; rfl
    · intro e; cases b; simp_all
  · next h =>
    constructor
    · rintro ⟨⟩
    · intro e; exact absurd (e ▸ b.bounded) h

end Span

end Outbox
