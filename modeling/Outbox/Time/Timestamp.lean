import Outbox.Text.Blank
import Outbox.Text.Digits
import Outbox.Time.Instant

/-!
# Timestamps

Instants as text. The reader takes a date, one of `T`, `t` and a space, a time of day,
any number of digits for the fraction of a second (nine of them count) and an offset
from UTC. Blanks may stand before every number and separator, and a number may have
fewer digits than usual. A year of more than four digits carries a sign.

The writer gives the one form that others should use: UTC with `Z`, and a fraction of
no, three, six or nine digits, the fewest that lose nothing.
-/

namespace Outbox.Timestamp

open Outbox.Text

/-- The years of the calendar. -/
def minYear : Int := -262143

/-- The years of the calendar. -/
def maxYear : Int := 262142

/-! ### Reading -/

/-- A number of at most `width` digits, after blanks, that lies between two bounds. -/
def number? (width low high : Nat) (cs : List Char) : Option (Nat × List Char) := do
  let (n, rest) ← Digits.take? width (dropBlanks cs)
  if low ≤ n ∧ n ≤ high then some (n, rest) else none

/-- A separator after blanks. -/
def separator? (c : Char) (cs : List Char) : Option (List Char) :=
  match dropBlanks cs with
  | [] => none
  | d :: rest => if d = c then some rest else none

/-- A year: up to four digits, or a sign and any number of them. -/
def year? (cs : List Char) : Option (Int × List Char) := do
  let (year, rest) ← match dropBlanks cs with
    | '-' :: rest => (Digits.take? rest.length rest).map fun (n, rest) => (-(n : Int), rest)
    | '+' :: rest => (Digits.take? rest.length rest).map fun (n, rest) => ((n : Int), rest)
    | rest => (Digits.take? 4 rest).map fun (n, rest) => ((n : Int), rest)
  if minYear ≤ year ∧ year ≤ maxYear then some (year, rest) else none

/-- A date of the calendar. -/
def date? (cs : List Char) : Option (Date × List Char) := do
  let (year, cs) ← year? cs
  let cs ← separator? '-' cs
  let (month, cs) ← number? 2 1 12 cs
  let cs ← separator? '-' cs
  let (day, cs) ← number? 2 1 31 cs
  let date : Date := ⟨year, month, day⟩
  if date.isValid then some (date, cs) else none

/-- The fraction of a second in nanoseconds; digits after the ninth are dropped. -/
def fraction? (cs : List Char) : Option (Nat × List Char) :=
  match cs with
  | '.' :: rest =>
    match Digits.span 9 rest with
    | ([], _) => none
    | (ds, rest) =>
      some (Digits.toNat ds * Nat.pow 10 (9 - ds.length), (Digits.span rest.length rest).2)
  | _ => some (0, cs)

/-- The second of a day and the nanosecond in it. Second 60 of a minute is the second
half of its last second. -/
def timeOfDay? (cs : List Char) : Option (Nat × Nat × List Char) := do
  let (hour, cs) ← number? 2 0 23 cs
  let cs ← separator? ':' cs
  let (minute, cs) ← number? 2 0 59 cs
  let cs ← separator? ':' cs
  let (second, cs) ← number? 2 0 60 cs
  let (nano, cs) ← fraction? cs
  let start := hour * 3600 + minute * 60
  if second = 60 then some (start + 59, nanosPerSecond + nano, cs)
  else some (start + second, nano, cs)

/-- Two digits, of which the first is at most `tens`. -/
def twoDigits? (tens : Nat) : List Char → Option (Nat × List Char)
  | a :: b :: rest => do
    let hi ← Digits.value? a
    let lo ← Digits.value? b
    if hi ≤ tens then some (10 * hi + lo, rest) else none
  | _ => none

/-- An offset of hours and minutes in seconds. Colons and blanks may stand between. -/
def hoursMinutes? (cs : List Char) : Option (Int × List Char) := do
  let (hours, cs) ← twoDigits? 9 cs
  let (minutes, cs) ← twoDigits? 5 (cs.dropWhile fun c => c = ':' || isBlank c)
  let seconds := hours * 3600 + minutes * 60
  if seconds < 86400 then some (seconds, cs) else none

/-- The offset from UTC in seconds: `Z`, `UTC`, or a sign with hours and minutes. -/
def offset? (cs : List Char) : Option (Int × List Char) :=
  match cs with
  | [] => none
  | c :: rest =>
    if (cs.take 3).map Char.toUpper = ['U', 'T', 'C'] then some (0, cs.drop 3)
    else if c = 'Z' ∨ c = 'z' then some (0, rest)
    else if c = '+' then hoursMinutes? rest
    else if c = '-' ∨ c = '−' then (hoursMinutes? rest).map fun (o, rest) => (-o, rest)
    else none

/-- The instant that a list of characters writes out. -/
def read? (cs : List Char) : Option Instant := do
  let (date, cs) ← date? cs
  let cs ← match cs with
    | c :: rest => if c = 'T' ∨ c = 't' ∨ c = ' ' then some rest else none
    | [] => none
  let (second, nano, cs) ← timeOfDay? cs
  let (offset, cs) ← offset? (dropBlanks cs)
  if (dropBlanks cs).isEmpty then
    Instant.mk? (date.dayNumber * secondsPerDay + second - offset) nano
  else none

/-! ### Writing -/

/-- A year: four digits, or a sign and at least four digits outside 0 to 9999. -/
def yearText (year : Int) : String :=
  let digits := Digits.pad 4 year.natAbs
  if 0 ≤ year ∧ year ≤ 9999 then digits
  else if year < 0 then "-" ++ digits
  else "+" ++ digits

/-- The fraction of a second with the fewest of no, three, six and nine digits. -/
def fractionText (nano : Nat) : String :=
  if nano = 0 then ""
  else if nano % 1000000 = 0 then "." ++ Digits.pad 3 (nano / 1000000)
  else if nano % 1000 = 0 then "." ++ Digits.pad 6 (nano / 1000)
  else "." ++ Digits.pad 9 nano

/-- An instant in UTC. -/
def write (t : Instant) : String :=
  let date := Date.ofDayNumber (t.second / secondsPerDay)
  let second := (t.second % secondsPerDay).toNat
  let leap := t.nano / nanosPerSecond
  let dateText :=
    yearText date.year ++ "-" ++ Digits.pad 2 date.month ++ "-" ++ Digits.pad 2 date.day
  let timeText :=
    Digits.pad 2 (second / 3600) ++ ":" ++ Digits.pad 2 (second / 60 % 60) ++ ":" ++
      Digits.pad 2 (second % 60 + leap)
  dateText ++ "T" ++ timeText ++ fractionText (t.nano % nanosPerSecond) ++ "Z"

end Outbox.Timestamp

namespace Outbox.Instant

/-- The instant that a timestamp names. -/
def ofTimestamp? (s : String) : Option Instant := Timestamp.read? s.toList

/-- The timestamp of an instant. -/
def timestamp (t : Instant) : String := Timestamp.write t

instance : ToString Instant := ⟨timestamp⟩

end Outbox.Instant
