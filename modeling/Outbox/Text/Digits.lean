/-!
# Decimal digits

Numbers in text are written with ASCII digits. `Digits.take?` reads some of them off
the front of a text and `Digits.pad` writes a number to a fixed width.
-/

namespace Outbox.Digits

/-- The value of a decimal digit. -/
def value? (c : Char) : Option Nat :=
  if '0' ≤ c ∧ c ≤ '9' then some (c.toNat - '0'.toNat) else none

/-- The number that a list of digits stands for; other characters count as zero. -/
def toNat (cs : List Char) : Nat :=
  cs.foldl (fun n c => 10 * n + (value? c).getD 0) 0

/-- Whether a text begins with a digit. -/
def atFront : List Char → Bool
  | [] => false
  | c :: _ => (value? c).isSome

/-- The digits at the front of a text, at most `limit` of them, and the rest. -/
def span (limit : Nat) (cs : List Char) : List Char × List Char :=
  go limit cs []
where
  /-- Moves digits from the text to those found, the newest first. -/
  go : Nat → List Char → List Char → List Char × List Char
    | 0, cs, found => (found.reverse, cs)
    | _ + 1, [], found => (found.reverse, [])
    | limit + 1, c :: cs, found =>
      if (value? c).isSome then go limit cs (c :: found) else (found.reverse, c :: cs)

/-- The number made of the digits at the front of a text, at most `limit` of them, and
the rest; nothing if there is no digit. -/
def take? (limit : Nat) (cs : List Char) : Option (Nat × List Char) :=
  match span limit cs with
  | ([], _) => none
  | (ds, rest) => some (toNat ds, rest)

/-- A whole text as a number, with an optional plus sign; nothing if it is empty or
holds anything but digits. -/
def number? (cs : List Char) : Option Nat :=
  let digits := match cs with
    | '+' :: rest => rest
    | _ => cs
  match digits with
  | [] => none
  | ds => if ds.all (fun c => (value? c).isSome) then some (toNat ds) else none

/-- A whole text as a number with an optional sign. -/
def integer? (cs : List Char) : Option Int :=
  match cs with
  | '-' :: rest => if atFront rest then (number? rest).map fun n => -(n : Int) else none
  | _ => (number? cs).map Int.ofNat

/-- A number in decimal, with zeros in front up to `width` digits. -/
def pad (width n : Nat) : String :=
  let text := toString n
  String.ofList (List.replicate (width - text.length) '0') ++ text

end Outbox.Digits
