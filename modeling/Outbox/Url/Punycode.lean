/-!
# Punycode

Names with characters beyond ASCII as names of letters, digits and hyphens. The ASCII
characters come first; then each other character, in the order of its number, is
written as the distance from the one before it, in digits of base 36 whose weights adapt
to the distances seen so far.
-/

namespace Outbox.Punycode

/-- The digit for a value below 36. -/
def digit (n : Nat) : Char :=
  if n < 26 then Char.ofNat ('a'.toNat + n) else Char.ofNat ('0'.toNat + n - 26)

/-- The value of a digit. -/
def value? (c : Char) : Option Nat :=
  if 'a' ≤ c ∧ c ≤ 'z' then some (c.toNat - 'a'.toNat)
  else if 'A' ≤ c ∧ c ≤ 'Z' then some (c.toNat - 'A'.toNat)
  else if '0' ≤ c ∧ c ≤ '9' then some (c.toNat - '0'.toNat + 26)
  else none

/-- The threshold of the digit at position `k`, between 1 and 26. -/
def threshold (k bias : Nat) : Nat := max 1 (min 26 (k - bias))

/-- Divides until little is left, and counts 36 for every division. -/
def settle : Nat → Nat → Nat → Nat
  | 0, _, k => k
  | fuel + 1, delta, k =>
    if 455 < delta then settle fuel (delta / 35) (k + 36) else k + 36 * delta / (delta + 38)

/-- The bias after a distance. -/
def adapt (delta points : Nat) (first : Bool) : Nat :=
  let delta := if first then delta / 700 else delta / 2
  settle 32 (delta + delta / points) 0

/-! ### Writing -/

/-- A distance in digits. -/
def writeDigits : Nat → Nat → Nat → Nat → List Char
  | 0, _, _, _ => []
  | fuel + 1, bias, k, q =>
    let t := threshold k bias
    if q < t then [digit q]
    else digit (t + (q - t) % (36 - t)) :: writeDigits fuel bias (k + 36) ((q - t) / (36 - t))

/-- The state of the writer: the text in reverse, the distance, the bias, and how many
characters are written. -/
structure Writer where
  /-- What is written, the last character first. -/
  done : List Char
  /-- The distance from the last character written. -/
  delta : Nat
  /-- The bias. -/
  bias : Nat
  /-- How many characters are written. -/
  handled : Nat

/-- Passes one character of the name while the characters numbered `n` are written. -/
def Writer.pass (basic n : Nat) (w : Writer) (c : Char) : Writer :=
  if c.toNat < n then { w with delta := w.delta + 1 }
  else if c.toNat = n then
    { done := (writeDigits 32 w.bias 36 w.delta).reverse ++ w.done
      delta := 0
      bias := adapt w.delta (w.handled + 1) (w.handled == basic)
      handled := w.handled + 1 }
  else w

/-- Writes the characters with the given numbers, which ascend; `n` is the next number. -/
def writeAll (name : List Char) (basic : Nat) : List Nat → Nat → Writer → Writer
  | [], _, w => w
  | m :: ms, n, w =>
    let w := { w with delta := w.delta + (m - n) * (w.handled + 1) }
    let w := name.foldl (Writer.pass basic m) w
    writeAll name basic ms (m + 1) { w with delta := w.delta + 1 }

/-- A name in ASCII, without the mark in front. -/
def encode (name : List Char) : List Char :=
  let plain := name.filter fun c => c.toNat < 0x80
  let others := ((name.filter fun c => 0x80 ≤ c.toNat).map Char.toNat).mergeSort
  let start := if plain.isEmpty then [] else '-' :: plain.reverse
  let w := writeAll name plain.length others.eraseDups 0x80 ⟨start, 0, 72, plain.length⟩
  w.done.reverse

/-! ### Reading -/

/-- Reads a distance: adds up weighted digits until one is below its threshold. -/
def readDigits (bias : Nat) : List Char → Nat → Nat → Nat → Option (Nat × List Char)
  | [], _, _, _ => none
  | c :: cs, k, weight, sum => do
    let d ← value? c
    let sum := sum + d * weight
    let t := threshold k bias
    if d < t then some (sum, cs) else readDigits bias cs (k + 36) (weight * (36 - t)) sum

/-- Reads the characters beyond ASCII into a name. -/
def readAll : Nat → List Char → Nat → Nat → Nat → List Char → Option (List Char)
  | 0, _, _, _, _, _ => none
  | _ + 1, [], _, _, _, name => some name
  | fuel + 1, cs, n, i, bias, name => do
    let (delta, rest) ← readDigits bias cs 36 1 0
    let points := name.length + 1
    let place := i + delta
    let n := n + place / points
    let place := place % points
    if h : n.isValidChar then
      readAll fuel rest n (place + 1) (adapt delta points (i == 0))
        (name.take place ++ Char.ofNatAux n h :: name.drop place)
    else none

/-- The name that a text in ASCII stands for, without the mark in front. -/
def decode? (text : List Char) : Option (List Char) :=
  let reversed := text.reverse
  let tail := (reversed.takeWhile (· ≠ '-')).reverse
  let plain := ((reversed.dropWhile (· ≠ '-')).drop 1).reverse
  readAll (text.length + 1) tail 0x80 0 72 plain

end Outbox.Punycode
