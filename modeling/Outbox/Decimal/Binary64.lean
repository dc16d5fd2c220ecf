/-!
# Binary floating point

Numbers of the 64-bit binary format: a sign and a magnitude that lists the finite
numbers from zero upwards, so that magnitudes compare as the numbers do and the
neighbour of a number is one away. Everything is exact arithmetic on natural numbers:
a product or quotient is formed as a fraction and rounded once, to the nearest number
and from halfway to the even magnitude.

`Binary64.text` writes the shortest decimal that is rounded to the number it started
from.
-/

namespace Outbox

/-- A number of the 64-bit binary format. -/
structure Binary64 where
  /-- Below zero, or the negative zero. -/
  negative : Bool
  /-- Its place among the magnitudes: eleven bits of exponent, fifty-two of fraction. -/
  magnitude : Nat
  deriving DecidableEq, Repr

namespace Binary64

/-- A power of two. -/
abbrev twoTo (k : Nat) : Nat := Nat.pow 2 k

/-- A power of ten. -/
abbrev tenTo (k : Nat) : Nat := Nat.pow 10 k

/-- How many magnitudes share an exponent: 2⁵². -/
abbrev binade : Nat := 4503599627370496

/-- The magnitude at which infinity stands; what lies above is not a number. -/
def infinity : Nat := 2047 * binade

/-- Zero. -/
def zero : Binary64 := ⟨false, 0⟩

/-- One. -/
def one : Binary64 := ⟨false, 1023 * binade⟩

/-- Not a number. -/
def nan : Binary64 := ⟨false, infinity + binade / 2⟩

instance : Inhabited Binary64 := ⟨zero⟩

/-- Whether a number is not below zero and not above one. The negative zero is not
below zero. -/
def isUnit (x : Binary64) : Bool :=
  x.magnitude = 0 || (!x.negative && x.magnitude ≤ one.magnitude)

/-! ### Rounding -/

/-- A quotient rounded to the nearest integer, from halfway to the even one. -/
def roundQuotient (num den : Nat) : Nat :=
  let low := num / den
  let twice := 2 * (num % den)
  if twice < den then low
  else if den < twice then low + 1
  else if low % 2 = 0 then low else low + 1

/-- The greatest `k` with `2 ^ k ≤ num / den`, for positive `num` and `den`. -/
def floorLog2 (num den : Nat) : Int :=
  let k : Int := (Nat.log2 num : Int) - Nat.log2 den
  let fits := if 0 ≤ k then den * twoTo k.toNat ≤ num else den ≤ num * twoTo (-k).toNat
  if fits then k else k - 1

/-- The exponent of the last fraction bit of the smallest numbers. -/
def minExponent : Int := -1074

/-- The magnitude nearest to a fraction; from halfway past the last number on,
infinity. -/
def roundRatio (num den : Nat) : Nat :=
  if num = 0 ∨ den = 0 then 0
  else
    let q := max (floorLog2 num den - 52) minExponent
    let s :=
      if 0 ≤ q then roundQuotient num (den * twoTo q.toNat)
      else roundQuotient (num * twoTo (-q).toNat) den
    min ((q - minExponent).toNat * binade + s) infinity

/-- The whole number and the power of two whose product a finite magnitude is. -/
def parts (magnitude : Nat) : Nat × Int :=
  let e : Nat := magnitude / binade
  let m : Nat := magnitude % binade
  if e = 0 then (m, minExponent) else (binade + m, (e : Int) - 1 + minExponent)

/-- A finite magnitude as a fraction. -/
def toRatio (magnitude : Nat) : Nat × Nat :=
  let (s, q) := parts magnitude
  if 0 ≤ q then (s * twoTo q.toNat, 1) else (s, twoTo (-q).toNat)

/-- The product of two finite magnitudes, rounded. -/
def mul (a b : Nat) : Nat :=
  let (an, ad) := toRatio a
  let (bn, bd) := toRatio b
  roundRatio (an * bn) (ad * bd)

/-- The quotient of two finite magnitudes, rounded. -/
def div (a b : Nat) : Nat :=
  let (an, ad) := toRatio a
  let (bn, bd) := toRatio b
  roundRatio (an * bd) (ad * bn)

/-- The number nearest to an integer. -/
def ofInt (n : Int) : Binary64 := ⟨n < 0, roundRatio n.natAbs 1⟩

/-! ### Decimal numbers

A decimal number is a whole number times a power of ten. The whole number and the
power are rounded on their own, and their product or quotient once more; powers past
10³⁰⁸ are divided out in steps of that size. -/

/-- The magnitude of a power of ten. -/
def powerOfTen (k : Nat) : Nat := roundRatio (tenTo k) 1

/-- Divides by a power of ten, in steps of 10³⁰⁸. The steps end when nothing is left of
the number, so `fuel` need not exceed three. -/
def scaleDown : Nat → Nat → Nat → Nat
  | 0, x, _ => x
  | fuel + 1, x, k =>
    if k ≤ 308 then div x (powerOfTen k)
    else if x = 0 then 0
    else scaleDown fuel (div x (powerOfTen 308)) (k - 308)

/-- The magnitude read from a whole number and a power of ten, if it is finite. -/
def ofDecimal? (whole : Nat) (exponent : Int) : Option Nat :=
  let x := roundRatio whole 1
  if 0 ≤ exponent then
    if x = 0 then some 0
    else if 308 < exponent then none
    else
      let y := mul x (powerOfTen exponent.toNat)
      if y < infinity then some y else none
  else some (scaleDown 4 x (-exponent).toNat)

/-! ### Shortest text -/

/-- Where the numbers end that are rounded to a positive finite magnitude: four times
its whole number less and more, and the exponent of that quarter. -/
def interval (magnitude : Nat) : Nat × Nat × Nat × Int :=
  let (s, q) := parts magnitude
  let below := if s = binade ∧ minExponent < q then 4 * s - 1 else 4 * s - 2
  (below, 4 * s, 4 * s + 2, q - 2)

/-- Compares `a * 2 ^ i` with `b * 10 ^ j`. -/
def compareScaled (a : Nat) (i : Int) (b : Nat) (j : Int) : Ordering :=
  compare (a * twoTo i.toNat * tenTo (-j).toNat) (b * twoTo (-i).toNat * tenTo j.toNat)

/-- The whole part of `a * 2 ^ i / 10 ^ j`. -/
def floorScaled (a : Nat) (i : Int) (j : Int) : Nat :=
  (a * twoTo i.toNat * tenTo (-j).toNat) / (twoTo (-i).toNat * tenTo j.toNat)

/-- The shortest decimal digits, as a whole number and a power of ten, that are
rounded to a positive finite magnitude; of two equally short ones the nearer. -/
def shortest (magnitude : Nat) : Nat × Int :=
  let (low, mid, high, q) := interval magnitude
  let even := (parts magnitude).1 % 2 = 0
  let top : Int := ((Nat.toDigits 10 (floorScaled mid q (-400))).length : Int) - 401
  let fits (d : Nat) (p : Int) : Bool :=
    let l := compareScaled low q d p
    let h := compareScaled high q d p
    (l == .lt || (even && l == .eq)) && (h == .gt || (even && h == .eq))
  let rec go : Nat → Int → Nat × Int
    | 0, p => (floorScaled mid q p, p)
    | fuel + 1, p =>
      let d := floorScaled mid q p
      match fits d p, fits (d + 1) p with
      | true, true =>
        if compareScaled (2 * mid) q (2 * d + 1) p == .gt then (d + 1, p) else (d, p)
      | true, false => (d, p)
      | false, true => (d + 1, p)
      | false, false => go fuel (p - 1)
  go 20 top

/-- Drops the zeros at the end of a positive number, raising its power of ten. -/
def normalize : Nat → Nat → Int → Nat × Int
  | 0, d, p => (d, p)
  | fuel + 1, d, p => if d % 10 = 0 then normalize fuel (d / 10) (p + 1) else (d, p)

/-- Digits and a power of ten in positional notation where the point stands near the
digits, and with an exponent elsewhere. -/
def decimalText (digits : String) (p : Int) : String :=
  let n := digits.length
  let point := n + p
  if 0 ≤ p ∧ point ≤ 16 then digits ++ String.ofList (List.replicate p.toNat '0') ++ ".0"
  else if 0 < point ∧ point ≤ 16 then
    String.ofList (digits.toList.take point.toNat) ++ "." ++
      String.ofList (digits.toList.drop point.toNat)
  else if -5 < point ∧ point ≤ 0 then
    "0." ++ String.ofList (List.replicate (-point).toNat '0') ++ digits
  else
    let tail := if n = 1 then "" else "." ++ String.ofList (digits.toList.drop 1)
    String.ofList (digits.toList.take 1) ++ tail ++ "e" ++ toString (point - 1)

/-- The shortest text that reads back as a finite number. -/
def text (x : Binary64) : String :=
  let body :=
    if x.magnitude = 0 then "0.0"
    else
      let (d, p) := shortest x.magnitude
      let (d, p) := normalize 20 d p
      decimalText (toString d) p
  if x.negative then "-" ++ body else body

end Binary64

end Outbox
