import Outbox.Decimal.Binary64
import Outbox.Text.Digits

/-!
# Decimal numbers as text

A decimal number is read as a whole number times a power of ten and rounded once, to the
nearest number in floating point.
-/

namespace Outbox.Decimal

/-- A decimal number, rounded once: a whole number times a power of ten. -/
def round (negative : Bool) (whole : Nat) (exponent : Int) : Binary64 :=
  if whole = 0 then ⟨negative, 0⟩
  else if 400 < exponent then ⟨negative, Binary64.infinity⟩
  else if exponent < -(400 + (toString whole).length : Nat) then ⟨negative, 0⟩
  else
    ⟨negative,
      Binary64.roundRatio (whole * Binary64.tenTo exponent.toNat)
        (Binary64.tenTo (-exponent).toNat)⟩

/-- A sign in front of a number, and the rest. -/
def sign : List Char → Bool × List Char
  | '-' :: rest => (true, rest)
  | '+' :: rest => (false, rest)
  | cs => (false, cs)

/-- A decimal number with an optional sign, point and exponent, and at least one digit
before or after the point. -/
def parse? (cs : List Char) : Option Binary64 := do
  let (negative, cs) := sign cs
  let word := cs.map Char.toLower
  if word = "inf".toList ∨ word = "infinity".toList then some ⟨negative, Binary64.infinity⟩
  else if word = "nan".toList then some Binary64.nan
  else
    let whole := cs.takeWhile Char.isDigit
    let rest := cs.dropWhile Char.isDigit
    let (fraction, rest) := match rest with
      | '.' :: rest => (rest.takeWhile Char.isDigit, rest.dropWhile Char.isDigit)
      | rest => ([], rest)
    if whole.isEmpty && fraction.isEmpty then none
    else
      let exponent ← match rest with
        | [] => some 0
        | 'e' :: digits | 'E' :: digits => Digits.integer? digits
        | _ => none
      some (round negative (Digits.toNat (whole ++ fraction)) (exponent - fraction.length))

end Outbox.Decimal
