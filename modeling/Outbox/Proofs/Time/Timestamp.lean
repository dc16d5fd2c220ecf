import Outbox.Proofs.Text.Numeral
import Outbox.Proofs.Time.Calendar
import Outbox.Time.Timestamp
import Mathlib.Data.Nat.Digits.Defs

/-!
# Timestamps give their instants back

The reader of timestamps allows for much more than the writer makes use of. What the writer
writes is read piece by piece: every number has as many digits as it may have, or a character
after it that is no digit, and no blank stands in front of it. The date is one of the calendar,
and its day number is the one that it was made of. So each instant is read from its own timestamp
(`ofTimestamp?_timestamp`), leap seconds and signed years included.
-/

namespace Outbox

namespace Digits

/-! ### Numbers of a width -/

/-- The digits at the front of a text end where there may be no more, or where something else
stands. -/
theorem span_go_append {limit : Nat} {ds rest : List Char} (found : List Char)
    (hds : ∀ c ∈ ds, c.isDigit = true) (hlimit : ds.length ≤ limit)
    (hend : ds.length = limit ∨ atFront rest = false) :
    span.go limit (ds ++ rest) found = (found.reverse ++ ds, rest) := by
  induction ds generalizing limit found with
  | nil =>
    rw [List.append_nil, List.nil_append]
    cases limit with
    | zero => rw [span.go]
    | succ limit =>
      have hrest : atFront rest = false := hend.resolve_left (by simp)
      cases rest with
      | nil => rw [span.go]
      | cons c rest =>
        rw [atFront] at hrest
        rw [span.go, hrest]
        rfl
  | cons d ds ih =>
    obtain ⟨hd, hds⟩ := List.forall_mem_cons.1 hds
    cases limit with
    | zero => simp at hlimit
    | succ limit =>
      have hlimit' : ds.length ≤ limit := Nat.le_of_succ_le_succ hlimit
      have hend' : ds.length = limit ∨ atFront rest = false := hend.imp_left Nat.succ.inj
      rw [List.cons_append, span.go, isSome_value?, hd, if_pos rfl,
        ih (d :: found) hds hlimit' hend']
      simp

theorem span_append {limit : Nat} {ds rest : List Char} (hds : ∀ c ∈ ds, c.isDigit = true)
    (hlimit : ds.length ≤ limit) (hend : ds.length = limit ∨ atFront rest = false) :
    span limit (ds ++ rest) = (ds, rest) :=
  span_go_append [] hds hlimit hend

theorem take?_append {limit : Nat} {ds rest : List Char} (hds : AreDigits ds)
    (hlimit : ds.length ≤ limit) (hend : ds.length = limit ∨ atFront rest = false) :
    take? limit (ds ++ rest) = some (Nat.ofDigitChars 10 ds 0, rest) := by
  rw [take?, span_append hds.2 hlimit hend]
  cases ds with
  | nil => exact absurd rfl hds.1
  | cons d ds => simp only [toNat_eq_ofDigitChars hds.2]

theorem toList_pad (width n : Nat) : (pad width n).toList =
    List.replicate (width - (Nat.toDigits 10 n).length) '0' ++ Nat.toDigits 10 n := by
  rw [pad, Nat.toString_eq_ofList_toDigits]
  simp

/-- A padded number consists of digits. -/
theorem areDigits_pad (width n : Nat) : AreDigits (pad width n).toList := by
  obtain ⟨hne, hdigits⟩ := areDigits_toDigits n
  rw [toList_pad]
  refine ⟨List.append_ne_nil_of_right_ne_nil _ hne, ?_⟩
  intro c hc
  rcases List.mem_append.1 hc with hc | hc
  · rw [List.eq_of_mem_replicate hc]
    decide
  · exact hdigits c hc

/-- The digits of a padded number stand for the number. -/
theorem ofDigitChars_pad (width n : Nat) : Nat.ofDigitChars 10 (pad width n).toList 0 = n := by
  rw [toList_pad, Nat.ofDigitChars_append, Nat.ofDigitChars_replicate_zero, Nat.mul_zero,
    Nat.ofDigitChars_ten_toDigits]

theorem length_pad {width n : Nat} (hwidth : 0 < width) (hn : n < 10 ^ width) :
    (pad width n).toList.length = width := by
  have h := Nat.toDigits_length 10 n width hwidth hn
  rw [toList_pad, List.length_append, List.length_replicate]
  omega

/-- A number that fits in its width is read back. -/
theorem take?_pad {width n : Nat} (hwidth : 0 < width) (hn : n < 10 ^ width) (rest : List Char) :
    take? width ((pad width n).toList ++ rest) = some (n, rest) := by
  have hlength := length_pad hwidth hn
  rw [take?_append (areDigits_pad width n) hlength.le (.inl hlength), ofDigitChars_pad]

/-- Any number is read back if something else stands after it. -/
theorem take?_pad_of_end {limit : Nat} (width n : Nat) {rest : List Char}
    (hlimit : (pad width n).toList.length ≤ limit) (hend : atFront rest = false) :
    take? limit ((pad width n).toList ++ rest) = some (n, rest) := by
  rw [take?_append (areDigits_pad width n) hlimit (.inr hend), ofDigitChars_pad]

end Digits

namespace Text

theorem isBlank_of_isDigit {c : Char} (h : c.isDigit = true) : isBlank c = false := by
  obtain ⟨hlow, hhigh⟩ := Digits.toNat_bounds_of_isDigit h
  unfold isBlank
  simp
  omega

theorem dropBlanks_append {ds rest : List Char} (h : Digits.AreDigits ds) :
    dropBlanks (ds ++ rest) = ds ++ rest := by
  cases ds with
  | nil => exact absurd rfl h.1
  | cons d ds =>
    exact List.dropWhile_cons_of_neg (by simp [isBlank_of_isDigit (h.2 d List.mem_cons_self)])

end Text

namespace Timestamp

open Digits

/-! ### The date -/

theorem number?_pad {width low high n : Nat} (hwidth : 0 < width) (hn : n < 10 ^ width)
    (hlow : low ≤ n) (hhigh : n ≤ high) (rest : List Char) :
    number? width low high ((pad width n).toList ++ rest) = some (n, rest) := by
  rw [number?, Text.dropBlanks_append (areDigits_pad width n), take?_pad hwidth hn]
  simp [hlow, hhigh]

theorem separator?_cons {c : Char} (h : Text.isBlank c = false) (rest : List Char) :
    separator? c (c :: rest) = some rest := by
  rw [separator?, Text.dropBlanks, List.dropWhile_cons_of_neg (by simp [h])]
  simp

/-- A year without a sign. -/
theorem year?_digits {n : Nat} (hn : n < 10 ^ 4) (rest : List Char) :
    year? ((pad 4 n).toList ++ rest) = some ((n : Int), rest) := by
  have htake := take?_pad (by decide) hn rest
  obtain ⟨hne, hdigits⟩ := areDigits_pad 4 n
  rw [year?, Text.dropBlanks_append (areDigits_pad 4 n)]
  generalize (pad 4 n).toList = ds at htake hne hdigits
  cases ds with
  | nil => exact absurd rfl hne
  | cons d ds =>
    have hd : d.isDigit = true := hdigits d List.mem_cons_self
    rw [List.cons_append] at htake ⊢
    split
    · next heq =>
      rw [(List.cons.inj heq).1] at hd
      exact absurd hd (by decide)
    · next heq =>
      rw [(List.cons.inj heq).1] at hd
      exact absurd hd (by decide)
    · have hbounds : minYear ≤ (n : Int) ∧ (n : Int) ≤ maxYear := by
        rw [minYear, maxYear]
        omega
      simp [htake, hbounds]

/-- A year with a sign. The digits end where the separator stands. -/
theorem year?_minus {n : Nat} (hn : minYear ≤ -(n : Int)) {rest : List Char}
    (hend : atFront rest = false) :
    year? ('-' :: ((pad 4 n).toList ++ rest)) = some (-(n : Int), rest) := by
  have hlimit : (pad 4 n).toList.length ≤ ((pad 4 n).toList ++ rest).length := by simp
  have hblank : Text.dropBlanks ('-' :: ((pad 4 n).toList ++ rest)) =
      '-' :: ((pad 4 n).toList ++ rest) := List.dropWhile_cons_of_neg (by decide)
  have hmax : -(n : Int) ≤ maxYear := by
    rw [maxYear]
    omega
  rw [year?, hblank]
  simp only [take?_pad_of_end 4 n hlimit hend]
  simp [hn, hmax]

theorem year?_plus {n : Nat} (hn : (n : Int) ≤ maxYear) {rest : List Char}
    (hend : atFront rest = false) :
    year? ('+' :: ((pad 4 n).toList ++ rest)) = some ((n : Int), rest) := by
  have hlimit : (pad 4 n).toList.length ≤ ((pad 4 n).toList ++ rest).length := by simp
  have hblank : Text.dropBlanks ('+' :: ((pad 4 n).toList ++ rest)) =
      '+' :: ((pad 4 n).toList ++ rest) := List.dropWhile_cons_of_neg (by decide)
  have hmin : minYear ≤ (n : Int) := by
    rw [minYear]
    omega
  rw [year?, hblank]
  simp only [take?_pad_of_end 4 n hlimit hend]
  simp [hn, hmin]

/-- Every year of the calendar is read back from its text. -/
theorem year?_yearText {year : Int} (hmin : minYear ≤ year) (hmax : year ≤ maxYear)
    {rest : List Char} (hend : atFront rest = false) :
    year? ((yearText year).toList ++ rest) = some (year, rest) := by
  unfold yearText
  by_cases hplain : 0 ≤ year ∧ year ≤ 9999
  · have hvalue : (year.natAbs : Int) = year := by omega
    rw [if_pos hplain, year?_digits (by omega), hvalue]
  · rw [if_neg hplain]
    by_cases hsign : year < 0
    · have hvalue : -(year.natAbs : Int) = year := by omega
      have hbound : minYear ≤ -(year.natAbs : Int) := by rwa [hvalue]
      rw [if_pos hsign, String.toList_append]
      refine (year?_minus hbound hend).trans ?_
      rw [hvalue]
    · have hvalue : (year.natAbs : Int) = year := by omega
      have hbound : (year.natAbs : Int) ≤ maxYear := by rwa [hvalue]
      rw [if_neg hsign, String.toList_append]
      refine (year?_plus hbound hend).trans ?_
      rw [hvalue]

/-- A date of the calendar is read back from its text. -/
theorem date?_write {d : Date} (hvalid : d.isValid = true) (hmin : minYear ≤ d.year)
    (hmax : d.year ≤ maxYear) (rest : List Char) :
    date? ((yearText d.year).toList ++ '-' :: ((pad 2 d.month).toList ++
      '-' :: ((pad 2 d.day).toList ++ rest))) = some (d, rest) := by
  obtain ⟨hmonth, hday⟩ : (1 ≤ d.month ∧ d.month ≤ 12) ∧ 1 ≤ d.day ∧ d.day ≤ 31 := by
    have hlength : Date.monthLength d.year d.month ≤ 31 := by
      rw [Date.monthLength]
      split
      · split <;> decide
      · split <;> decide
    simp only [Date.isValid, Bool.and_eq_true, decide_eq_true_eq] at hvalid
    omega
  have hend (cs : List Char) : atFront ('-' :: cs) = false := rfl
  rw [date?, year?_yearText hmin hmax (hend _)]
  simp only [Option.bind_eq_bind, Option.bind_some]
  rw [separator?_cons (by decide), Option.bind_some,
    number?_pad (by decide) (by omega) hmonth.1 hmonth.2, Option.bind_some,
    separator?_cons (by decide), Option.bind_some,
    number?_pad (by decide) (by omega) hday.1 hday.2, Option.bind_some]
  exact if_pos hvalid

/-! ### The time of day -/

/-- The digits of a fraction stand for as many nanoseconds as there are digits missing. -/
theorem fraction?_pad {width n : Nat} (hwidth : 0 < width) (hnine : width ≤ 9)
    (hn : n < 10 ^ width) {rest : List Char} (hend : atFront rest = false) :
    fraction? ('.' :: ((pad width n).toList ++ rest)) = some (n * 10 ^ (9 - width), rest) := by
  have hlength := length_pad hwidth hn
  obtain ⟨hne, hdigits⟩ := areDigits_pad width n
  have hspan : span 9 ((pad width n).toList ++ rest) = ((pad width n).toList, rest) :=
    span_append hdigits (hlength.le.trans hnine) (.inr hend)
  have hnone : span rest.length ([] ++ rest) = ([], rest) :=
    span_append (by simp) (Nat.zero_le _) (.inr hend)
  have hvalue : Digits.toNat (pad width n).toList = n :=
    (toNat_eq_ofDigitChars hdigits).trans (ofDigitChars_pad width n)
  rw [List.nil_append] at hnone
  simp only [fraction?, hspan, hvalue, hlength, hnone]
  rfl

/-- A fraction of a second is read back from the fewest digits that lose nothing. -/
theorem fraction?_fractionText {nano : Nat} (hnano : nano < nanosPerSecond) {rest : List Char}
    (hpoint : rest.head? ≠ some '.') (hend : atFront rest = false) :
    fraction? ((fractionText nano).toList ++ rest) = some (nano, rest) := by
  have hbound : nano < 1000000000 := hnano
  unfold fractionText
  split
  · next hzero =>
    rw [hzero, String.toList_empty, List.nil_append, fraction?]
    rintro cs rfl
    exact hpoint rfl
  · split
    · rw [String.toList_append]
      refine (fraction?_pad (by decide) (by decide) (by omega) hend).trans ?_
      congr 2
      omega
    · split
      · rw [String.toList_append]
        refine (fraction?_pad (by decide) (by decide) (by omega) hend).trans ?_
        congr 2
        omega
      · rw [String.toList_append]
        refine (fraction?_pad (by decide) (by decide) (by omega) hend).trans ?_
        congr 2
        omega

/-- A time of day is read back; a leap second stands as second 60. -/
theorem timeOfDay?_write {second leap nano : Nat} (hsecond : second < 86400)
    (hleap : leap = 0 ∨ leap = 1 ∧ second % 60 = 59) (hnano : nano < nanosPerSecond) :
    timeOfDay? ((pad 2 (second / 3600)).toList ++ ':' :: ((pad 2 (second / 60 % 60)).toList ++
      ':' :: ((pad 2 (second % 60 + leap)).toList ++ ((fractionText nano).toList ++ ['Z'])))) =
      some (second, leap * nanosPerSecond + nano, ['Z']) := by
  rw [timeOfDay?, number?_pad (by decide) (by omega) (Nat.zero_le _) (by omega)]
  simp only [Option.bind_eq_bind, Option.bind_some]
  rw [separator?_cons (by decide), Option.bind_some,
    number?_pad (by decide) (by omega) (Nat.zero_le _) (by omega), Option.bind_some,
    separator?_cons (by decide), Option.bind_some,
    number?_pad (by decide) (by omega) (Nat.zero_le _) (by omega), Option.bind_some,
    fraction?_fractionText hnano (by decide) (by decide), Option.bind_some]
  split
  · next hsixty =>
    have hone : leap = 1 := by omega
    congr 2
    · omega
    · rw [hone, Nat.one_mul]
  · next hsixty =>
    have hzero : leap = 0 := by omega
    congr 2
    · omega
    · rw [hzero, Nat.zero_mul, Nat.zero_add]

/-- A date and a time of day in UTC make an instant. -/
theorem read?_eq {cs time : List Char} {d : Date} {second nano : Nat}
    (hdate : date? cs = some (d, 'T' :: time))
    (htime : timeOfDay? time = some (second, nano, ['Z'])) :
    read? cs = Instant.mk? (d.dayNumber * secondsPerDay + second) nano := by
  have hoffset : offset? (Text.dropBlanks ['Z']) = some (0, []) := by decide
  rw [read?, hdate]
  simp only [Option.bind_eq_bind, Option.bind_some, true_or, if_true]
  rw [htime, Option.bind_some]
  simp only [hoffset, Option.bind_some, Int.sub_zero]
  rfl

end Timestamp

namespace Instant

open Timestamp

/-- The years of the instants are those of the calendar. -/
theorem year_bounds (t : Instant) :
    minYear ≤ (Date.ofDayNumber (t.second / secondsPerDay)).year ∧
      (Date.ofDayNumber (t.second / secondsPerDay)).year ≤ maxYear := by
  obtain ⟨hmin, hmax, -, -⟩ := t.isPoint
  have hmin : (-8334601228800 : Int) ≤ t.second := hmin
  have hmax : t.second ≤ 8210266876799 := hmax
  exact Date.year_ofDayNumber_bounds (by rw [secondsPerDay]; omega) (by rw [secondsPerDay]; omega)

/-- Every instant is read back from its timestamp. -/
theorem ofTimestamp?_timestamp (t : Instant) : ofTimestamp? t.timestamp = some t := by
  obtain ⟨-, -, hnano, hlong⟩ := t.isPoint
  obtain ⟨hyearMin, hyearMax⟩ := t.year_bounds
  have hleap : t.nano / nanosPerSecond = 0 ∨
      t.nano / nanosPerSecond = 1 ∧ (t.second % secondsPerDay).toNat % 60 = 59 := by
    rw [nanosPerSecond] at *
    rw [secondsPerDay]
    omega
  have hsecond : (t.second % secondsPerDay).toNat < 86400 := by
    rw [secondsPerDay]
    omega
  have hdate := date?_write (Date.isValid_ofDayNumber _) hyearMin hyearMax
  have htime := timeOfDay?_write hsecond hleap (Nat.mod_lt t.nano (by decide))
  have hday : (Date.ofDayNumber (t.second / secondsPerDay)).dayNumber * secondsPerDay +
      ((t.second % secondsPerDay).toNat : Int) = t.second := by
    rw [Date.dayNumber_ofDayNumber, secondsPerDay]
    omega
  have hnanos : t.nano / nanosPerSecond * nanosPerSecond + t.nano % nanosPerSecond = t.nano :=
    Nat.div_add_mod' ..
  have hread := read?_eq (hdate _) htime
  rw [hday, hnanos, mk?, dif_pos t.isPoint] at hread
  have hdash : "-".toList = ['-'] := rfl
  have hcolon : ":".toList = [':'] := rfl
  have hmiddle : "T".toList = ['T'] := rfl
  have hutc : "Z".toList = ['Z'] := rfl
  simp only [ofTimestamp?, timestamp, write, String.toList_append, List.append_assoc,
    List.cons_append, List.nil_append, hdash, hcolon, hmiddle, hutc]
  exact hread

end Instant

end Outbox
