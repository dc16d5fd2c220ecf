import Outbox.Time.Calendar

/-!
# Dates and their day numbers

A date is computed from a day number by divisions of which none is exact: the years of a cycle
are not of one length, and neither are the months of a year. What the divisions find is said here
by `CycleDay`, the place of a day in its cycle of 400 years, counted from March. `ofDayNumber` and
`dayNumber` are both taken apart by it, so each day number has a date of the calendar
(`isValid_ofDayNumber`), and that date has the day number (`dayNumber_ofDayNumber`).
-/

namespace Outbox

namespace Date

/-- A day of a cycle of 400 years, by century, period of four years, year and day of the year.
The year begins in March, so that the leap day is the last one, and only the last year of a period
has it. The last period of a century goes without, except in the last century. -/
structure CycleDay where
  century : Int
  period : Int
  year : Int
  day : Int
  century_bounds : 0 ≤ century ∧ century ≤ 3
  period_bounds : 0 ≤ period ∧ period ≤ 24
  year_bounds : 0 ≤ year ∧ year ≤ 3
  day_bounds : 0 ≤ day ∧ day ≤ 365
  leap : day = 365 → year = 3 ∧ (period < 24 ∨ century = 3)

namespace CycleDay

/-- The number of the day in the cycle. -/
def number (c : CycleDay) : Int :=
  36524 * c.century + 1461 * c.period + 365 * c.year + c.day

/-- The number of the year in the cycle. -/
def yearNumber (c : CycleDay) : Int := 100 * c.century + 4 * c.period + c.year

/-- Each day of a cycle has such a place. -/
theorem exists_number_eq {n : Int} (hlow : 0 ≤ n) (hhigh : n < daysPerCycle) :
    ∃ c : CycleDay, c.number = n := by
  rw [daysPerCycle] at hhigh
  obtain ⟨century, hcentury⟩ : ∃ century, century = min (n / 36524) 3 := ⟨_, rfl⟩
  obtain ⟨rest, hrest⟩ : ∃ rest, rest = n - 36524 * century := ⟨_, rfl⟩
  obtain ⟨year, hyear⟩ : ∃ year, year = min (rest % 1461 / 365) 3 := ⟨_, rfl⟩
  refine ⟨⟨century, rest / 1461, year, rest % 1461 - 365 * year, ?_, ?_, ?_, ?_, ?_⟩, ?_⟩
  · omega
  · omega
  · omega
  · omega
  · omega
  · show 36524 * century + 1461 * (rest / 1461) + 365 * year + (rest % 1461 - 365 * year) = n
    omega

/-- The days of the cycle that are counted when years of 365 days are: one for each century, but
for the last day of all. -/
theorem centuries_eq (c : CycleDay) :
    c.number / 36524 - c.number / 146096 = c.century := by
  obtain ⟨h, k, s, d, hh, hk, hs, hd, hleap⟩ := c
  simp only [number]
  have hend : 36524 * h + 1461 * k + 365 * s + d ≤ 36524 * h + 36523 ∨
      h = 3 ∧ 36524 * h + 1461 * k + 365 * s + d = 146096 := by omega
  have hlow : 36524 * h ≤ 36524 * h + 1461 * k + 365 * s + d := by omega
  generalize 36524 * h + 1461 * k + 365 * s + d = n at hend hlow ⊢
  clear hleap
  rcases hend with hend | ⟨rfl, rfl⟩
  · omega
  · decide

/-- Periods of 1460 days are one for each leap period, and one more late in a cycle. -/
theorem periods_cases (c : CycleDay) :
    c.number / 1460 = 25 * c.century + c.period ∧
        24 * c.century + c.period + 365 * c.year + c.day < 1460 ∨
      c.number / 1460 = 25 * c.century + c.period + 1 ∧
        1460 ≤ 24 * c.century + c.period + 365 * c.year + c.day := by
  obtain ⟨h, k, s, d, hh, hk, hs, hd, -⟩ := c
  simp only [number]
  have hsum : 36524 * h + 1461 * k + 365 * s + d =
      1460 * (25 * h + k) + (24 * h + k + 365 * s + d) := by omega
  have hle : 0 ≤ 24 * h + k + 365 * s + d ∧ 24 * h + k + 365 * s + d < 2920 := by omega
  rw [hsum]
  generalize 24 * h + k + 365 * s + d = t at hle ⊢
  omega

/-- The year of a day in its cycle. -/
theorem yearOfCycle_eq (c : CycleDay) :
    (c.number - c.number / 1460 + c.number / 36524 - c.number / 146096) / 365 = c.yearNumber := by
  have hcenturies := c.centuries_eq
  have hperiods := c.periods_cases
  have hnumber : c.number = 36524 * c.century + 1461 * c.period + 365 * c.year + c.day := rfl
  have hshort : c.number - c.number / 1460 + c.number / 36524 - c.number / 146096 =
      365 * c.yearNumber + (c.day - (c.number / 1460 - 25 * c.century - c.period)) := by
    rw [yearNumber]
    omega
  have hday : 0 ≤ c.day - (c.number / 1460 - 25 * c.century - c.period) ∧
      c.day - (c.number / 1460 - 25 * c.century - c.period) < 365 := by
    obtain ⟨h, k, s, d, hh, hk, hs, hd, hleap⟩ := c
    simp only at hperiods ⊢
    clear hcenturies hnumber hshort
    omega
  rw [hshort]
  generalize c.day - (c.number / 1460 - 25 * c.century - c.period) = t at hday ⊢
  generalize c.yearNumber = y
  omega

/-- The day of a day in its year. -/
theorem dayOfYear_eq (c : CycleDay) :
    c.number - (365 * c.yearNumber + c.yearNumber / 4 - c.yearNumber / 100) = c.day := by
  obtain ⟨h, k, s, d, hh, hk, hs, -, -⟩ := c
  simp only [number, yearNumber]
  have hfour : (100 * h + 4 * k + s) / 4 = 25 * h + k := by omega
  have hhundred : (100 * h + 4 * k + s) / 100 = h := by omega
  omega

theorem yearNumber_bounds (c : CycleDay) : 0 ≤ c.yearNumber ∧ c.yearNumber < 400 := by
  obtain ⟨h, k, s, d, hh, hk, hs, -, -⟩ := c
  simp only [yearNumber]
  omega

/-! ### Months -/

/-- The month of the day, counted from March. -/
def month (c : CycleDay) : Int := (5 * c.day + 2) / 153

/-- The day of its month, counted from none. -/
def dayOfMonth (c : CycleDay) : Int := c.day - (153 * c.month + 2) / 5

theorem month_bounds (c : CycleDay) : 0 ≤ c.month ∧ c.month ≤ 11 := by
  have hday := c.day_bounds
  rw [month]
  omega

theorem dayOfMonth_nonneg (c : CycleDay) : 0 ≤ c.dayOfMonth := by
  have hday := c.day_bounds
  rw [dayOfMonth, month]
  omega

/-- The date of a day, by its cycle and its place there. January and February are months of the
next year. -/
def date (c : CycleDay) (cycle : Int) : Date :=
  if c.month < 10 then
    ⟨c.yearNumber + cycle * 400, (c.month + 3).toNat, (c.dayOfMonth + 1).toNat⟩
  else ⟨c.yearNumber + cycle * 400 + 1, (c.month - 9).toNat, (c.dayOfMonth + 1).toNat⟩

/-- The leap day is in a leap year. -/
theorem isLeapYear_of_leap (c : CycleDay) (cycle : Int) (h : c.day = 365) :
    isLeapYear (c.yearNumber + cycle * 400 + 1) = true := by
  obtain ⟨hyear, hcase⟩ := c.leap h
  have hcentury := c.century_bounds
  have hperiod := c.period_bounds
  simp only [isLeapYear, yearNumber, Bool.and_eq_true, Bool.or_eq_true, beq_iff_eq, bne_iff_ne]
  omega

/-- The month has the day. -/
theorem dayOfMonth_lt (c : CycleDay) (cycle : Int) :
    (c.dayOfMonth + 1).toNat ≤ monthLength (c.date cycle).year (c.date cycle).month := by
  have hday := c.day_bounds
  have hdefinition : c.month = (5 * c.day + 2) / 153 := rfl
  have hmonth : (c.month = 0 ∨ c.month = 1 ∨ c.month = 2 ∨ c.month = 3 ∨ c.month = 4 ∨
      c.month = 5 ∨ c.month = 6 ∨ c.month = 7 ∨ c.month = 8 ∨ c.month = 9 ∨ c.month = 10) ∨
        c.month = 11 := by
    have hbounds := c.month_bounds
    omega
  rcases hmonth with hmonth | h
  · rcases hmonth with h | h | h | h | h | h | h | h | h | h | h
    all_goals
      simp only [date, dayOfMonth, monthLength, h]
      simp
      omega
  · -- The last month is February, which is longer in a leap year.
    have hleap := c.isLeapYear_of_leap cycle
    simp only [date, dayOfMonth, monthLength, h]
    by_cases hlast : c.day = 365
    · simp [hlast, hleap hlast]
    · simp
      split <;> omega

theorem isValid_date (c : CycleDay) (cycle : Int) : (c.date cycle).isValid = true := by
  have hbounds := c.month_bounds
  have hday := c.dayOfMonth_nonneg
  have hlength := c.dayOfMonth_lt cycle
  have hdate : (c.date cycle).day = (c.dayOfMonth + 1).toNat := by
    rw [date]
    split <;> rfl
  have hmonth : 1 ≤ (c.date cycle).month ∧ (c.date cycle).month ≤ 12 := by
    rw [date]
    split
    · simp only
      omega
    · simp only
      omega
  simp only [isValid, Bool.and_eq_true, decide_eq_true_eq]
  rw [hdate]
  omega

/-- The day number of the date is that of the day. -/
theorem dayNumber_date (c : CycleDay) (cycle : Int) :
    (c.date cycle).dayNumber = cycle * daysPerCycle + c.number - epochOffset := by
  have hmonth := c.month_bounds
  have hnonneg := c.dayOfMonth_nonneg
  have hyear := c.yearNumber_bounds
  have hday : c.number = c.yearNumber * 365 + c.yearNumber / 4 - c.yearNumber / 100 + c.day := by
    have h := c.dayOfYear_eq
    omega
  have hmonthDay : (153 * c.month + 2) / 5 + ((c.dayOfMonth + 1).toNat : Int) - 1 = c.day := by
    rw [dayOfMonth] at hnonneg ⊢
    omega
  have hcycle : (c.yearNumber + cycle * 400) / 400 = cycle := by omega
  have hyearOfCycle : (c.yearNumber + cycle * 400) % 400 = c.yearNumber := by omega
  unfold date
  split
  · next h =>
    have hmarch : ¬ (c.month + 3).toNat ≤ 2 := by omega
    have hcount : ((c.month + 3).toNat : Int) - 3 = c.month := by omega
    simp only [dayNumber, if_neg hmarch, hcycle, hyearOfCycle, hcount, hmonthDay]
    omega
  · next h =>
    have hjanuary : (c.month - 9).toNat ≤ 2 := by omega
    have hcount : ((c.month - 9).toNat : Int) + 9 = c.month := by omega
    have hback : c.yearNumber + cycle * 400 + 1 - 1 = c.yearNumber + cycle * 400 := by omega
    simp only [dayNumber, if_pos hjanuary, hback, hcycle, hyearOfCycle, hcount, hmonthDay]
    omega

end CycleDay

/-! ### Dates of day numbers -/

/-- The date of a day number, by the place of the day in its cycle. -/
theorem ofDayNumber_eq (n : Int) : ∃ (cycle : Int) (c : CycleDay),
    n = cycle * daysPerCycle + c.number - epochOffset ∧ ofDayNumber n = c.date cycle := by
  obtain ⟨c, hc⟩ : ∃ c : CycleDay, c.number = (n + epochOffset) % daysPerCycle :=
    CycleDay.exists_number_eq (Int.emod_nonneg _ (by decide)) (Int.emod_lt_of_pos _ (by decide))
  refine ⟨(n + epochOffset) / daysPerCycle, c, ?_, ?_⟩
  · have h := Int.ediv_mul_add_emod (n + epochOffset) daysPerCycle
    rw [hc]
    omega
  · have hmonth : (5 * c.day + 2) / 153 = c.month := rfl
    have hday : c.day - (153 * c.month + 2) / 5 = c.dayOfMonth := rfl
    have hbounds := c.month_bounds
    simp only [ofDayNumber, ← hc, c.yearOfCycle_eq, c.dayOfYear_eq, hmonth, hday]
    rw [CycleDay.date]
    by_cases h : c.month < 10
    · have hmarch : ¬ c.month + 3 ≤ 2 := by omega
      simp only [if_pos h, if_neg hmarch]
    · have hjanuary : c.month - 9 ≤ 2 := by omega
      simp only [if_neg h, if_pos hjanuary]

/-- Each day number has a date of the calendar. -/
theorem isValid_ofDayNumber (n : Int) : (ofDayNumber n).isValid = true := by
  obtain ⟨cycle, c, -, hdate⟩ := ofDayNumber_eq n
  rw [hdate, c.isValid_date]

/-- The date of a day number has that day number. -/
theorem dayNumber_ofDayNumber (n : Int) : (ofDayNumber n).dayNumber = n := by
  obtain ⟨cycle, c, hn, hdate⟩ := ofDayNumber_eq n
  rw [hdate, c.dayNumber_date, ← hn]

/-- The days of the calendar have the years of the calendar. -/
theorem year_ofDayNumber_bounds {n : Int} (hlow : -96465292 ≤ n) (hhigh : n ≤ 95026236) :
    -262143 ≤ (ofDayNumber n).year ∧ (ofDayNumber n).year ≤ 262142 := by
  obtain ⟨cycle, c, hn, hdate⟩ := ofDayNumber_eq n
  have hyear := c.yearNumber_bounds
  have hday := c.dayOfYear_eq
  have hlength := c.day_bounds
  have hmonth : c.month = (5 * c.day + 2) / 153 := rfl
  rw [daysPerCycle, epochOffset] at hn
  rw [hdate, CycleDay.date]
  generalize c.yearNumber = y at hyear hday ⊢
  -- Only in the first and the last cycle does the place in the cycle matter.
  have hfirst : -656 < cycle ∨ cycle = -656 ∧ (256 < y ∨ y = 256 ∧ 10 ≤ c.month) := by omega
  have hlast : cycle < 655 ∨ cycle = 655 ∧ (y < 142 ∨ y = 142 ∧ c.month < 10) := by omega
  clear hn hday hmonth hlength
  split
  · simp only
    omega
  · simp only
    omega

end Date

end Outbox
