import Deliberation.Time.Calendar
import Mathlib.Tactic.IntervalCases

/-!
# Days and dates

Every day has a date that exists (`Date.ofDays_isValid`), and the date tells the day again
(`Date.toDays_ofDays`).

Here a year lasts from March to February. Then the day that a leap year adds is the last one of its
year, and an era falls apart: four centuries, each of 25 groups of four years, where only the last
year of a group can have that day.
-/

namespace Deliberation.Date

/-! ## The days of an era -/

/-- Whether an era has such a day: in a century, in a group of four years, in a year of the group. Of
these numbers the last one counts the days of the year. Day 365 is the one that a leap year adds; the
last group of a century has none, except at the end of the era. -/
def InEra (century group year day : Nat) : Prop :=
  century < 4 ∧ group < 25 ∧ year < 4 ∧
    (day < 365 ∨ day = 365 ∧ year = 3 ∧ (group < 24 ∨ century = 3))

/-- The days of an era before such a day. -/
def dayOfEra (century group year day : Nat) : Nat :=
  36524 * century + 1461 * group + 365 * year + day

/-- The years of an era before such a year. -/
def yearsOfEra (century group year : Nat) : Nat := 100 * century + 4 * group + year

variable {century group year day : Nat}

/-- The days of an era are numbered below its length. -/
theorem InEra.lt (inEra : InEra century group year day) :
    dayOfEra century group year day < 146097 := by
  unfold dayOfEra
  unfold InEra at inEra
  omega

/-- The years of an era are numbered below 400. -/
theorem InEra.year_lt (inEra : InEra century group year day) :
    yearsOfEra century group year < 400 := by
  unfold yearsOfEra
  unfold InEra at inEra
  omega

/-- Each of the 146097 days of an era is one of these. -/
theorem exists_inEra {number : Nat} (inside : number < 146097) :
    ∃ century group year day, InEra century group year day ∧
      number = dayOfEra century group year day := by
  unfold InEra dayOfEra
  refine ⟨min 3 (number / 36524), (number - 36524 * min 3 (number / 36524)) / 1461, ?_⟩
  -- the last day of the era belongs to its fourth century, not to a fifth one
  generalize century_eq : min 3 (number / 36524) = century
  have rest : number = 36524 * century + (number - 36524 * century) := by omega
  have small : number - 36524 * century < 36524 ∨
      century = 3 ∧ number - 36524 * century ≤ 36524 := by omega
  generalize number - 36524 * century = days at *
  refine ⟨min 3 (days % 1461 / 365), days % 1461 - 365 * min 3 (days % 1461 / 365), ?_, by omega⟩
  omega

/-- A day of an era is counted from the beginning of its year. -/
theorem daysBeforeYear_yearsOfEra (inEra : InEra century group year day) :
    daysBeforeYear (yearsOfEra century group year) + day = dayOfEra century group year day := by
  unfold daysBeforeYear yearsOfEra dayOfEra
  unfold InEra at inEra
  omega

/-- The year is found by counting how many leap days come before. -/
theorem yearOfEra_dayOfEra (inEra : InEra century group year day) :
    yearOfEra (dayOfEra century group year day) = yearsOfEra century group year := by
  obtain ⟨centuries, groups, years, days⟩ := inEra
  unfold yearOfEra yearsOfEra
  generalize counted : dayOfEra century group year day = number
  unfold dayOfEra at counted
  have quarters : number / 1460 =
      25 * century + group + (24 * century + group + 365 * year + day) / 1460 := by omega
  by_cases last : number = 146096
  · omega
  · have hundreds : number / 36524 = century := by omega
    have eras : number / 146096 = 0 := by omega
    omega

/-- A year has a day 365 when it ends in the February of a leap year. -/
theorem InEra.leap (inEra : InEra century group year 365) (era : Int) :
    isLeap (yearsOfEra century group year + era * 400 + 1) = true := by
  unfold InEra at inEra
  have quad : (yearsOfEra century group year + era * 400 + 1 : Int) % 4 = 0 := by
    unfold yearsOfEra
    omega
  have centennial : (yearsOfEra century group year + era * 400 + 1 : Int) % 100 ≠ 0 ∨
      (yearsOfEra century group year + era * 400 + 1 : Int) % 400 = 0 := by
    unfold yearsOfEra
    omega
  simpa [isLeap, quad] using centennial

/-! ## The days of a year -/

/-- No month has more than 31 days. -/
theorem daysInMonth_le (year : Int) (month : Nat) : daysInMonth year month ≤ 31 := by
  unfold daysInMonth
  split
  · split <;> decide
  all_goals decide

/-- The date of a day of a year that starts in March. -/
def fromMarch (year : Int) (day : Nat) : Date :=
  let monthFromMarch := (5 * day + 2) / 153
  let month := if monthFromMarch < 10 then monthFromMarch + 3 else monthFromMarch - 9
  { year := year + (if month ≤ 2 then 1 else 0), month
    day := day - (153 * monthFromMarch + 2) / 5 + 1 }

/-- The dates of a year exist, if only leap years have a day 365. -/
theorem fromMarch_isValid (year : Int) {day : Nat} (inside : day ≤ 365)
    (leap : day = 365 → isLeap (year + 1) = true) : (fromMarch year day).IsValid := by
  unfold fromMarch IsValid
  generalize counted : (5 * day + 2) / 153 = month
  have small : month < 12 := by omega
  interval_cases month
  case «11» =>
    by_cases last : day = 365
    · simp [daysInMonth, leap last, last]
    · have least : 28 ≤ if isLeap (year + 1) = true then 29 else 28 := by split <;> decide
      simp [daysInMonth]
      omega
  all_goals
    simp [daysInMonth]
    omega

/-- A date of a year is counted from its March. -/
theorem toDays_fromMarch (inEra : InEra century group year day) (era : Int) :
    (fromMarch (yearsOfEra century group year + era * 400) day).toDays =
      era * eraDays + dayOfEra century group year day - epochOffset := by
  have within : day ≤ 365 := by
    obtain ⟨-, -, -, days⟩ := inEra
    omega
  have years := inEra.year_lt
  have counted := daysBeforeYear_yearsOfEra inEra
  generalize yearsOfEra century group year = number at *
  have eras : (number + era * 400 : Int).fdiv 400 = era := by
    rw [Int.fdiv_eq_ediv_of_nonneg _ (by decide)]
    omega
  have month_cases : (fromMarch (number + era * 400) day).year -
      (if (fromMarch (number + era * 400) day).month ≤ 2 then 1 else 0) = number + era * 400 := by
    unfold fromMarch
    simp
  have days : (153 * (if 2 < (fromMarch (number + era * 400) day).month then
        (fromMarch (number + era * 400) day).month - 3
      else (fromMarch (number + era * 400) day).month + 9) + 2) / 5 +
        ((fromMarch (number + era * 400) day).day - 1) = day := by
    unfold fromMarch
    simp only
    split <;> split <;> omega
  unfold toDays
  simp only [month_cases, days, eras]
  have position : (number + era * 400 - era * 400 : Int).toNat = number := by omega
  rw [position, ← counted]

/-! ## Days and their dates -/

/-- A day of an era belongs to the year that it is counted in. -/
theorem ofDays_inEra (inEra : InEra century group year day) (era : Int) :
    ofDays (era * eraDays + dayOfEra century group year day - epochOffset) =
      fromMarch (yearsOfEra century group year + era * 400) day := by
  have inside := inEra.lt
  have found := yearOfEra_dayOfEra inEra
  have counted := daysBeforeYear_yearsOfEra inEra
  generalize dayOfEra century group year day = number at *
  have shifted : era * eraDays + number - epochOffset + epochOffset = era * eraDays + number := by
    omega
  have eras : (era * eraDays + number : Int).fdiv eraDays = era := by
    unfold eraDays
    rw [Int.fdiv_eq_ediv_of_nonneg _ (by decide)]
    omega
  have position : (era * eraDays + number - era * eraDays : Int).toNat = number := by omega
  have rest : number - daysBeforeYear (yearsOfEra century group year) = day := by omega
  unfold ofDays
  simp only [shifted, eras, position, found, rest]
  rfl

/-- Every day lies in an era. -/
theorem exists_era (days : Int) :
    ∃ era century group year day, InEra century group year day ∧
      days = era * eraDays + dayOfEra century group year day - epochOffset := by
  have parts := Int.mul_ediv_add_emod (days + epochOffset) eraDays
  have positive : 0 ≤ (days + epochOffset) % eraDays := Int.emod_nonneg _ (by decide)
  have small : (days + epochOffset) % eraDays < eraDays := Int.emod_lt_of_pos _ (by decide)
  have inside : ((days + epochOffset) % eraDays).toNat < 146097 := by
    unfold eraDays at *
    omega
  obtain ⟨century, group, year, day, inEra, counted⟩ := exists_inEra inside
  refine ⟨(days + epochOffset) / eraDays, century, group, year, day, inEra, ?_⟩
  rw [← counted, Int.toNat_of_nonneg positive, Int.mul_comm]
  omega

/-- The date of a day exists. -/
theorem ofDays_isValid (days : Int) : (ofDays days).IsValid := by
  obtain ⟨era, century, group, year, day, inEra, rfl⟩ := exists_era days
  rw [ofDays_inEra inEra]
  refine fromMarch_isValid _ ?_ fun last => ?_
  · obtain ⟨-, -, -, within⟩ := inEra
    omega
  · subst last
    exact inEra.leap era

/-- The date of a day tells the day. -/
theorem toDays_ofDays (days : Int) : (ofDays days).toDays = days := by
  obtain ⟨era, century, group, year, day, inEra, rfl⟩ := exists_era days
  rw [ofDays_inEra inEra, toDays_fromMarch inEra]

end Deliberation.Date
