import Courier.Instant.Rfc3339
import Mathlib.Tactic.IntervalCases
import Mathlib.Tactic.SplitIfs

/-!
# Courier — Proofs — Days and dates

The calendar repeats every 400 years, an era of 146097 days.  With years from March on, an era is
made of three centuries of 36524 days and a last one that has a day more; a century of cycles of
1461 days, the last of which may lack a day; and a cycle of three years of 365 days and a last one
that takes the rest (`CivilDate.EraDay`).  On a day of an era given in this way the quotients that
the date is computed with have simple values (`CivilDate.EraDay.yearOfEra`).

So a count of days is the count of its date (`CivilDate.toDays_ofDays`), and the dates of the days
that the calendar has are dates that it has (`CivilDate.isValid_ofDays`).
-/

namespace Courier.CivilDate

/-! ### Days of an era -/

/-- A century of an era, a cycle of four years in it, a year of the cycle, and a day of that year.
Only the last year of a cycle can have a day more than 365, in the last cycle of a century only if
the century ends the era. -/
structure EraDay (century cycle year day : Int) : Prop where
  century_range : 0 ≤ century ∧ century ≤ 3
  cycle_range   : 0 ≤ cycle ∧ cycle ≤ 24
  year_range    : 0 ≤ year ∧ year ≤ 3
  day_range     : 0 ≤ day ∧ day ≤ 365
  leapDay       : day = 365 → year = 3 ∧ (cycle = 24 → century = 3)

theorem exists_eraDay {n : Int} (h : 0 ≤ n) (h' : n < 146097) :
    ∃ c q y d, EraDay c q y d ∧ n = 36524 * c + 1461 * q + 365 * y + d := by
  obtain ⟨c, hc⟩ : ∃ c, c = min 3 (n / 36524) := ⟨_, rfl⟩
  obtain ⟨r, hr⟩ : ∃ r, r = n - 36524 * c := ⟨_, rfl⟩
  obtain ⟨q, hq⟩ : ∃ q, q = r / 1461 := ⟨_, rfl⟩
  obtain ⟨s, hs⟩ : ∃ s, s = r - 1461 * q := ⟨_, rfl⟩
  obtain ⟨y, hy⟩ : ∃ y, y = min 3 (s / 365) := ⟨_, rfl⟩
  have inCentury : 0 ≤ r ∧ r ≤ 36524 ∧ (r = 36524 → c = 3) := by omega
  have inCycle : 0 ≤ s ∧ s ≤ 1460 := by omega
  refine ⟨c, q, y, s - 365 * y, ⟨?_, ?_, ?_, ?_, ?_⟩, ?_⟩ <;> omega

namespace EraDay

variable {c q y d : Int} (e : EraDay c q y d)
include e

theorem bounds :
    0 ≤ 36524 * c + 1461 * q + 365 * y + d ∧ 36524 * c + 1461 * q + 365 * y + d < 146097 := by
  obtain ⟨hc, hq, hy, hd, leap⟩ := e
  omega

/-- The year of a day of an era. -/
theorem yearOfEra {n : Int} (hn : n = 36524 * c + 1461 * q + 365 * y + d) :
    (n - n / 1460 + n / 36524 - n / 146096) / 365 = 100 * c + 4 * q + y := by
  obtain ⟨hc, hq, hy, hd, leap⟩ := e
  -- Going by the quotients the last day of an era is in a fifth century.
  by_cases last : n = 146096
  · omega
  · have centuries : n / 36524 = c := by omega
    have eras : n / 146096 = 0 := by omega
    have cycles : n / 1460 = 25 * c + q + (24 * c + q + 365 * y + d) / 1460 := by omega
    omega

/-- The cycles, centuries and eras before a year. -/
theorem quotients (era : Int) :
    (100 * c + 4 * q + y + era * 400) / 4 = 25 * c + q + era * 100 ∧
      (100 * c + 4 * q + y + era * 400) / 100 = c + era * 4 ∧
      (100 * c + 4 * q + y + era * 400) / 400 = era := by
  obtain ⟨hc, hq, hy, -, -⟩ := e
  omega

/-- Only in a leap year does February have its 29th day, and that is day 365 from March on. -/
theorem isLeapYear (era : Int) (h : d = 365) :
    isLeapYear (100 * c + 4 * q + y + era * 400 + 1) := by
  obtain ⟨hc, hq, -, -, leap⟩ := e
  obtain ⟨rfl, last⟩ := leap h
  simp only [CivilDate.isLeapYear, Bool.and_eq_true, Bool.or_eq_true, beq_iff_eq, bne_iff_ne,
    ne_eq]
  omega

end EraDay

/-! ### Years from March on -/

/-- The date of a day of a year that starts in March. -/
def ofMarch (year day : Int) : CivilDate :=
  let marchMonth := (5 * day + 2) / 153
  let month := if marchMonth < 10 then marchMonth + 3 else marchMonth - 9
  ⟨if month ≤ 2 then year + 1 else year, month.toNat,
    (day - (153 * marchMonth + 2) / 5 + 1).toNat⟩

theorem ofDays_eq_ofMarch {c q y d : Int} (e : EraDay c q y d) {n era : Int}
    (hn : n + 719468 = 146097 * era + (36524 * c + 1461 * q + 365 * y + d)) :
    ofDays n = ofMarch (100 * c + 4 * q + y + era * 400) d := by
  have inEra := e.bounds
  have year := e.yearOfEra rfl
  have quotients := e.quotients 0
  have eras : (n + 719468) / 146097 = era := by omega
  have rest : n + 719468 - era * 146097 = 36524 * c + 1461 * q + 365 * y + d := by omega
  have day : 36524 * c + 1461 * q + 365 * y + d -
      (365 * (100 * c + 4 * q + y) + (100 * c + 4 * q + y) / 4 - (100 * c + 4 * q + y) / 100) =
      d := by
    simp only [Int.zero_mul, Int.add_zero] at quotients
    omega
  simp only [ofDays, ofMarch, eras, rest, year, day]

/-- Every count of days is a day of a year from March on. -/
theorem exists_ofMarch (n : Int) :
    ∃ year day, ofDays n = ofMarch year day ∧ (0 ≤ day ∧ day ≤ 365) ∧
      (day = 365 → isLeapYear (year + 1)) ∧
      n = 365 * year + year / 4 - year / 100 + year / 400 + day - 719468 := by
  obtain ⟨era, hera⟩ : ∃ era, era = (n + 719468) / 146097 := ⟨_, rfl⟩
  have start : 0 ≤ n + 719468 - 146097 * era := by omega
  have stop : n + 719468 - 146097 * era < 146097 := by omega
  obtain ⟨c, q, y, d, e, hd⟩ := exists_eraDay start stop
  refine ⟨100 * c + 4 * q + y + era * 400, d, ofDays_eq_ofMarch e (by omega), e.day_range,
    e.isLeapYear era, ?_⟩
  have quotients := e.quotients era
  omega

theorem toDays_ofMarch (year : Int) {day : Int} (h : 0 ≤ day ∧ day ≤ 365) :
    (ofMarch year day).toDays =
      365 * year + year / 4 - year / 100 + year / 400 + day - 719468 := by
  obtain ⟨m, hm⟩ : ∃ m, m = (5 * day + 2) / 153 := ⟨_, rfl⟩
  simp only [ofMarch, toDays, ← hm]
  split_ifs <;> omega

/-- The day is in its month. -/
theorem ofMarch_inMonth (year : Int) {day : Int} (h : 0 ≤ day ∧ day ≤ 365)
    (leap : day = 365 → isLeapYear (year + 1)) :
    let date := ofMarch year day
    (1 ≤ date.month ∧ date.month ≤ 12) ∧ 1 ≤ date.day ∧
      date.day ≤ monthLength date.year date.month := by
  obtain ⟨m, hm⟩ : ∃ m, m = (5 * day + 2) / 153 := ⟨_, rfl⟩
  obtain ⟨low, high⟩ : 0 ≤ m ∧ m ≤ 11 := by omega
  simp only [ofMarch, ← hm]
  interval_cases m
  case «11» =>
    by_cases last : day = 365
    · simp [monthLength, leap last]
      omega
    · simp [monthLength]
      split_ifs <;> omega
  all_goals
    simp [monthLength]
    omega

/-! ### Dates of days -/

theorem toDays_ofDays (n : Int) : (ofDays n).toDays = n := by
  obtain ⟨year, day, date, range, -, count⟩ := exists_ofMarch n
  rw [date, toDays_ofMarch year range]
  exact count.symm

/-- The days of the calendar have dates that the calendar has. -/
theorem isValid_ofDays {n : Int} (h : -96465292 ≤ n ∧ n ≤ 95026236) : (ofDays n).IsValid := by
  obtain ⟨year, day, date, range, leap, count⟩ := exists_ofMarch n
  obtain ⟨month, day_pos, day_le⟩ := ofMarch_inMonth year range leap
  have years : -262143 ≤ (ofMarch year day).year ∧ (ofMarch year day).year ≤ 262142 := by
    have lower : -262144 ≤ year := by omega
    have upper : year ≤ 262142 := by omega
    have first : year = -262144 → 306 ≤ day := by rintro rfl; omega
    have last : year = 262142 → day < 306 := by rintro rfl; omega
    clear count
    simp only [ofMarch]
    split_ifs <;> omega
  rw [date]
  exact ⟨years.1, years.2, month.1, month.2, day_pos, day_le⟩

end Courier.CivilDate
