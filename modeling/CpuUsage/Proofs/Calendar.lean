import CpuUsage.Calendar

/-! The day that is counted is the day of its date, and every day has a date of the calendar. -/
namespace CpuUsage.Date

/-- A day of a cycle as whole centuries, four-year groups, years and days. Only the last year of a group may have one
day more, and of the last group of a century only where the cycle ends. -/
structure Parts (d c q y r : Int) : Prop where
  sum : d = 36524 * c + 1461 * q + 365 * y + r
  century : 0 ≤ c ∧ c ≤ 3
  group : 0 ≤ q ∧ q ≤ 24
  year : 0 ≤ y ∧ y ≤ 3
  day : 0 ≤ r ∧ r ≤ 365
  leap : r = 365 → y = 3 ∧ (q = 24 → c = 3)

theorem exists_parts {d : Int} (low : 0 ≤ d) (high : d < 146097) : ∃ c q y r, Parts d c q y r := by
  obtain ⟨c, s, century, sum, rest⟩ : ∃ c s : Int, (0 ≤ c ∧ c ≤ 3) ∧ d = 36524 * c + s ∧
      0 ≤ s ∧ s ≤ 36524 ∧ (s = 36524 → c = 3) := by
    by_cases last : d = 146096
    · exact ⟨3, 36524, by omega⟩
    · exact ⟨d / 36524, d % 36524, by omega⟩
  obtain ⟨y, r, year, days, day⟩ : ∃ y r : Int, (0 ≤ y ∧ y ≤ 3) ∧ s % 1461 = 365 * y + r ∧
      0 ≤ r ∧ r ≤ 365 ∧ (r = 365 → y = 3) := by
    by_cases last : s % 1461 = 1460
    · exact ⟨3, 365, by omega⟩
    · exact ⟨s % 1461 / 365, s % 1461 % 365, by omega⟩
  refine ⟨c, s / 1461, y, r, ?_, century, ?_, year, ?_, ?_⟩ <;> omega

theorem Parts.yearOfEra {d c q y r : Int} (parts : Parts d c q y r) :
    (d - d / 1460 + d / 36524 - d / 146096) / 365 = 100 * c + 4 * q + y := by
  obtain ⟨sum, century, group, year, day, leap⟩ := parts
  have groups : d / 1460 = 25 * c + q + (24 * c + q + (365 * y + r)) / 1460 := by omega
  have centuries : d / 36524 - d / 146096 = c := by
    by_cases last : d = 146096
    · omega
    · omega
  by_cases few : 24 * c + q + (365 * y + r) < 1460
  · omega
  · omega

/-- A day of a cycle as a year that begins in March and a day of that year. -/
structure InYear (d y r : Int) : Prop where
  year : 0 ≤ y ∧ y ≤ 399
  day : 0 ≤ r ∧ r ≤ 365
  sum : d = y * 365 + y / 4 - y / 100 + r
  leap : r = 365 → y % 4 = 3 ∧ (y % 100 = 99 → y = 399)

theorem Parts.inYear {d c q y r : Int} (parts : Parts d c q y r) : InYear d (100 * c + 4 * q + y) r := by
  obtain ⟨sum, century, group, year, day, leap⟩ := parts
  have fours : (100 * c + 4 * q + y) / 4 = 25 * c + q := by omega
  have hundreds : (100 * c + 4 * q + y) / 100 = c := by omega
  exact ⟨by omega, day, by omega, by omega⟩

def monthFrom (m : Nat) : Nat :=
  if m < 10 then m + 3 else m - 9

/-- A day of a year as a month from March on and a day of that month. -/
structure InMonth (r : Int) (m e : Nat) : Prop where
  month : m < 12
  monthFromMarch : (5 * r + 2) / 153 = m
  sum : r = (153 * m + 2) / 5 + e
  common : m ≠ 11 → e < daysInMonth 1 (monthFrom m)
  february : m = 11 → e < 28 ∨ e = 28 ∧ r = 365

theorem exists_inMonth {r : Int} (day : 0 ≤ r ∧ r ≤ 365) : ∃ m e, InMonth r m e := by
  obtain ⟨n, rfl⟩ := Int.eq_ofNat_of_zero_le day.1
  have lengths : ∀ m < 11, (153 * (m + 1) + 2) / 5 - (153 * m + 2) / 5 = daysInMonth 1 (monthFrom m) := by decide
  refine ⟨(5 * n + 2) / 153, n - (153 * ((5 * n + 2) / 153) + 2) / 5, by omega, by omega, by omega, ?_, by omega⟩
  intro common
  rw [← lengths _ (by omega)]
  omega

theorem daysInMonth_common {year : Int} {month : Nat} (other : month ≠ 2) :
    daysInMonth year month = daysInMonth 1 month := by
  rw [daysInMonth, daysInMonth, if_neg other, if_neg other]

theorem daysInMonth_le (year : Int) (month : Nat) : daysInMonth year month ≤ 31 := by
  unfold daysInMonth
  split
  · split <;> decide
  split <;> decide

theorem exists_ofDays (days : Int) : ∃ era y r m e, InYear (days + 719468 - era * 146097) y r ∧ InMonth r m e ∧
    ofDays days = ⟨y + era * 400 + (if m < 10 then 0 else 1), monthFrom m, e + 1⟩ := by
  obtain ⟨c, q, y, r, parts⟩ := exists_parts (d := (days + 719468) % 146097) (by omega) (by omega)
  have inYear := parts.inYear
  have year := parts.yearOfEra
  generalize 100 * c + 4 * q + y = y at inYear year
  obtain ⟨m, e, inMonth⟩ := exists_inMonth inYear.day
  have rest : (days + 719468) % 146097 - (365 * y + y / 4 - y / 100) = r := by
    have := inYear.sum
    omega
  have dayOf : r - (153 * (m : Int) + 2) / 5 + 1 = (e + 1 : Nat) := by
    have := inMonth.sum
    omega
  have cycle : (days + 719468) % 146097 = days + 719468 - (days + 719468) / 146097 * 146097 := by omega
  refine ⟨(days + 719468) / 146097, y, r, m, e, cycle ▸ inYear, inMonth, ?_⟩
  simp only [ofDays, year, rest, inMonth.monthFromMarch, dayOf, monthFrom, Int.toNat_natCast, Date.mk.injEq, and_true]
  have months := inMonth.month
  by_cases early : m < 10
  · have early' : (m : Int) < 10 := by omega
    have after : ¬ (m : Int) + 3 ≤ 2 := by omega
    simp only [early, early', after, if_true, if_false, true_and]
    omega
  · have early' : ¬ (m : Int) < 10 := by omega
    have after : (m : Int) - 9 ≤ 2 := by omega
    simp only [early, early', after, if_true, if_false, true_and]
    omega

theorem toDays_ofDays (days : Int) : (ofDays days).toDays = days := by
  obtain ⟨era, y, r, m, e, inYear, inMonth, same⟩ := exists_ofDays days
  obtain ⟨year, -, sum, -⟩ := inYear
  obtain ⟨months, -, sum', -, -⟩ := inMonth
  have cycle : (y + era * 400) / 400 = era ∧ (y + era * 400) % 400 = y := by omega
  rw [same, toDays]
  by_cases early : m < 10
  · have after : ¬ m + 3 ≤ 2 := by omega
    simp only [monthFrom, early, after, if_true, if_false, Int.add_zero, cycle]
    omega
  · have after : m - 9 ≤ 2 := by omega
    simp only [monthFrom, early, after, if_true, if_false, Int.add_sub_cancel, cycle]
    omega

theorem isValid_ofDays (days : Int) : (ofDays days).isValid = true := by
  obtain ⟨era, y, r, m, e, inYear, inMonth, same⟩ := exists_ofDays days
  obtain ⟨months, -, -, common, february⟩ := inMonth
  rw [same]
  have inCalendar : 1 ≤ monthFrom m ∧ monthFrom m ≤ 12 := by
    unfold monthFrom
    split <;> omega
  have fits : e + 1 ≤ daysInMonth (y + era * 400 + if m < 10 then 0 else 1) (monthFrom m) := by
    by_cases last : m = 11
    · subst last
      rcases february rfl with early | ⟨rfl, leapDay⟩
      · have atLeast (year : Int) : 28 ≤ daysInMonth year 2 := by
          rw [daysInMonth, if_pos rfl]
          split <;> omega
        exact Nat.le_trans early (atLeast _)
      · have leap : isLeapYear (y + era * 400 + 1) = true := by
          have := inYear.leap leapDay
          have := inYear.year
          simp only [isLeapYear, Bool.and_eq_true, Bool.or_eq_true, decide_eq_true_eq]
          omega
        change 29 ≤ daysInMonth (y + era * 400 + 1) 2
        rw [daysInMonth, if_pos rfl, leap]
        decide
    · have other : monthFrom m ≠ 2 := by
        unfold monthFrom
        split <;> omega
      rw [daysInMonth_common other]
      exact common last
  simp [isValid, inCalendar, fits]

end CpuUsage.Date
