import DatePattern.Calendar.Week
import DatePattern.Proofs.Calendar.Civil

/-! Laws of week numbers: the number of a week and a day of the week name one day. -/

namespace DatePattern.WeekRules

/-- Week rules that count real days of the week, and between one and seven days. -/
structure Valid (rules : WeekRules) : Prop where
  /-- Weeks begin on Sunday at the earliest. -/
  sunday_le : 1 ≤ rules.firstDay
  /-- Weeks begin on Saturday at the latest. -/
  le_saturday : rules.firstDay ≤ 7
  /-- The first week has a day of its period. -/
  one_le : 1 ≤ rules.minimalDays
  /-- The first week need not have more days than a week has. -/
  le_seven : rules.minimalDays ≤ 7

instance (rules : WeekRules) : Decidable rules.Valid :=
  decidable_of_iff (1 ≤ rules.firstDay ∧ rules.firstDay ≤ 7 ∧ 1 ≤ rules.minimalDays ∧
    rules.minimalDays ≤ 7)
    ⟨fun ⟨a, b, c, d⟩ => ⟨a, b, c, d⟩, fun ⟨a, b, c, d⟩ => ⟨a, b, c, d⟩⟩

variable {rules : WeekRules}

/-- The last week to begin in the first seven days of a period begins in them. -/
theorem onOrBefore_bounds (start weekday : Int) :
    start ≤ onOrBefore (start + 6) weekday ∧ onOrBefore (start + 6) weekday ≤ start + 6 := by
  -- Going back from the last of seven days, one comes to the weekday within them.
  simp only [onOrBefore]
  omega

/-- Week 1 begins less than a week around the beginning of its period. -/
theorem firstWeek_bounds (valid : rules.Valid) (start : Int) :
    start - 6 ≤ rules.firstWeek start ∧ rules.firstWeek start ≤ start + 6 := by
  -- A week begins within the first seven days of the period.
  obtain ⟨-, -, one_le, le_seven⟩ := valid
  have begun := onOrBefore_bounds start rules.firstDay
  simp only [firstWeek]
  -- The last week that begins in time has enough days, or the one before it does.
  by_cases enough : rules.minimalDays ≤ onOrBefore (start + 6) rules.firstDay - start
  · rw [if_pos enough]
    omega
  · rw [if_neg enough]
    omega

/-- Weeks begin on the first day of the week. -/
theorem firstWeek_weekday (rules : WeekRules) (start : Int) :
    (rules.firstWeek start + 5 - rules.firstDay) % 7 = 0 := by
  -- The last week to begin by the seventh day does begin on that weekday.
  have begun : (onOrBefore (start + 6) rules.firstDay + 5 - rules.firstDay) % 7 = 0 := by
    simp only [onOrBefore, dayOfWeek]
    omega
  simp only [firstWeek]
  -- Going back a whole week keeps the day of the week.
  by_cases enough : rules.minimalDays ≤ onOrBefore (start + 6) rules.firstDay - start
  · rw [if_pos enough]
    omega
  · rw [if_neg enough]
    omega

/-- The days from the beginning of a week to a day are told by the day of the week. -/
theorem daysIntoWeek_dayOfWeek (start day : Int) :
    rules.daysIntoWeek (dayOfWeek day) = (day - rules.firstWeek start) % 7 := by
  -- Both count from the same day of the week.
  have begun := firstWeek_weekday rules start
  simp only [daysIntoWeek, dayOfWeek]
  omega

/-- A day of the week lies less than a week after the beginning of the week. -/
theorem daysIntoWeek_bounds (rules : WeekRules) (weekday : Int) :
    0 ≤ rules.daysIntoWeek weekday ∧ rules.daysIntoWeek weekday ≤ 6 := by
  -- They are a remainder by seven.
  simp only [daysIntoWeek]
  omega

/-- The number of a week in a period, together with the day of the week, names the day. -/
theorem firstWeek_add_weekNumber (rules : WeekRules) (start day : Int) :
    rules.firstWeek start + (rules.weekNumber start day - 1) * 7 +
      rules.daysIntoWeek (dayOfWeek day) = day := by
  -- The whole weeks and the days into the week are quotient and remainder by seven.
  rw [daysIntoWeek_dayOfWeek start]
  simp only [weekNumber]
  omega

/--
The week of the year and the year that the week belongs to name the day, together with the day of the week.

The year of the week is the year of the day or one of its neighbours.
-/
theorem firstWeek_add_weekOfYear (valid : rules.Valid) {year day : Int}
    (begun : Date.newYear year ≤ day) (ends : day < Date.newYear (year + 1)) :
    rules.firstWeek (Date.newYear (rules.weekOfYear year day).2) +
        ((rules.weekOfYear year day).1 - 1) * 7 + rules.daysIntoWeek (dayOfWeek day) = day ∧
      year - 1 ≤ (rules.weekOfYear year day).2 ∧ (rules.weekOfYear year day).2 ≤ year + 1 ∧
      1 ≤ (rules.weekOfYear year day).1 ∧ (rules.weekOfYear year day).1 ≤ 54 := by
  -- Years are 365 or 366 days apart, so that week 1 of each of the three years lies where expected.
  have lastBounds := firstWeek_bounds valid (Date.newYear (year - 1))
  have bounds := firstWeek_bounds valid (Date.newYear year)
  have nextBounds := firstWeek_bounds valid (Date.newYear (year + 1))
  have lastLength := Date.newYear_succ (year - 1)
  have length := Date.newYear_succ year
  rw [Int.sub_add_cancel] at lastLength
  simp only [weekOfYear]
  split
  · -- The day ends the last week of the year before.
    rename_i early
    refine ⟨firstWeek_add_weekNumber rules _ _, by omega, by omega, ?_, ?_⟩ <;>
      simp only [weekNumber] at early ⊢ <;> omega
  split
  · -- The day lies in week 1 of the next year, since that week begins before the year does.
    rename_i late
    refine ⟨?_, by omega, by omega, by omega, by omega⟩
    show rules.firstWeek (Date.newYear (year + 1)) + (1 - 1) * 7 + _ = day
    rw [daysIntoWeek_dayOfWeek (Date.newYear (year + 1))]
    omega
  · -- Any other day is counted in its own year.
    rename_i usual _
    refine ⟨firstWeek_add_weekNumber rules _ _, by omega, by omega, by omega, ?_⟩
    simp only [weekNumber] at usual ⊢
    omega

end DatePattern.WeekRules
