import DatePattern.Calendar.Civil

/-! Week numbers: a period begins with the first week that has enough of its days. -/

namespace DatePattern

/-- How the weeks of a year or a month are counted. -/
structure WeekRules where
  /-- The day that begins a week, from 1 for Sunday to 7 for Saturday. -/
  firstDay : Int
  /-- The days of the period that its first week must have, 1 to 7. -/
  minimalDays : Int
deriving DecidableEq, Repr

namespace WeekRules

/-- The latest day on or before a day that falls on a day of the week. -/
def onOrBefore (day weekday : Int) : Int := day - (dayOfWeek day - weekday) % 7

/-- The first day of week 1 of the period that begins on `start`. -/
def firstWeek (rules : WeekRules) (start : Int) : Int :=
  -- The last week that begins inside the first seven days leaves some days before it.
  let begun := onOrBefore (start + 6) rules.firstDay
  if rules.minimalDays ≤ begun - start then begun - 7 else begun

/-- The week of a day in the period that begins on `start`, not positive before week 1. -/
def weekNumber (rules : WeekRules) (start day : Int) : Int :=
  (day - rules.firstWeek start) / 7 + 1

/-- The week of a day of `year` and the year that this week belongs to. -/
def weekOfYear (rules : WeekRules) (year day : Int) : Int × Int :=
  let week := rules.weekNumber (Date.newYear year) day
  -- Days before week 1 end the year before, and late days may begin the next year's week 1.
  if week ≤ 0 then (rules.weekNumber (Date.newYear (year - 1)) day, year - 1)
  else if 52 ≤ week ∧ rules.firstWeek (Date.newYear (year + 1)) ≤ day then (1, year + 1)
  else (week, year)

/-- The days from the beginning of a week to a day of the week. -/
def daysIntoWeek (rules : WeekRules) (weekday : Int) : Int := (weekday - rules.firstDay) % 7

end WeekRules

end DatePattern
