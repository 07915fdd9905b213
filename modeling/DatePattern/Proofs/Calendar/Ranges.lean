import DatePattern.Proofs.Calendar.Era
import DatePattern.Proofs.Calendar.Fields
import DatePattern.Proofs.Calendar.Week

/-! The ranges of the fields of an instant, whatever the instant, the zone and the calendar. -/

namespace DatePattern.CalendarFields

/-- Every field has a value that a calendar and a clock can show. -/
structure InRange (fields : CalendarFields) : Prop where
  /-- There are twelve months. -/
  month : 0 ≤ fields.month ∧ fields.month ≤ 11
  /-- There are up to 54 weeks of a year. -/
  weekOfYear : 1 ≤ fields.weekOfYear ∧ fields.weekOfYear ≤ 54
  /-- Days before the first week of a month are in week 0. -/
  weekOfMonth : 0 ≤ fields.weekOfMonth ∧ fields.weekOfMonth ≤ 6
  /-- There are up to 31 days of a month. -/
  dayOfMonth : 1 ≤ fields.dayOfMonth ∧ fields.dayOfMonth ≤ 31
  /-- There are up to 366 days of a year. -/
  dayOfYear : 1 ≤ fields.dayOfYear ∧ fields.dayOfYear ≤ 366
  /-- There are seven days of a week. -/
  dayOfWeek : 1 ≤ fields.dayOfWeek ∧ fields.dayOfWeek ≤ 7
  /-- A day of the week comes up to five times in a month. -/
  dayOfWeekInMonth : 1 ≤ fields.dayOfWeekInMonth ∧ fields.dayOfWeekInMonth ≤ 5
  /-- There are two halves of a day. -/
  amPm : 0 ≤ fields.amPm ∧ fields.amPm ≤ 1
  /-- There are twelve hours of a half day. -/
  hour : 0 ≤ fields.hour ∧ fields.hour ≤ 11
  /-- There are 24 hours of a day. -/
  hourOfDay : 0 ≤ fields.hourOfDay ∧ fields.hourOfDay ≤ 23
  /-- There are sixty minutes of an hour. -/
  minute : 0 ≤ fields.minute ∧ fields.minute ≤ 59
  /-- There are sixty seconds of a minute. -/
  second : 0 ≤ fields.second ∧ fields.second ≤ 59
  /-- There are a thousand milliseconds of a second. -/
  millisecond : 0 ≤ fields.millisecond ∧ fields.millisecond ≤ 999

/-- The fields of every instant are in their ranges. -/
theorem inRange_ofInstant (instant : Instant) (zone : Zone) {calendar : Calendar}
    (weeks : calendar.weeks.Valid) : (ofInstant instant zone calendar).InRange := by
  -- The bounds of every part are collected first, and `omega` then compares them field by field.
  obtain ⟨-, hours, hours', minutes, minutes', seconds, seconds', millis, millis'⟩ :=
    time_ofInstant instant zone calendar rfl
  obtain ⟨-, half, half', part, part'⟩ := halfDay_ofInstant instant zone calendar rfl
  have month := Date.month_ofDay (wallDay instant zone)
  have dayOfMonth := Date.day_ofDay (wallDay instant zone)
  -- The day lies in its year, which has 365 or 366 days.
  have begun := Date.newYear_year_le (wallDay instant zone)
  have ends := Date.lt_newYear_year_succ (wallDay instant zone)
  have length := Date.newYear_succ (Date.ofDay (wallDay instant zone)).year
  obtain ⟨-, -, -, week, week'⟩ := WeekRules.firstWeek_add_weekOfYear weeks begun ends
  -- A month may begin in the middle of a week, whose days may count for it or not.
  have monthStart := WeekRules.firstWeek_bounds weeks
    (wallDay instant zone - ((Date.ofDay (wallDay instant zone)).day - 1))
  -- The time of day is in range by its divisions, which leaves the fields of the date.
  refine ⟨?_, ?_, ?_, ?_, ?_, ?_, ?_, by omega, by omega, by omega, by omega, by omega, by omega⟩
  · rw [month_ofInstant]
    omega
  · rw [weekOfYear_ofInstant]
    exact ⟨week, week'⟩
  · -- A month has its first day near the beginning of week 1, and at most 31 days after that.
    rw [weekOfMonth_ofInstant]
    simp only [WeekRules.weekNumber]
    omega
  · rw [dayOfMonth_ofInstant]
    omega
  · rw [dayOfYear_ofInstant]
    omega
  · rw [dayOfWeek_ofInstant]
    simp only [DatePattern.dayOfWeek]
    omega
  · rw [dayOfWeekInMonth_ofInstant]
    omega

/-- The counted years of an instant well inside the range are far from its ends. -/
theorem year_small (instant : Instant) {zone : Zone} {calendar : Calendar}
    (weeks : calendar.weeks.Valid) (wallInside : Count.DayInside (exactWall instant zone)) :
    (ofInstant instant zone calendar).year.natAbs < 100000000000 ∧
      (ofInstant instant zone calendar).weekYear.natAbs < 100000000000 := by
  -- A wall clock far from the ends of the range shows a day number far from them, and so a small
  -- year.
  have wall := wallMillis_eq wallInside
  simp only [Count.DayInside, Count.least, Count.greatest] at wallInside
  have small : (wallDay instant zone).natAbs ≤ 200000000000 := by
    rw [wallDay, wall]
    omega
  have year := Date.year_ofDay_small small
  obtain ⟨-, near, near', -, -⟩ := WeekRules.firstWeek_add_weekOfYear weeks
    (Date.newYear_year_le (wallDay instant zone)) (Date.lt_newYear_year_succ (wallDay instant zone))
  have counted := calendar.natAbs_countedInEra_le (wallDay instant zone)
    (Date.ofDay (wallDay instant zone)).year
  have countedYear := counted (Date.ofDay (wallDay instant zone)).year
  have countedWeekYear := counted (calendar.weeks.weekOfYear
    (Date.ofDay (wallDay instant zone)).year (wallDay instant zone)).2
  -- Counting in an era moves a year by no more than the years up to the last era.
  rw [year_ofInstant, weekYear_ofInstant, Calendar.eraYears_eq]
  simp only
  omega

/-- Years and week years of the Christian eras are not negative. -/
theorem year_nonneg (instant : Instant) (zone : Zone) {calendar : Calendar}
    (weeks : calendar.weeks.Valid) (christian : calendar.system = .gregorian) :
    0 ≤ (ofInstant instant zone calendar).year ∧ 0 ≤ (ofInstant instant zone calendar).weekYear := by
  -- The Christian eras count the years before Christ upwards too, so that no year is below zero.
  obtain ⟨-, near, near', -, -⟩ := WeekRules.firstWeek_add_weekOfYear weeks
    (Date.newYear_year_le (wallDay instant zone)) (Date.lt_newYear_year_succ (wallDay instant zone))
  rw [year_ofInstant, weekYear_ofInstant]
  simp only [Calendar.eraYears, christian]
  split <;> simp only <;> omega

end DatePattern.CalendarFields
