import DatePattern.Proofs.Calendar.Civil
import DatePattern.Proofs.Calendar.Era
import DatePattern.Proofs.Calendar.Fields
import DatePattern.Proofs.Calendar.Week
import DatePattern.Proofs.Instant
import DatePattern.Proofs.Zone.Offsets
import Mathlib.Data.Option.Basic

/-!
Resolving the fields of an instant: every way to give the date and the hour leads back to it.

The main statement is `resolve?_ofFields`, for each of five ways to give the date and two to give the hour.
-/

namespace DatePattern

/-- A way to give the date by some of its fields. -/
inductive DateChoice where
  /-- The day of a month. -/
  | dayOfMonth
  /-- The day of a year. -/
  | dayOfYear
  /-- A weekday of a week of a week year. -/
  | weekOfYear
  /-- A weekday of a week of a month. -/
  | weekOfMonth
  /-- How many times a weekday has come in a month. -/
  | dayOfWeekInMonth
deriving DecidableEq, Repr

/-- The fields that give a date. -/
def DateChoice.fields : DateChoice → List Field
  | .dayOfMonth => [.year, .month, .dayOfMonth]
  | .dayOfYear => [.year, .dayOfYear]
  | .weekOfYear => [.weekYear, .weekOfYear, .dayOfWeek]
  | .weekOfMonth => [.year, .month, .weekOfMonth, .dayOfWeek]
  | .dayOfWeekInMonth => [.year, .month, .dayOfWeekInMonth, .dayOfWeek]

/-- A way to give the hour. -/
inductive HourChoice where
  /-- The hour of the day. -/
  | hourOfDay
  /-- The hour of a half day. -/
  | halfDay
deriving DecidableEq, Repr

/-- The fields that give an hour. -/
def HourChoice.fields : HourChoice → List Field
  | .hourOfDay => [.hourOfDay]
  | .halfDay => [.hour, .amPm]

/-- The fields that give a moment: the era, the offsets, the time of day and the date. -/
def momentFields (date : DateChoice) (hour : HourChoice) : List Field :=
  [.era, .zoneOffset, .dstOffset, .minute, .second, .millisecond] ++ hour.fields ++ date.fields

namespace Collected

/-- Some fields of an instant, taken in one after the other. -/
def ofFields (fields : CalendarFields) (chosen : List Field) : Collected :=
  chosen.foldl (fun collected field => collected.set field (fields.get field)) empty

/-- Exactly the chosen fields are known, each by its value. -/
theorem value?_ofFields (fields : CalendarFields) (chosen : List Field) (field : Field) :
    (ofFields fields chosen).value? field =
      if field ∈ chosen then some (fields.get field) else none := by
  -- A field that comes again later is set again, to the same value.
  have general : ∀ start : Collected,
      (chosen.foldl (fun collected field => collected.set field (fields.get field)) start).value?
          field = if field ∈ chosen then some (fields.get field) else start.value? field := by
    induction chosen with
    | nil => intro start; simp
    | cons first rest ih =>
      intro start
      rw [List.foldl_cons, ih]
      -- The last time that a field is set counts, and each time it is set to the value of the
      -- instant.
      by_cases later : field ∈ rest
      · simp [later]
      · by_cases same : field = first <;> simp [later, same]
  exact general empty

/-- The time of day, from an hour known either way and parts in their ranges. -/
theorem time?_eq {collected : Collected} {hour minute second millisecond : Int}
    (hourIs : collected.hourOfDay? = some hour) (minuteIs : collected.valueD .minute 0 = minute)
    (secondIs : collected.valueD .second 0 = second)
    (millisecondIs : collected.valueD .millisecond 0 = millisecond)
    (hourBounds : 0 ≤ hour ∧ hour < 24) (minuteBounds : 0 ≤ minute ∧ minute < 60)
    (secondBounds : 0 ≤ second ∧ second < 60)
    (millisecondBounds : 0 ≤ millisecond ∧ millisecond < 1000) :
    collected.time? = some (hour * 3600000 + minute * 60000 + second * 1000 + millisecond) := by
  -- No sum comes near the ends of the range.
  have fits : ∀ {n : Int}, 0 ≤ n → n < 90000000 → Count.Fits n :=
    fun low high => Count.fits_of_natAbs_le (by omega)
  simp only [time?, hourIs, minuteIs, secondIs, millisecondIs, Option.bind_eq_bind,
    Option.bind_some]
  rw [Count.within?_of_fits (fits (by omega) (by omega)), Option.bind_some,
    Count.within?_of_fits (fits (by omega) (by omega)), Option.bind_some,
    Count.within?_of_fits (fits (by omega) (by omega)), Option.bind_some,
    Count.within?_of_fits (fits (by omega) (by omega)), Option.bind_some,
    Count.within?_of_fits (fits (by omega) (by omega)), Option.bind_some,
    Count.within?_of_fits (fits (by omega) (by omega))]

/-- The days and weeks after a day, as long as all steps stay far from the ends of the range. -/
theorem weeksAfter?_eq {start week days : Int} (startSmall : start.natAbs ≤ 1000000000000)
    (weekSmall : week.natAbs ≤ 1000) (daysSmall : days.natAbs ≤ 1000) :
    weeksAfter? start week days = some (start + (week - 1) * 7 + days) := by
  -- Four steps are checked, and none of them comes near the ends of the range.
  have fits : ∀ {n : Int}, n.natAbs ≤ 2000000000000 → Count.Fits n :=
    fun small => Count.fits_of_natAbs_le (by omega)
  simp only [weeksAfter?, Option.bind_eq_bind]
  rw [Count.within?_of_fits (fits (by omega)), Option.bind_some,
    Count.within?_of_fits (fits (by omega)), Option.bind_some,
    Count.within?_of_fits (fits (by omega)), Option.bind_some,
    Count.within?_of_fits (fits (by omega))]

/-- The day some days after another one, as long as all steps stay far from the ends of the range. -/
theorem daysAfter?_eq {start count : Int} (startSmall : start.natAbs ≤ 1000000000000)
    (countSmall : count.natAbs ≤ 1000) :
    daysAfter? start count = some (start + (count - 1)) := by
  -- Two steps are checked, and neither of them comes near the ends of the range.
  have fits : ∀ {n : Int}, n.natAbs ≤ 2000000000000 → Count.Fits n :=
    fun small => Count.fits_of_natAbs_le (by omega)
  simp only [daysAfter?, Option.bind_eq_bind]
  rw [Count.within?_of_fits (fits (by omega)), Option.bind_some,
    Count.within?_of_fits (fits (by omega))]

/-- Unless the date is given by its week, a known year counts. -/
theorem yearOfEra_eq_year {collected : Collected} {year : Int}
    (plain : collected.isWeekDate = false) (known : collected.value? .year = some year) :
    collected.yearOfEra = year := by
  -- The week year is looked at for week dates alone.
  simp [yearOfEra, plain, known]

/-- If the date is given by its week, a known week year counts. -/
theorem yearOfEra_eq_weekYear {collected : Collected} {year : Int}
    (byWeek : collected.isWeekDate = true) (known : collected.value? .weekYear = some year) :
    collected.yearOfEra = year := by
  -- The week year of a week date is looked at before its year.
  simp [yearOfEra, byWeek, known]

section Day

variable {collected : Collected} {weeks : WeekRules} {year monthStart : Int}

/-- A known day of the month counts before anything else. -/
theorem day?_of_dayOfMonth {day : Int} (known : collected.value? .dayOfMonth = some day) :
    collected.day? weeks year monthStart = daysAfter? monthStart day := by
  -- The first of the fields that are looked at is known.
  simp only [day?, known]

/-- The day of the year counts where no day of the month is known. -/
theorem day?_of_dayOfYear {day : Int} (noMonth : collected.value? .dayOfMonth = none)
    (known : collected.value? .dayOfYear = some day) :
    collected.day? weeks year monthStart = daysAfter? (Date.newYear year) day := by
  -- The fields are looked at in a fixed order, and those before this one are not known.
  simp only [day?, noMonth, known]

/-- The week of the year counts next, together with a day of the week. -/
theorem day?_of_weekOfYear {week weekday : Int} (noMonth : collected.value? .dayOfMonth = none)
    (noYear : collected.value? .dayOfYear = none)
    (known : collected.value? .weekOfYear = some week)
    (weekdayKnown : collected.value? .dayOfWeek = some weekday) :
    collected.day? weeks year monthStart =
      weeksAfter? (weeks.firstWeek (Date.newYear year)) week (weeks.daysIntoWeek weekday) := by
  -- The same order: neither day is known, and the weekday need not be presumed.
  simp only [day?, noMonth, noYear, known, weekdayKnown, Option.getD_some]

/-- The week of the month counts next, together with a day of the week. -/
theorem day?_of_weekOfMonth {week weekday : Int} (noMonth : collected.value? .dayOfMonth = none)
    (noYear : collected.value? .dayOfYear = none) (noWeek : collected.value? .weekOfYear = none)
    (known : collected.value? .weekOfMonth = some week)
    (weekdayKnown : collected.value? .dayOfWeek = some weekday) :
    collected.day? weeks year monthStart =
      weeksAfter? (weeks.firstWeek monthStart) week (weeks.daysIntoWeek weekday) := by
  -- The same order, one field further on.
  simp only [day?, noMonth, noYear, noWeek, known, weekdayKnown, Option.getD_some]

/-- The number of a weekday in the month counts last. -/
theorem day?_of_dayOfWeekInMonth {count weekday : Int}
    (noMonth : collected.value? .dayOfMonth = none) (noYear : collected.value? .dayOfYear = none)
    (noWeek : collected.value? .weekOfYear = none)
    (noMonthWeek : collected.value? .weekOfMonth = none)
    (known : collected.value? .dayOfWeekInMonth = some count)
    (weekdayKnown : collected.value? .dayOfWeek = some weekday) :
    collected.day? weeks year monthStart =
      weeksAfter? (monthStart + (weekday - dayOfWeek monthStart) % 7) count 0 := by
  -- The same order, with nothing known but the number of the weekday.
  simp only [day?, noMonth, noYear, noWeek, noMonthWeek, known, weekdayKnown, Option.getD_some]

end Day

/-- What collected fields resolve to, once each of the parts is known. -/
theorem resolve?_eq {collected : Collected} {zone : Zone} {calendar : Calendar}
    {year day time millis : Int}
    (yearIs : collected.gregorianYear? calendar.system = some year)
    (yearSmall : year.natAbs ≤ greatestYear)
    (monthRange : 0 ≤ collected.valueD .month 0 ∧ collected.valueD .month 0 < 12)
    (dayIs : collected.day? calendar.weeks year
      (Date.toDay ⟨year, collected.valueD .month 0 + 1, 1⟩) = some day)
    (timeIs : collected.time? = some time) (midnightFits : Count.Fits (day * 86400000))
    (wallFits : Count.Fits (day * 86400000 + time))
    (millisIs : collected.moment? zone (day * 86400000 + time) = some millis) :
    collected.resolve? zone calendar =
      (Instant.ofMillis millis).addNanos? collected.nanos := by
  -- A month in its range does not roll over into another year.
  have sameYear : collected.valueD .month 0 / 12 = 0 := by omega
  have sameMonth : collected.valueD .month 0 % 12 = collected.valueD .month 0 := by omega
  have yearFits : Count.Fits year := by
    simp only [greatestYear] at yearSmall
    exact Count.fits_of_natAbs_le (by omega)
  -- The year is checked twice, before and after months roll over into it.
  have bothSmall := (Option.guard_eq_some' ()).mpr (And.intro yearSmall yearSmall)
  simp only [resolve?, yearIs, Option.bind_eq_bind, Option.bind_some, sameYear, sameMonth,
    Int.add_zero, Count.within?_of_fits yearFits, bothSmall, dayIs, timeIs,
    Count.within?_of_fits midnightFits, Count.within?_of_fits wallFits, millisIs]

end Collected

namespace Collected

variable {instant : Instant} {zone : Zone} {calendar : Calendar} {date : DateChoice}
  {hour : HourChoice} {chosen : List Field}

/-- The Gregorian year that collected fields give: that of the week for a week date. -/
def yearOfChoice (calendar : Calendar) (day : Int) : DateChoice → Int
  | .weekOfYear => (calendar.weeks.weekOfYear (Date.ofDay day).year day).2
  | .dayOfMonth | .dayOfYear | .weekOfMonth | .dayOfWeekInMonth => (Date.ofDay day).year

/-- A field of a moment is known by its value, and any other field is not known. -/
theorem value?_momentFields (fields : CalendarFields) (stored : chosen.Perm (momentFields date hour))
    (field : Field) : (ofFields fields chosen).value? field =
      if field ∈ momentFields date hour then some (fields.get field) else none := by
  -- Which fields are chosen counts, and not the order in which they are.
  rw [value?_ofFields]
  simp only [stored.mem_iff]

/-- The value of a field of a moment does not depend on what is taken for granted. -/
theorem valueD_momentFields (fields : CalendarFields)
    (stored : chosen.Perm (momentFields date hour)) {field : Field}
    (listed : field ∈ momentFields date hour) (other : Int) :
    (ofFields fields chosen).valueD field other = fields.get field := by
  -- What is taken for granted counts only where no value is stored.
  rw [valueD, value?_momentFields _ stored, if_pos listed, Option.getD_some]

/-- The hour of the day is known either way. -/
theorem hourOfDay?_ofFields (stored : chosen.Perm (momentFields date hour)) :
    (ofFields (CalendarFields.ofInstant instant zone calendar) chosen).hourOfDay? =
      some (CalendarFields.ofInstant instant zone calendar).hourOfDay := by
  have known := value?_momentFields (.ofInstant instant zone calendar) stored
  obtain ⟨whole, h0, h12, half0, half1⟩ :=
    CalendarFields.halfDay_ofInstant instant zone calendar rfl
  have fits : ∀ {n : Int}, 0 ≤ n → n < 100 → Count.Fits n :=
    fun low high => Count.fits_of_natAbs_le (by omega)
  -- The tests for the ranges of counts are passed, as a day has 24 hours.
  cases hour with
  | hourOfDay =>
    have listed : Field.hourOfDay ∈ momentFields date .hourOfDay := by cases date <;> decide
    simp only [hourOfDay?, known, listed, if_true, CalendarFields.get]
  | halfDay =>
    have unlisted : Field.hourOfDay ∉ momentFields date .halfDay := by cases date <;> decide
    have hours : Field.hour ∈ momentFields date .halfDay := by cases date <;> decide
    have halves : Field.amPm ∈ momentFields date .halfDay := by cases date <;> decide
    simp only [hourOfDay?, valueD, known, unlisted, hours, halves, if_true, if_false,
      CalendarFields.get, Option.getD_some, Option.bind_eq_bind]
    rw [Count.within?_of_fits (fits (by omega) (by omega)), Option.bind_some, whole,
      Count.within?_of_fits (fits (by omega) (by omega))]

/-- The era, the offsets and the parts of the hour are always among the fields of a moment. -/
theorem mem_momentFields (field : Field)
    (always : field ∈ [Field.era, .zoneOffset, .dstOffset, .minute, .second, .millisecond]) :
    field ∈ momentFields date hour := by
  simp only [momentFields, List.append_assoc, List.mem_append]
  exact .inl always

/-- The year of the week or of the date is not further from zero than can be resolved. -/
theorem yearOfChoice_small (date : DateChoice) (weeks : calendar.weeks.Valid) {day : Int}
    (small : day.natAbs ≤ 200000000000) :
    (yearOfChoice calendar day date).natAbs ≤ greatestYear := by
  -- The week of a day belongs to its year or to a neighbouring one.
  have year := Date.year_ofDay_small small
  obtain ⟨-, near, near', -, -⟩ := WeekRules.firstWeek_add_weekOfYear weeks
    (Date.newYear_year_le day) (Date.lt_newYear_year_succ day)
  cases date <;> simp only [yearOfChoice, greatestYear] <;> omega

/-- The month is that of the date, or January where the date is given without its month. -/
theorem month_ofFields (stored : chosen.Perm (momentFields date hour)) :
    0 ≤ (ofFields (.ofInstant instant zone calendar) chosen).valueD .month 0 ∧
      (ofFields (.ofInstant instant zone calendar) chosen).valueD .month 0 < 12 := by
  have bounds := Date.month_ofDay (CalendarFields.wallDay instant zone)
  simp only [valueD, value?_momentFields _ stored]
  -- A month that is missing counts as zero, which is January.
  split
  · show 0 ≤ (CalendarFields.ofInstant instant zone calendar).month ∧
      (CalendarFields.ofInstant instant zone calendar).month < 12
    -- A known month is counted from zero, one less than the month of the date.
    rw [CalendarFields.month_ofInstant]
    omega
  · decide

/-- The year that counts is the one that goes with the date. -/
theorem yearOfEra_ofFields (stored : chosen.Perm (momentFields date hour)) :
    (ofFields (.ofInstant instant zone calendar) chosen).yearOfEra =
      calendar.countedInEra (CalendarFields.wallDay instant zone)
        (Date.ofDay (CalendarFields.wallDay instant zone)).year
        (yearOfChoice calendar (CalendarFields.wallDay instant zone) date) := by
  have known := value?_momentFields (.ofInstant instant zone calendar) stored
  have year := CalendarFields.year_ofInstant instant zone calendar
  have weekYear := CalendarFields.weekYear_ofInstant instant zone calendar
  rw [Calendar.eraYears_eq] at year weekYear
  cases date with
  | weekOfYear =>
    -- A week of the year is known, so that the date is a week date.
    refine yearOfEra_eq_weekYear ?_ ?_
    · simp only [isWeekDate, known]
      cases hour <;> rfl
    · rw [known, if_pos (by cases hour <;> decide), CalendarFields.get, weekYear]
      rfl
  | dayOfMonth | dayOfYear | weekOfMonth | dayOfWeekInMonth =>
    -- Nothing but the year is given that could count.
    refine yearOfEra_eq_year ?_ ?_
    · simp only [isWeekDate, known]
      cases hour <;> rfl
    · rw [known, if_pos (by cases hour <;> decide), CalendarFields.get, year]
      rfl

/-- Where the month is given, its first day is the one that the day of the month is counted from. -/
theorem monthStart_ofFields (stored : chosen.Perm (momentFields date hour))
    (listed : Field.month ∈ momentFields date hour) :
    Date.toDay ⟨(Date.ofDay (CalendarFields.wallDay instant zone)).year,
        (ofFields (.ofInstant instant zone calendar) chosen).valueD .month 0 + 1, 1⟩ =
      CalendarFields.wallDay instant zone -
        ((Date.ofDay (CalendarFields.wallDay instant zone)).day - 1) := by
  -- Fields count months from zero and dates count them from one, which cancels.
  have known := valueD_momentFields (.ofInstant instant zone calendar) stored listed 0
  rw [known, CalendarFields.get, CalendarFields.month_ofInstant, Int.sub_add_cancel,
    Date.monthStart_ofDay]

/-- Weekdays are as far apart as their days are past whole weeks. -/
theorem dayOfWeek_sub (day days : Int) :
    (dayOfWeek day - dayOfWeek (day - days)) % 7 = days % 7 := by
  -- Weekdays are day numbers modulo seven, up to a constant.
  simp only [dayOfWeek]
  omega

/-- The day is the one that the wall clock shows, whichever way it is given. -/
theorem day?_ofFields (weeks : calendar.weeks.Valid)
    (stored : chosen.Perm (momentFields date hour))
    (small : (CalendarFields.wallDay instant zone).natAbs ≤ 200000000000) :
    (ofFields (.ofInstant instant zone calendar) chosen).day? calendar.weeks
        (yearOfChoice calendar (CalendarFields.wallDay instant zone) date)
        (Date.toDay ⟨yearOfChoice calendar (CalendarFields.wallDay instant zone) date,
          (ofFields (.ofInstant instant zone calendar) chosen).valueD .month 0 + 1, 1⟩) =
      some (CalendarFields.wallDay instant zone) := by
  have known := value?_momentFields (.ofInstant instant zone calendar) stored
  have dayOfMonth := Date.day_ofDay (CalendarFields.wallDay instant zone)
  have begun := Date.newYear_year_le (CalendarFields.wallDay instant zone)
  have ends := Date.lt_newYear_year_succ (CalendarFields.wallDay instant zone)
  have length := Date.newYear_succ (Date.ofDay (CalendarFields.wallDay instant zone)).year
  have into := WeekRules.daysIntoWeek_bounds calendar.weeks
    (dayOfWeek (CalendarFields.wallDay instant zone))
  -- The numbers stay small, so that no sum on the way to the day is too large for a count.
  cases date with
  | dayOfMonth =>
    rw [yearOfChoice, monthStart_ofFields stored (by cases hour <;> decide),
      day?_of_dayOfMonth ((known _).trans (if_pos (by cases hour <;> decide))),
      CalendarFields.get, CalendarFields.dayOfMonth_ofInstant,
      daysAfter?_eq (by omega) (by omega)]
    congr 1
    omega
  | dayOfYear =>
    rw [day?_of_dayOfYear ((known _).trans (if_neg (by cases hour <;> decide)))
        ((known _).trans (if_pos (by cases hour <;> decide))),
      CalendarFields.get, CalendarFields.dayOfYear_ofInstant, yearOfChoice,
      daysAfter?_eq (by omega) (by omega)]
    congr 1
    omega
  | weekOfYear =>
    obtain ⟨named, near, near', first, last⟩ :=
      WeekRules.firstWeek_add_weekOfYear weeks begun ends
    have weekBounds := WeekRules.firstWeek_bounds weeks
      (Date.newYear (yearOfChoice calendar (CalendarFields.wallDay instant zone) .weekOfYear))
    -- The week and the weekday name the day in the week year.
    rw [day?_of_weekOfYear ((known _).trans (if_neg (by cases hour <;> decide)))
        ((known _).trans (if_neg (by cases hour <;> decide)))
        ((known _).trans (if_pos (by cases hour <;> decide)))
        ((known _).trans (if_pos (by cases hour <;> decide))),
      CalendarFields.get, CalendarFields.get, CalendarFields.weekOfYear_ofInstant,
      CalendarFields.dayOfWeek_ofInstant, yearOfChoice,
      weeksAfter?_eq (by omega) (by omega) (by omega), named]
  | weekOfMonth =>
    have weekBounds := WeekRules.firstWeek_bounds weeks (CalendarFields.wallDay instant zone -
      ((Date.ofDay (CalendarFields.wallDay instant zone)).day - 1))
    have named := WeekRules.firstWeek_add_weekNumber calendar.weeks
      (CalendarFields.wallDay instant zone -
        ((Date.ofDay (CalendarFields.wallDay instant zone)).day - 1))
      (CalendarFields.wallDay instant zone)
    -- The same for the weeks of the month, which are counted from its first day.
    rw [yearOfChoice, monthStart_ofFields stored (by cases hour <;> decide),
      day?_of_weekOfMonth ((known _).trans (if_neg (by cases hour <;> decide)))
        ((known _).trans (if_neg (by cases hour <;> decide)))
        ((known _).trans (if_neg (by cases hour <;> decide)))
        ((known _).trans (if_pos (by cases hour <;> decide)))
        ((known _).trans (if_pos (by cases hour <;> decide))),
      CalendarFields.get, CalendarFields.get, CalendarFields.weekOfMonth_ofInstant,
      CalendarFields.dayOfWeek_ofInstant, weeksAfter?_eq (by omega) (by omega) (by omega), named]
  | dayOfWeekInMonth =>
    rw [yearOfChoice, monthStart_ofFields stored (by cases hour <;> decide),
      day?_of_dayOfWeekInMonth ((known _).trans (if_neg (by cases hour <;> decide)))
        ((known _).trans (if_neg (by cases hour <;> decide)))
        ((known _).trans (if_neg (by cases hour <;> decide)))
        ((known _).trans (if_neg (by cases hour <;> decide)))
        ((known _).trans (if_pos (by cases hour <;> decide)))
        ((known _).trans (if_pos (by cases hour <;> decide))),
      CalendarFields.get, CalendarFields.get, CalendarFields.dayOfWeekInMonth_ofInstant,
      CalendarFields.dayOfWeek_ofInstant]
    -- The first such weekday lies as far into the month as the day lies past whole weeks.
    rw [dayOfWeek_sub, weeksAfter?_eq (by omega) (by omega) (by omega)]
    congr 1
    omega

/-- The offsets lead back from the wall clock to the moment. -/
theorem moment?_ofFields (formed : zone.WellFormed) (inside : Count.DayInside instant.millis)
    (stored : chosen.Perm (momentFields date hour)) (presumed : Zone) {wall : Int}
    (shown : wall = CalendarFields.exactWall instant zone) :
    (ofFields (.ofInstant instant zone calendar) chosen).moment? presumed wall =
      some instant.millis := by
  have offset := Zone.offsetAt_bounds formed instant.millis
  have standard : (ofFields (.ofInstant instant zone calendar) chosen).value? .zoneOffset =
      some (CalendarFields.ofInstant instant zone calendar).zoneOffset := by
    rw [value?_momentFields _ stored, if_pos (mem_momentFields _ (by decide))]
    rfl
  have daylight := valueD_momentFields (.ofInstant instant zone calendar) stored
    (mem_momentFields .dstOffset (by decide)) 0
  -- No sum is too large for a count, since offsets are small and the moment is well inside.
  have offsetFits : Count.Fits (zone.offsetAt instant.millis) := Count.fits_of_natAbs_le (by omega)
  simp only [moment?, standard, daylight, CalendarFields.get, CalendarFields.offset_ofInstant,
    Option.bind_eq_bind, Count.within?_of_fits offsetFits, Option.bind_some, shown,
    CalendarFields.exactWall, Int.add_sub_cancel,
    Count.within?_of_fits (Count.fits_of_dayInside inside)]

/--
The fields of an instant lead back to it, whichever way they give the date and the hour.

They may be collected in any order, and the zone that would otherwise be taken for granted does not matter.
-/
theorem resolve?_ofFields (formed : zone.WellFormed) (weeks : calendar.weeks.Valid)
    (inside : Count.DayInside instant.millis)
    (wallInside : Count.DayInside (CalendarFields.exactWall instant zone))
    (stored : chosen.Perm (momentFields date hour)) (presumed : Zone) :
    (ofFields (.ofInstant instant zone calendar) chosen).resolve? presumed calendar =
      some (.ofMillis instant.millis) := by
  have wall := CalendarFields.wallMillis_eq wallInside
  obtain ⟨time, hours, hours', minutes, minutes', seconds, seconds', millis, millis'⟩ :=
    CalendarFields.time_ofInstant instant zone calendar rfl
  have fits := Count.fits_of_dayInside inside
  simp only [Count.DayInside, CalendarFields.exactWall, Count.least, Count.greatest]
    at wallInside wall
  have split : CalendarFields.wallDay instant zone * 86400000 +
      CalendarFields.wallMillis instant zone % 86400000 =
      CalendarFields.wallMillis instant zone := by
    simp only [CalendarFields.wallDay]
    omega
  -- A wall clock inside the range shows a day far from its ends.
  have small : (CalendarFields.wallDay instant zone).natAbs ≤ 200000000000 := by omega
  have yearSmall := yearOfChoice_small date weeks small
  -- Each way of giving the moment holds the small fields and the era, and none has nanoseconds.
  have minute := valueD_momentFields (.ofInstant instant zone calendar) stored
    (mem_momentFields .minute (by decide)) 0
  have second := valueD_momentFields (.ofInstant instant zone calendar) stored
    (mem_momentFields .second (by decide)) 0
  have millisecond := valueD_momentFields (.ofInstant instant zone calendar) stored
    (mem_momentFields .millisecond (by decide)) 0
  have era := valueD_momentFields (.ofInstant instant zone calendar) stored
    (mem_momentFields .era (by decide)) calendar.system.presumedEra
  have noNanos : (ofFields (.ofInstant instant zone calendar) chosen).nanos = 0 := by
    rw [nanos, valueD, value?_momentFields _ stored,
      if_neg (by cases date <;> cases hour <;> decide)]
    rfl
  rw [resolve?_eq (gregorianYear?_eq ?_ (yearOfEra_ofFields stored) yearSmall) yearSmall
    (month_ofFields stored) (day?_ofFields weeks stored small)
    (time?_eq (hourOfDay?_ofFields stored) minute second millisecond ⟨hours, hours'⟩
      ⟨minutes, minutes'⟩ ⟨seconds, seconds'⟩ ⟨millis, millis'⟩) ?_ ?_
    (moment?_ofFields formed inside stored presumed ?_), noNanos, Instant.addNanos?_zero fits]
  · rw [era, CalendarFields.get, CalendarFields.era_ofInstant, Calendar.eraYears_eq]
  · simp only [Count.Fits, Count.least, Count.greatest]
    omega
  · simp only [Count.Fits, Count.least, Count.greatest, CalendarFields.get]
    omega
  · -- The day and the time of day make up the wall clock.
    simp only [CalendarFields.get, CalendarFields.exactWall]
    omega

/--
The last day of 2018 in Tokyo is resolved from its week of 2019 in the imperial calendar.

Its era is the thirtieth year of Heisei, although the week lies in the year in which Reiwa begins.
-/
theorem resolve?_ofFields_lastDayOfHeisei30 :
    let instant := Instant.ofMillis 1546218245678
    let calendar : Calendar := ⟨.imperial, ⟨2, 4⟩⟩
    let fields := CalendarFields.ofInstant instant (.fixed 32400000) calendar
    (Zone.fixed 32400000).WellFormed ∧ calendar.weeks.Valid ∧ Count.DayInside instant.millis ∧
      Count.DayInside (CalendarFields.exactWall instant (.fixed 32400000)) ∧
      (ofFields fields (momentFields .weekOfYear .halfDay)).resolve? .utc calendar =
        some (.ofMillis instant.millis) := by
  -- All four conditions are about fixed numbers, and the fields are taken in the order they are
  -- listed.
  have formed : (Zone.fixed 32400000).WellFormed := by decide
  have weeks : (⟨2, 4⟩ : WeekRules).Valid := by decide
  have inside : Count.DayInside (Instant.ofMillis 1546218245678).millis := by decide
  have wallInside : Count.DayInside
      (CalendarFields.exactWall (.ofMillis 1546218245678) (.fixed 32400000)) := by decide
  exact ⟨formed, weeks, inside, wallInside,
    resolve?_ofFields formed weeks inside wallInside (.refl _) .utc⟩

end Collected

end DatePattern
