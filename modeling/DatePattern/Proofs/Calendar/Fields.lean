import DatePattern.Calendar.Fields

/-! The fields of an instant, each in terms of the wall clock, and what they make up together. -/

namespace DatePattern

/-- A count of milliseconds that stays more than a day inside the range of 64 bits. -/
def Count.DayInside (n : Int) : Prop := least + 86400000 < n ∧ n < greatest - 86400000

instance (n : Int) : Decidable (Count.DayInside n) := inferInstanceAs (Decidable (_ ∧ _))

/-- A count well inside the range fits. -/
theorem Count.fits_of_dayInside {n : Int} (inside : DayInside n) : Fits n := by
  -- A day inside both ends is inside both ends.
  simp only [DayInside, least, greatest] at inside
  simp only [Fits, least, greatest]
  omega

namespace CalendarFields

/-- The milliseconds that the wall clock of a zone shows at an instant, without any bounds. -/
def exactWall (instant : Instant) (zone : Zone) : Int :=
  instant.millis + zone.offsetAt instant.millis

/-- The number of the day that the wall clock shows. -/
def wallDay (instant : Instant) (zone : Zone) : Int := wallMillis instant zone / 86400000

/-- A wall clock well inside the range is not held at either end. -/
theorem wallMillis_eq {instant : Instant} {zone : Zone}
    (inside : Count.DayInside (exactWall instant zone)) :
    wallMillis instant zone = exactWall instant zone :=
  -- The clamp moves nothing that fits.
  Count.clamp_of_fits (Count.fits_of_dayInside inside)

variable (instant : Instant) (zone : Zone) (calendar : Calendar)

/-- The era is that of the day, by the calendar. -/
theorem era_ofInstant : (ofInstant instant zone calendar).era =
    (calendar.eraYears (wallDay instant zone) (Date.ofDay (wallDay instant zone)).year
      (calendar.weeks.weekOfYear (Date.ofDay (wallDay instant zone)).year
        (wallDay instant zone)).2).1 := rfl

/-- The year is counted within the era. -/
theorem year_ofInstant : (ofInstant instant zone calendar).year =
    (calendar.eraYears (wallDay instant zone) (Date.ofDay (wallDay instant zone)).year
      (calendar.weeks.weekOfYear (Date.ofDay (wallDay instant zone)).year
        (wallDay instant zone)).2).2.1 := rfl

/-- The week year is counted within the era of the day. -/
theorem weekYear_ofInstant : (ofInstant instant zone calendar).weekYear =
    (calendar.eraYears (wallDay instant zone) (Date.ofDay (wallDay instant zone)).year
      (calendar.weeks.weekOfYear (Date.ofDay (wallDay instant zone)).year
        (wallDay instant zone)).2).2.2 := rfl

/-- The month is that of the date, counted from zero. -/
theorem month_ofInstant : (ofInstant instant zone calendar).month =
    (Date.ofDay (wallDay instant zone)).month - 1 := rfl

/-- The week is that of the year of the date. -/
theorem weekOfYear_ofInstant : (ofInstant instant zone calendar).weekOfYear =
    (calendar.weeks.weekOfYear (Date.ofDay (wallDay instant zone)).year
      (wallDay instant zone)).1 := by
  -- The week and its year are computed once, and the field takes the first of the two.
  simp only [ofInstant, wallDay]

/-- The week of the month is counted from the first day of the month of the date. -/
theorem weekOfMonth_ofInstant : (ofInstant instant zone calendar).weekOfMonth =
    calendar.weeks.weekNumber
      (wallDay instant zone - ((Date.ofDay (wallDay instant zone)).day - 1))
      (wallDay instant zone) := rfl

/-- The day of the month is that of the date. -/
theorem dayOfMonth_ofInstant : (ofInstant instant zone calendar).dayOfMonth =
    (Date.ofDay (wallDay instant zone)).day := rfl

/-- The day of the year is counted from the first day of the year of the date. -/
theorem dayOfYear_ofInstant : (ofInstant instant zone calendar).dayOfYear =
    wallDay instant zone - Date.newYear (Date.ofDay (wallDay instant zone)).year + 1 := rfl

/-- The day of the week is that of the day. -/
theorem dayOfWeek_ofInstant : (ofInstant instant zone calendar).dayOfWeek =
    DatePattern.dayOfWeek (wallDay instant zone) := rfl

/-- The weekday has come once for each whole week of the month. -/
theorem dayOfWeekInMonth_ofInstant : (ofInstant instant zone calendar).dayOfWeekInMonth =
    ((Date.ofDay (wallDay instant zone)).day - 1) / 7 + 1 := rfl

/-- The halves of the day have twelve hours each. -/
theorem amPm_ofInstant : (ofInstant instant zone calendar).amPm =
    wallMillis instant zone % 86400000 / 3600000 / 12 := rfl

/-- The hour of the half day is what the half leaves. -/
theorem hour_ofInstant : (ofInstant instant zone calendar).hour =
    wallMillis instant zone % 86400000 / 3600000 % 12 := rfl

/-- The hour is that of the time of day. -/
theorem hourOfDay_ofInstant : (ofInstant instant zone calendar).hourOfDay =
    wallMillis instant zone % 86400000 / 3600000 := rfl

/-- The minute is that of the time of day. -/
theorem minute_ofInstant : (ofInstant instant zone calendar).minute =
    wallMillis instant zone % 86400000 / 60000 % 60 := rfl

/-- The second is that of the time of day. -/
theorem second_ofInstant : (ofInstant instant zone calendar).second =
    wallMillis instant zone % 86400000 / 1000 % 60 := rfl

/-- The millisecond is that of the time of day. -/
theorem millisecond_ofInstant : (ofInstant instant zone calendar).millisecond =
    wallMillis instant zone % 86400000 % 1000 := rfl

/-- The nanosecond is that of the instant, whatever the zone. -/
theorem nanoOfSecond_ofInstant : (ofInstant instant zone calendar).nanoOfSecond =
    instant.nano := rfl

/-- The two offsets make up the whole offset. -/
theorem offset_ofInstant : (ofInstant instant zone calendar).zoneOffset +
    (ofInstant instant zone calendar).dstOffset = zone.offsetAt instant.millis := rfl

/-- The parts of the time of day, and how they make it up. -/
theorem time_ofInstant {fields : CalendarFields}
    (shown : ofInstant instant zone calendar = fields) :
    fields.hourOfDay * 3600000 + fields.minute * 60000 + fields.second * 1000 +
        fields.millisecond = wallMillis instant zone % 86400000 ∧
      0 ≤ fields.hourOfDay ∧ fields.hourOfDay < 24 ∧ 0 ≤ fields.minute ∧ fields.minute < 60 ∧
      0 ≤ fields.second ∧ fields.second < 60 ∧ 0 ≤ fields.millisecond ∧
      fields.millisecond < 1000 := by
  -- Each part is a quotient of the time of day, reduced to the next larger part.
  rw [← shown, hourOfDay_ofInstant, minute_ofInstant, second_ofInstant, millisecond_ofInstant]
  have timeBounds : 0 ≤ wallMillis instant zone % 86400000 ∧
      wallMillis instant zone % 86400000 < 86400000 := by omega
  -- The time of day is divided like any number below 86400000.
  generalize wallMillis instant zone % 86400000 = time at *
  omega

/-- The hour of the half day and the half make up the hour of the day. -/
theorem halfDay_ofInstant {fields : CalendarFields}
    (shown : ofInstant instant zone calendar = fields) :
    fields.hour + fields.amPm * 12 = fields.hourOfDay ∧ 0 ≤ fields.hour ∧ fields.hour < 12 ∧
      0 ≤ fields.amPm ∧ fields.amPm ≤ 1 := by
  -- The hours of the day are divided by twelve, and the hour of the day is at most 23.
  have whole := time_ofInstant instant zone calendar shown
  rw [← shown, hour_ofInstant, amPm_ofInstant, hourOfDay_ofInstant] at *
  omega

end CalendarFields

end DatePattern
