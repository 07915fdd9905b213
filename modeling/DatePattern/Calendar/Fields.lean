import DatePattern.Calendar.Era
import DatePattern.Calendar.Field
import DatePattern.Zone.Basic

/-! The calendar fields of an instant, as the clocks and calendars of a place show it. -/

namespace DatePattern

/-- The value of every field at one instant. -/
structure CalendarFields where
  /-- The era. -/
  era : Int
  /-- The year of the era. -/
  year : Int
  /-- The year of the era that the week belongs to. -/
  weekYear : Int
  /-- The month from 0. -/
  month : Int
  /-- The week of the year. -/
  weekOfYear : Int
  /-- The week of the month. -/
  weekOfMonth : Int
  /-- The day of the month. -/
  dayOfMonth : Int
  /-- The day of the year. -/
  dayOfYear : Int
  /-- The day of the week from 1 for Sunday. -/
  dayOfWeek : Int
  /-- How many times the day of the week has come in the month. -/
  dayOfWeekInMonth : Int
  /-- The half of the day. -/
  amPm : Int
  /-- The hour of the half day. -/
  hour : Int
  /-- The hour of the day. -/
  hourOfDay : Int
  /-- The minute of the hour. -/
  minute : Int
  /-- The second of the minute. -/
  second : Int
  /-- The millisecond of the second. -/
  millisecond : Int
  /-- The nanosecond of the second. -/
  nanoOfSecond : Int
  /-- The standard offset in milliseconds. -/
  zoneOffset : Int
  /-- The daylight saving offset in milliseconds. -/
  dstOffset : Int
deriving DecidableEq, Repr

namespace CalendarFields

/-- The value of a field. -/
def get (fields : CalendarFields) : Field → Int
  | .era => fields.era
  | .year => fields.year
  | .weekYear => fields.weekYear
  | .month => fields.month
  | .weekOfYear => fields.weekOfYear
  | .weekOfMonth => fields.weekOfMonth
  | .dayOfMonth => fields.dayOfMonth
  | .dayOfYear => fields.dayOfYear
  | .dayOfWeek => fields.dayOfWeek
  | .dayOfWeekInMonth => fields.dayOfWeekInMonth
  | .amPm => fields.amPm
  | .hour => fields.hour
  | .hourOfDay => fields.hourOfDay
  | .minute => fields.minute
  | .second => fields.second
  | .millisecond => fields.millisecond
  | .nanoOfSecond => fields.nanoOfSecond
  | .zoneOffset => fields.zoneOffset
  | .dstOffset => fields.dstOffset

/-- Milliseconds that the wall clock of a zone shows at an instant, held in range. -/
def wallMillis (instant : Instant) (zone : Zone) : Int :=
  Count.clamp (instant.millis + zone.offsetAt instant.millis)

/-- The fields of an instant in a zone and a calendar. -/
def ofInstant (instant : Instant) (zone : Zone) (calendar : Calendar) : CalendarFields :=
  let offsets := zone.offsetsAt instant.millis
  let wall := wallMillis instant zone
  -- The wall clock parts into a day number and the milliseconds of that day.
  let day := wall / 86400000
  let time := wall % 86400000
  let date := Date.ofDay day
  let week := calendar.weeks.weekOfYear date.year day
  let years := calendar.eraYears day date.year week.2
  let hourOfDay := time / 3600000
  { era := years.1
    year := years.2.1
    weekYear := years.2.2
    month := date.month - 1
    weekOfYear := week.1
    weekOfMonth := calendar.weeks.weekNumber (day - (date.day - 1)) day
    dayOfMonth := date.day
    dayOfYear := day - Date.newYear date.year + 1
    dayOfWeek := DatePattern.dayOfWeek day
    dayOfWeekInMonth := (date.day - 1) / 7 + 1
    amPm := hourOfDay / 12
    hour := hourOfDay % 12
    hourOfDay := hourOfDay
    minute := time / 60000 % 60
    second := time / 1000 % 60
    millisecond := time % 1000
    nanoOfSecond := instant.nano
    zoneOffset := offsets.standard
    dstOffset := offsets.daylight }

end CalendarFields

end DatePattern
