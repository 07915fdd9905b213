/-! Calendar fields: the parts of a date and a time that patterns name. -/

namespace DatePattern

/-- A part of a date or a time of day. -/
inductive Field where
  /-- The era, counted from zero. -/
  | era
  /-- The year of the era. -/
  | year
  /-- The year of the era that the week belongs to. -/
  | weekYear
  /-- The month from 0 for January to 11 for December. -/
  | month
  /-- The week of the year. -/
  | weekOfYear
  /-- The week of the month. -/
  | weekOfMonth
  /-- The day of the month. -/
  | dayOfMonth
  /-- The day of the year. -/
  | dayOfYear
  /-- The day of the week from 1 for Sunday to 7 for Saturday. -/
  | dayOfWeek
  /-- How many times the day of the week has come in the month. -/
  | dayOfWeekInMonth
  /-- The half of the day, 0 before noon and 1 after. -/
  | amPm
  /-- The hour of the half day, 0 to 11. -/
  | hour
  /-- The hour of the day, 0 to 23. -/
  | hourOfDay
  /-- The minute of the hour. -/
  | minute
  /-- The second of the minute. -/
  | second
  /-- The millisecond of the second. -/
  | millisecond
  /-- The nanosecond of the second. -/
  | nanoOfSecond
  /-- The standard offset from UTC in milliseconds. -/
  | zoneOffset
  /-- The daylight saving offset in milliseconds. -/
  | dstOffset
deriving DecidableEq, Repr

/-- Every field, from the era down to the offsets. -/
def Field.all : List Field :=
  [.era, .year, .weekYear, .month, .weekOfYear, .weekOfMonth, .dayOfMonth, .dayOfYear, .dayOfWeek,
    .dayOfWeekInMonth, .amPm, .hour, .hourOfDay, .minute, .second, .millisecond, .nanoOfSecond,
    .zoneOffset, .dstOffset]

/-- The name of a field. -/
def Field.name : Field → String
  | .era => "Era"
  | .year => "Year"
  | .weekYear => "WeekYear"
  | .month => "Month"
  | .weekOfYear => "WeekOfYear"
  | .weekOfMonth => "WeekOfMonth"
  | .dayOfMonth => "DayOfMonth"
  | .dayOfYear => "DayOfYear"
  | .dayOfWeek => "DayOfWeek"
  | .dayOfWeekInMonth => "DayOfWeekInMonth"
  | .amPm => "AmPm"
  | .hour => "Hour"
  | .hourOfDay => "HourOfDay"
  | .minute => "Minute"
  | .second => "Second"
  | .millisecond => "Millisecond"
  | .nanoOfSecond => "NanoOfSecond"
  | .zoneOffset => "ZoneOffset"
  | .dstOffset => "DstOffset"

end DatePattern
