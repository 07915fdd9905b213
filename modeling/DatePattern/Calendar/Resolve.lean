import DatePattern.Calendar.Collected
import DatePattern.Calendar.Era

/-! Resolving collected fields: values out of their range roll over, and overflow gives nothing. -/

namespace DatePattern.Collected

/-- Years further from zero than this, the fortieth power of two, are not resolved. -/
def greatestYear : Nat := 1099511627776

/-- Whether the week year counts before the year, as it does for dates given by their week. -/
def isWeekDate (collected : Collected) : Bool :=
  (collected.value? .dayOfMonth).isNone && (collected.value? .dayOfYear).isNone &&
    (collected.value? .weekOfYear).isSome

/-- The year of the era, which is 1970 where no year is known. -/
def yearOfEra (collected : Collected) : Int :=
  let year := collected.value? .year
  let weekYear := collected.value? .weekYear
  (if collected.isWeekDate then weekYear.or year else year.or weekYear).getD 1970

/-- The Gregorian year. -/
def gregorianYear? (collected : Collected) (system : CalendarSystem) : Option Int :=
  let year := collected.yearOfEra
  match system with
  | .gregorian =>
    if collected.value? .era = some 0 then Count.within? (1 - year) else some year
  | .imperial =>
    -- The last era is meant where none is given.
    match imperialStartYear? (collected.valueD .era imperialStarts.length).toNat with
    | none => some year
    | some start => Count.within? (start + (year - 1))

/-- The day that lies whole weeks and some days after a day. -/
def weeksAfter? (start week days : Int) : Option Int := do
  -- Weeks are numbered from one.
  let past ← Count.within? (week - 1)
  let past ← Count.within? (past * 7)
  let begun ← Count.within? (start + past)
  Count.within? (begun + days)

/-- The day at `start` or later that a day count from one names. -/
def daysAfter? (start count : Int) : Option Int := do
  let past ← Count.within? (count - 1)
  Count.within? (start + past)

/-- The day number, from the first of five ways to give it whose main field is known. -/
def day? (collected : Collected) (weeks : WeekRules) (year monthStart : Int) : Option Int :=
  let weekday := collected.value? .dayOfWeek
  let daysIntoWeek := weeks.daysIntoWeek (weekday.getD weeks.firstDay)
  match collected.value? .dayOfMonth with
  | some day => daysAfter? monthStart day
  | none => match collected.value? .dayOfYear with
    | some day => daysAfter? (Date.newYear year) day
    | none => match collected.value? .weekOfYear with
      | some week => weeksAfter? (weeks.firstWeek (Date.newYear year)) week daysIntoWeek
      | none => match collected.value? .weekOfMonth with
        | some week => weeksAfter? (weeks.firstWeek monthStart) week daysIntoWeek
        | none => match collected.value? .dayOfWeekInMonth with
          | some count =>
            -- The first such weekday of the month is counted as number one.
            let target := weekday.getD (dayOfWeek monthStart)
            weeksAfter? (monthStart + (target - dayOfWeek monthStart) % 7) count 0
          | none => some monthStart

/-- The hour of the day, given as such or by the hour of a half day. -/
def hourOfDay? (collected : Collected) : Option Int :=
  match collected.value? .hourOfDay with
  | some hour => some hour
  | none => do
    let noon ← Count.within? (collected.valueD .amPm 0 * 12)
    Count.within? (collected.valueD .hour 0 + noon)

/-- The milliseconds since midnight. -/
def time? (collected : Collected) : Option Int := do
  let hours ← Count.within? ((← collected.hourOfDay?) * 3600000)
  let minutes ← Count.within? (collected.valueD .minute 0 * 60000)
  let time ← Count.within? (hours + minutes)
  let seconds ← Count.within? (collected.valueD .second 0 * 1000)
  let time ← Count.within? (time + seconds)
  Count.within? (time + collected.valueD .millisecond 0)

/-- The moment of a wall clock reading, by the offset read, the zone read, or the zone given. -/
def moment? (collected : Collected) (zone : Zone) (wall : Int) : Option Int :=
  match collected.value? .zoneOffset with
  | some standard => do
    let offset ← Count.within? (standard + collected.valueD .dstOffset 0)
    Count.within? (wall - offset)
  | none => (collected.zone?.getD zone).ofWall? wall

/-- The nanoseconds to add at the end, of which the lowest 32 bits count. -/
def nanos (collected : Collected) : Int := collected.valueD .nanoOfSecond 0 % 4294967296

/-- The instant that the fields denote, where missing ones are those of the epoch. -/
def resolve? (collected : Collected) (zone : Zone) (calendar : Calendar) : Option Instant := do
  let year ← collected.gregorianYear? calendar.system
  let month := collected.valueD .month 0
  -- Months past the end of a year roll over into another year.
  let monthYear ← Count.within? (year + month / 12)
  guard (year.natAbs ≤ greatestYear ∧ monthYear.natAbs ≤ greatestYear)
  let monthStart := Date.toDay ⟨monthYear, month % 12 + 1, 1⟩
  let day ← collected.day? calendar.weeks year monthStart
  let time ← collected.time?
  let midnight ← Count.within? (day * 86400000)
  let wall ← Count.within? (midnight + time)
  let millis ← collected.moment? zone wall
  (Instant.ofMillis millis).addNanos? collected.nanos

end DatePattern.Collected
