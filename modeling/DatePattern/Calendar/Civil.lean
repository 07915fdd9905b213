/-! Civil dates of the proleptic Gregorian calendar and the day numbers they stand for. -/

namespace DatePattern

/-- A date of the proleptic Gregorian calendar, where the year 0 comes before the year 1. -/
structure Date where
  /-- The astronomical year. -/
  year : Int
  /-- The month, 1 to 12. -/
  month : Int
  /-- The day of the month, from 1. -/
  day : Int
deriving DecidableEq, Repr

namespace Date

/-- The whole cycles of some length up to a count, by a division that goes towards zero. -/
def cyclesTo (count length : Int) : Int :=
  -- A negative count is lowered first, so that its cycle is the one that it lies in.
  (if 0 ≤ count then count else count - (length - 1)).tdiv length

/-- The number of days from 1970-01-01 to a date. -/
def toDay (date : Date) : Int :=
  -- Years are counted from March, so that a leap day is the last day of its year.
  let year := if date.month ≤ 2 then date.year - 1 else date.year
  let cycle := cyclesTo year 400
  let yearOfCycle := year - cycle * 400
  let dayOfYear := (153 * ((date.month + 9) % 12) + 2) / 5 + date.day - 1
  -- A cycle of 400 years has 146097 days, and 1970-01-01 is day 719468 of the count.
  cycle * 146097 + (yearOfCycle * 365 + yearOfCycle / 4 - yearOfCycle / 100 + dayOfYear) -
    719468

/-- The date a number of days after 1970-01-01. -/
def ofDay (day : Int) : Date :=
  let shifted := day + 719468
  let cycle := cyclesTo shifted 146097
  let dayOfCycle := shifted - cycle * 146097
  -- Leap days are taken out before the days of the cycle are divided into years.
  let yearOfCycle :=
    (dayOfCycle - dayOfCycle / 1460 + dayOfCycle / 36524 - dayOfCycle / 146096) / 365
  let dayOfYear := dayOfCycle - (365 * yearOfCycle + yearOfCycle / 4 - yearOfCycle / 100)
  -- Months from March on follow a pattern of 153 days in five months.
  let monthFromMarch := (5 * dayOfYear + 2) / 153
  let month := if monthFromMarch < 10 then monthFromMarch + 3 else monthFromMarch - 9
  { year := yearOfCycle + cycle * 400 + if month ≤ 2 then 1 else 0
    month := month
    day := dayOfYear - (153 * monthFromMarch + 2) / 5 + 1 }

/-- The number of the first day of a year. -/
def newYear (year : Int) : Int := toDay ⟨year, 1, 1⟩

end Date

/-- The day of the week of a day number, from 1 for Sunday to 7 for Saturday. -/
def dayOfWeek (day : Int) : Int :=
  -- The epoch was a Thursday.
  (day + 4) % 7 + 1

end DatePattern
