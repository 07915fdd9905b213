import DatePattern.Calendar.Fields
import DatePattern.Text.Digits

/-! Writing numeric fields: which value is taken, and in how many digits. -/

namespace DatePattern

/-- How a numeric field is written. -/
inductive NumberRule where
  /-- The digits of a field. -/
  | unpadded (field : Field)
  /-- Two digits of a field, or more where its value needs them. -/
  | twoDigit (field : Field)
  /-- At least some digits of a field. -/
  | padded (field : Field) (size : Nat)
  /-- The last two digits of the year. -/
  | twoDigitYear
  /-- The number of the month from 1. -/
  | unpaddedMonth
  /-- The number of the month from 01. -/
  | twoDigitMonth
  /-- The hour of the half day, with 12 for 0. -/
  | twelveHour (rule : NumberRule)
  /-- The hour of the day, with 24 for 0. -/
  | twentyFourHour (rule : NumberRule)
  /-- The day of the week, from 1 for Monday to 7 for Sunday. -/
  | dayInWeek (rule : NumberRule)
  /-- The week year in place of the year. -/
  | weekYear (rule : NumberRule)
deriving DecidableEq, Repr

namespace NumberRule

/-- The rule for a field at a width. -/
def select (field : Field) (width : Nat) : NumberRule :=
  match width with
  | 1 => .unpadded field
  | 2 => .twoDigit field
  | _ => .padded field width

/-- The length that is set aside for a number. -/
def estimate : NumberRule → Nat
  | .unpadded _ | .unpaddedMonth => 4
  | .twoDigit _ | .twoDigitMonth | .twoDigitYear => 2
  | .padded _ size => size
  | .twelveHour rule | .twentyFourHour rule | .dayInWeek rule | .weekYear rule => rule.estimate

/-- The value that a rule takes from the fields. -/
def valueIn (fields : CalendarFields) : NumberRule → Int
  | .unpadded field | .twoDigit field | .padded field _ => fields.get field
  | .twoDigitYear => fields.year
  | .unpaddedMonth | .twoDigitMonth => fields.month + 1
  | .twelveHour _ => if fields.hour = 0 then 12 else fields.hour
  | .twentyFourHour _ => if fields.hourOfDay = 0 then 24 else fields.hourOfDay
  | .dayInWeek _ => if fields.dayOfWeek = 1 then 7 else fields.dayOfWeek - 1
  | .weekYear _ => fields.weekYear

/-- A value as a rule writes it. -/
def render (value : Int) : NumberRule → List Char
  | .unpadded _ | .unpaddedMonth => Digits.padded value 1
  | .twoDigit _ | .twoDigitMonth =>
    if 0 ≤ value ∧ value < 100 then Digits.two value.toNat else Digits.padded value 2
  | .twoDigitYear => Digits.two (value % 100).toNat
  | .padded _ size => Digits.padded value size
  | .twelveHour rule | .twentyFourHour rule | .dayInWeek rule | .weekYear rule => rule.render value

/-- The number that a rule writes for the fields. -/
def write (rule : NumberRule) (fields : CalendarFields) : List Char :=
  rule.render (rule.valueIn fields)

end NumberRule

end DatePattern
