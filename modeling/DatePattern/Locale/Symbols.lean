import DatePattern.Calendar.Era
import DatePattern.Calendar.Field
import DatePattern.Locale.Basic

/-! Symbols: the names that a language gives to months, weekdays, eras and halves of the day. -/

namespace DatePattern

/-- The display names of one language and its calendar. -/
structure Symbols where
  /-- The eras, from the earliest. -/
  eras : List String
  /-- The months from January. -/
  months : Vector String 12
  /-- Short names of the months. -/
  shortMonths : Vector String 12
  /-- The weekdays from Sunday. -/
  weekdays : Vector String 7
  /-- Short names of the weekdays. -/
  shortWeekdays : Vector String 7
  /-- The halves of the day, before noon and after. -/
  halves : Vector String 2
  /-- How years and weeks are counted. -/
  calendar : Calendar
deriving DecidableEq, Repr

namespace Symbols

/-- The names of a field in the order of its values, or none for a field without names. -/
def names (symbols : Symbols) (field : Field) (long : Bool) : List String :=
  match field, long with
  | .era, _ => symbols.eras
  | .month, true => symbols.months.toList
  | .month, false => symbols.shortMonths.toList
  | .dayOfWeek, true => symbols.weekdays.toList
  | .dayOfWeek, false => symbols.shortWeekdays.toList
  | .amPm, _ => symbols.halves.toList
  | _, _ => []

/-- The value of a field that its first name stands for. -/
def firstValue : Field → Int
  | .dayOfWeek => 1
  | _ => 0

/-- The names of one length that are not empty, each with the value it stands for. -/
def valuedNames (symbols : Symbols) (field : Field) (long : Bool) : List (String × Int) :=
  let valued := (symbols.names field long).zipIdx.map fun (name, index) =>
    (name, index + firstValue field)
  valued.filter fun (name, _) => name ≠ ""

/-- Every name of a field with the value it stands for, long names first. -/
def displayNames (symbols : Symbols) (field : Field) : List (String × Int) :=
  symbols.valuedNames field true ++ symbols.valuedNames field false

end Symbols

end DatePattern
