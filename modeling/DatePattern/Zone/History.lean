import DatePattern.Calendar.Civil
import DatePattern.Text.Digits
import DatePattern.Zone.Region

/-! Compact offset histories, and the regions that they describe. -/

namespace DatePattern

/-- A change of the clocks that recurs each year. -/
structure YearlyChange where
  /-- The day of the week on which the clocks change, from 1 for Sunday. -/
  weekday : Int
  /-- The month of the earliest date. -/
  month : Int
  /-- The earliest date in that month. -/
  day : Int
  /-- The second of that UTC day, which may lie beyond its end. -/
  second : Int
  /-- The letter of the new offsets. -/
  label : Char
deriving DecidableEq, Repr

/-- A compact history of the offsets of a place. -/
structure History where
  /-- The name of the place. -/
  name : String
  /-- The offsets in seconds that occur, lettered from a; the first holds at the beginning. -/
  offsets : List Offsets
  /-- Lines of changes, each a UTC second directly followed by the letter of the new offsets. -/
  changes : List String
  /-- Changes that recur after those, in the order of the year. -/
  yearly : List YearlyChange := []
  /-- The first year of the recurring changes. -/
  firstYear : Int := 0
  /-- The last year of the recurring changes. -/
  lastYear : Int := -1
deriving Repr

namespace History

/-- The offsets that a letter stands for. -/
def labelled (history : History) (label : Char) : Offsets :=
  history.offsets.getD (label.toNat - 'a'.toNat) ⟨0, 0⟩

/-- The changes written in a text, where the sign and digits of a second may be open. -/
def marked (history : History) (negative : Bool) (second : Nat) : List Char → List Change
  | [] => []
  | c :: rest =>
    if c = ' ' then marked history false 0 rest
    else if c = '-' then marked history true second rest
    else if c.isDigit then marked history negative (10 * second + (c.toNat - '0'.toNat)) rest
    else
      -- A letter closes the mark.
      ⟨if negative then -second else second, history.labelled c⟩ :: marked history false 0 rest

/-- The change that a yearly rule brings in a year. -/
def changeIn (history : History) (year : Int) (rule : YearlyChange) : Change :=
  -- The clocks change on the first such weekday on or after the earliest date.
  let earliest := Date.toDay ⟨year, rule.month, rule.day⟩
  let day := earliest + (rule.weekday - dayOfWeek earliest) % 7
  ⟨day * 86400 + rule.second, history.labelled rule.label⟩

/-- The changes of all years with yearly rules. -/
def recurring (history : History) : List Change :=
  (List.range (history.lastYear + 1 - history.firstYear).toNat).flatMap fun later : Nat =>
    history.yearly.map (history.changeIn (history.firstYear + later))

/-- The region with this history. -/
def region (history : History) : Region where
  name := history.name
  initial := history.labelled 'a'
  changes := history.changes.flatMap (history.marked false 0 ·.toList) ++ history.recurring

end History

end DatePattern
