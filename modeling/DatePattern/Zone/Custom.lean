import DatePattern.Text.CodePoints
import DatePattern.Text.Digits

/-! Custom zone names, which spell out an offset from Greenwich such as GMT-08:00. -/

namespace DatePattern.CustomZone

/-- The custom name of an offset in milliseconds, to the minute. -/
def render (offset : Int) : List Char :=
  ['G', 'M', 'T', if offset < 0 then '-' else '+'] ++
    Digits.padded (offset.natAbs / 3600000 : Nat) 2 ++ [':'] ++
    Digits.padded (offset.natAbs % 3600000 / 60000 : Nat) 2

/-- The hours and the minutes of a text of digits, parted by a colon or by their places. -/
def hoursMinutes? (text : List Char) : Option (List Char × List Char) :=
  if text.contains ':' then
    some (text.takeWhile (· != ':'), (text.dropWhile (· != ':')).drop 1)
  else if text.length ≤ 2 then some (text, [])
  else if text.length = 4 then some (text.take 2, text.drop 2)
  else none

/-- The milliseconds of hours and minutes such as 5, 05, 0530, 5:30 or 05:30. -/
def magnitude? (text : List Char) : Option Int := do
  guard (text ≠ [] ∧ text.all fun c => Text.isAsciiDigit c || c == ':')
  let (hours, minutes) ← hoursMinutes? text
  -- Minutes may be left out, also after a colon, but have two digits when they are there.
  guard (hours ≠ [] ∧ hours.length ≤ 2 ∧ ¬minutes.contains ':')
  guard (minutes = [] ∨ minutes.length = 2)
  guard (Digits.value hours ≤ 23 ∧ Digits.value minutes ≤ 59)
  return Digits.value hours * 3600000 + Digits.value minutes * 60000

/-- The offset in milliseconds that a custom name spells out, in any case of GMT. -/
def offset? : (name : List Char) → Option Int
  | g :: m :: t :: sign :: rest =>
    if [g, m, t].map Text.lowerAscii ≠ ['g', 'm', 't'] then none
    else if sign = '+' then magnitude? rest
    else if sign = '-' then (magnitude? rest).map (- ·)
    else none
  | _ => none

end DatePattern.CustomZone
