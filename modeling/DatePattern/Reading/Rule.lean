import DatePattern.Pattern.Token
import DatePattern.Registry
import DatePattern.Text.Bytes

/-! Read rules: each token of a pattern reads one piece of the text. -/

namespace DatePattern

/-- What becomes of a number before it is the value of a field. -/
inductive Modifier where
  /-- It is taken as it is. -/
  | none
  /-- Months are numbered from 1 in texts. -/
  | month
  /-- A year below 100 is placed in the window of two-digit years. -/
  | abbreviatedYear
  /-- Hour 12 is hour 0 of the half day. -/
  | twelveHour
  /-- Hour 24 is hour 0 of the day. -/
  | twentyFourHour
  /-- Weekdays are numbered from Monday in texts. -/
  | dayInWeek
deriving DecidableEq, Repr

/-- How one token is read. -/
inductive ReadRule where
  /-- A number that gives a field its value. -/
  | number (field : Field) (modifier : Modifier)
  /-- The first digits of the nanoseconds. -/
  | fraction
  /-- Exactly this text. -/
  | literal (text : List Char)
  /-- A display name. -/
  | text (matcher : TextMatcher)
  /-- A zone, by name or by offset. -/
  | zone (matcher : ZoneMatcher)
  /-- An offset, or Z for none. -/
  | isoZone (form : OffsetForm)

/-- A read rule with its widths. -/
structure ReadStep where
  /-- The rule. -/
  rule : ReadRule
  /-- The width of the token, in bytes for literal text. -/
  width : Nat
  /-- The most digits that a number may have, or zero for any count. -/
  maxWidth : Nat

namespace ReadRule

/-- Whether a rule reads digits. -/
def isNumeric : ReadRule → Bool
  | .number _ _ | .fraction => true
  | _ => false

/-- The rule for the names of a field. -/
def named (locale : Locale) (field : Field) : Compiling ReadRule :=
  .text <$> Registry.textMatcher field locale

/-- The rule for a zone by name or by offset. -/
def zoneRule (locale : Locale) : Compiling ReadRule :=
  .zone <$> Registry.zoneMatcher locale

/-- The rule for a letter at a width in a locale. -/
def ofLetter (locale : Locale) (letter : Char) (width : Nat) : Compiling ReadRule :=
  match letter with
  | 'D' => return .number .dayOfYear .none
  | 'E' => named locale .dayOfWeek
  | 'F' => return .number .dayOfWeekInMonth .none
  | 'G' => named locale .era
  | 'H' => return .number .hourOfDay .none
  | 'K' => return .number .hour .none
  | 'M' => if 3 ≤ width then named locale .month else return .number .month .month
  | 'S' => return .number .millisecond .none
  | 'W' => return .number .weekOfMonth .none
  | 'a' => named locale .amPm
  | 'd' => return .number .dayOfMonth .none
  | 'h' => return .number .hour .twelveHour
  | 'k' => return .number .hourOfDay .twentyFourHour
  | 'm' => return .number .minute .none
  | 'n' => if 9 < width then throw (.invalidFractionWidth width) else return .fraction
  | 's' => return .number .second .none
  | 'u' => return .number .dayOfWeek .dayInWeek
  | 'w' => return .number .weekOfYear .none
  | 'y' => return .number .year (if 2 < width then .none else .abbreviatedYear)
  | 'Y' => return .number .weekYear (if 2 < width then .none else .abbreviatedYear)
  | 'X' =>
    match width with
    | 1 => return .isoZone .hours
    | 2 => return .isoZone .hoursMinutes
    | 3 => return .isoZone .hoursColonMinutes
    | _ => throw .invalidIsoWidth
  | 'Z' => if width = 2 then return .isoZone .hoursColonMinutes else zoneRule locale
  | 'z' => zoneRule locale
  | _ => throw (.illegalComponent (String.ofList (Token.letters letter width).component))

end ReadRule

namespace ReadStep

/-- The step for a token, which may still read any count of digits. -/
def ofToken (locale : Locale) : Token → Compiling ReadStep
  | .literal text => return ⟨.literal text, Text.byteLength text, 0⟩
  | .letters letter width => return ⟨← ReadRule.ofLetter locale letter width, width, 0⟩

/-- Numbers directly before numbers are held to their width. -/
def bounded : List ReadStep → List ReadStep
  | first :: second :: rest =>
    (if first.rule.isNumeric && second.rule.isNumeric then { first with maxWidth := first.width }
      else first) :: bounded (second :: rest)
  | steps => steps

end ReadStep

end DatePattern
