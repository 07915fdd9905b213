import DatePattern.Pattern.Token
import DatePattern.Registry
import DatePattern.Text.Bytes
import DatePattern.Writing.Number
import DatePattern.Zone.OffsetForm

/-! Write rules: each token of a pattern writes one piece of the text. -/

namespace DatePattern

/-- How one token is written. -/
inductive WriteRule where
  /-- The text itself. -/
  | literal (text : List Char)
  /-- A number. -/
  | number (rule : NumberRule)
  /-- A name of a field, the first of which stands for the value `base`. -/
  | text (field : Field) (names : List String) (base : Int)
  /-- The name of the zone in standard time or in daylight saving time. -/
  | zoneName (standard daylight : String)
  /-- The offset in hours and minutes, also when it is zero. -/
  | zoneNumber (colon : Bool)
  /-- The offset, or Z when it is zero. -/
  | isoZone (form : OffsetForm)
  /-- The first digits of the nanoseconds. -/
  | fraction (digits : Nat)
deriving DecidableEq, Repr

namespace WriteRule

/-- The rule that writes a field by its name. -/
def named (symbols : Symbols) (field : Field) (long : Bool) : WriteRule :=
  .text field (symbols.names field long) (Symbols.firstValue field)

/-- The length that is set aside for a piece. -/
def estimate : WriteRule → Nat
  | .literal verbatim => Text.byteLength verbatim
  | .number rule => rule.estimate
  | .text _ names _ => (names.map fun name => Text.byteLength name.toList).foldl max 0
  | .zoneName standard daylight =>
    max (Text.byteLength standard.toList) (Text.byteLength daylight.toList)
  | .zoneNumber _ => 5
  | .isoZone form => form.length
  | .fraction digits => digits

/-- The piece that a rule writes for the fields. -/
def write (fields : CalendarFields) : WriteRule → List Char
  | .literal verbatim => verbatim
  | .number rule => rule.write fields
  | .text field names base =>
    -- A value without a name is written as nothing.
    let place := fields.get field - base
    if place < 0 then [] else (names[place.toNat]?.getD "").toList
  | .zoneName standard daylight => (if fields.dstOffset = 0 then standard else daylight).toList
  | .zoneNumber colon =>
    (if colon then OffsetForm.hoursColonMinutes else .hoursMinutes).render
      (fields.zoneOffset + fields.dstOffset)
  | .isoZone form => form.renderZulu (fields.zoneOffset + fields.dstOffset)
  | .fraction digits =>
    let nanos := max 0 (min fields.nanoOfSecond 999999999)
    Digits.padded (nanos / Digits.power (9 - digits)) digits

/-- The rule for the year, or for the week year, at a width. -/
def yearRule (width : Nat) : NumberRule :=
  if width = 2 then .twoDigitYear else .select .year (max width 4)

/-- The rule for the month at a width. -/
def monthRule (symbols : Symbols) (width : Nat) : WriteRule :=
  if 4 ≤ width then named symbols .month true
  else if width = 3 then named symbols .month false
  else .number (if width = 2 then .twoDigitMonth else .unpaddedMonth)

/-- The rule for the name of a zone, which is looked up in both kinds of time. -/
def zoneNameRule (zone : Zone) (locale : Locale) (long : Bool) : Compiling WriteRule := do
  let standard ← modifyGet (·.zoneName ⟨zone, false, long, locale⟩)
  let daylight ← modifyGet (·.zoneName ⟨zone, true, long, locale⟩)
  return .zoneName standard daylight

/-- The rule for a letter at a width, in a zone and a locale with some symbols. -/
def ofLetter (zone : Zone) (locale : Locale) (symbols : Symbols) (letter : Char) (width : Nat) :
    Compiling WriteRule :=
  match letter with
  | 'G' => return named symbols .era true
  | 'y' => return .number (yearRule width)
  | 'Y' => return .number (.weekYear (yearRule width))
  | 'M' => return monthRule symbols width
  | 'd' => return .number (.select .dayOfMonth width)
  | 'h' => return .number (.twelveHour (.select .hour width))
  | 'H' => return .number (.select .hourOfDay width)
  | 'm' => return .number (.select .minute width)
  | 's' => return .number (.select .second width)
  | 'S' => return .number (.select .millisecond width)
  | 'E' => return named symbols .dayOfWeek (4 ≤ width)
  | 'u' => return .number (.dayInWeek (.select .dayOfWeek width))
  | 'D' => return .number (.select .dayOfYear width)
  | 'F' => return .number (.select .dayOfWeekInMonth width)
  | 'w' => return .number (.select .weekOfYear width)
  | 'W' => return .number (.select .weekOfMonth width)
  | 'a' => return named symbols .amPm true
  | 'k' => return .number (.twentyFourHour (.select .hourOfDay width))
  | 'K' => return .number (.select .hour width)
  | 'X' =>
    match width with
    | 1 => return .isoZone .hours
    | 2 => return .isoZone .hoursMinutes
    | 3 => return .isoZone .hoursColonMinutes
    | _ => throw .invalidIsoWidth
  | 'z' => zoneNameRule zone locale (4 ≤ width)
  | 'Z' =>
    match width with
    | 1 => return .zoneNumber false
    | 2 => return .isoZone .hoursColonMinutes
    | _ => return .zoneNumber true
  | 'n' => if 9 < width then throw (.invalidFractionWidth width) else return .fraction width
  | _ => throw (.illegalComponent (String.ofList (Token.letters letter width).component))

/-- The rule for a token. -/
def ofToken (zone : Zone) (locale : Locale) (symbols : Symbols) : Token → Compiling WriteRule
  | .literal verbatim => return .literal verbatim
  | .letters letter width => ofLetter zone locale symbols letter width

end WriteRule

end DatePattern
