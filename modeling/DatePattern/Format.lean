import DatePattern.Reading.Reader
import DatePattern.Writing.Rule

/-! Formats: a pattern made ready for one zone and one locale, to write and to read texts. -/

namespace DatePattern

/-- A pattern made ready for a zone and a locale. -/
structure Format where
  /-- The pattern. -/
  pattern : String
  /-- The zone in which instants are written. -/
  zone : Zone
  /-- The locale. -/
  locale : Locale
  /-- How years and weeks are counted. -/
  calendar : Calendar
  /-- One write rule for each token. -/
  rules : List WriteRule
  /-- The reading side. -/
  reader : Reader

namespace Format

/-- The first year of the window of two-digit years. -/
def windowStart (registry : Registry) (zone : Zone) (locale : Locale) (calendar : Calendar) :
    (centuryStart : Option Instant) → Int
  | some start => (CalendarFields.ofInstant start zone calendar).year
  | none =>
    -- Imperial years are read as they are given.
    if locale.isImperial then 0
    else (CalendarFields.ofInstant (.ofMillis registry.now) zone calendar).year -
      registry.defaults.lookback

/-- The write rules for tokens. -/
def writeRules (tokens : List Token) (zone : Zone) (locale : Locale) (symbols : Symbols) :
    Compiling (List WriteRule) :=
  tokens.mapM (WriteRule.ofToken zone locale symbols)

/-- The reading side for tokens. -/
def readerOf (tokens : List Token) (zone : Zone) (locale : Locale)
    (centuryStart : Option Instant) : Compiling Reader := do
  let registry ← get
  let calendar := (registry.localeData.symbols locale).calendar
  let steps ← tokens.mapM (ReadStep.ofToken locale)
  return {
    steps := ReadStep.bounded steps
    regions := registry.regions
    zone := zone
    calendar := calendar
    imperial := locale.isImperial
    windowStart := windowStart registry zone locale calendar centuryStart
    reference := registry.now }

/-- The format of a pattern, whose two-digit years may be placed from a given instant on. -/
def compile (pattern : String) (zone : Zone) (locale : Locale)
    (centuryStart : Option Instant) : Compiling Format := do
  let tokens ← match Token.ofPattern pattern with
    | .ok tokens => pure tokens
    | .error reason => throw reason
  let symbols := (← get).localeData.symbols locale
  -- Both sides have a rule for each token.
  let rules ← writeRules tokens zone locale symbols
  let reader ← readerOf tokens zone locale centuryStart
  return { pattern, zone, locale, calendar := symbols.calendar, rules, reader }

/-- The length that is set aside for a text. -/
def estimate (format : Format) : Nat := format.rules.foldl (· + ·.estimate) 0

/-- The fields of an instant as this format writes them. -/
def fields (format : Format) (instant : Instant) : CalendarFields :=
  .ofInstant instant format.zone format.calendar

/-- The characters of an instant in this format. -/
def write (format : Format) (instant : Instant) : List Char :=
  let fields := format.fields instant
  format.rules.flatMap (·.write fields)

/-- The text of an instant in this format. -/
def render (format : Format) (instant : Instant) : String := String.ofList (format.write instant)

/-- The format itself in words: its pattern, its locale and its zone. -/
def describe (format : Format) : String :=
  "CompiledFormat[" ++ format.pattern ++ "," ++ format.locale.render ++ "," ++ format.zone.id ++ "]"

end Format

end DatePattern
