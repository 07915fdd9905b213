import DatePattern.Zone.OffsetForm

/-! Timestamp layouts: the common patterns of log files, each with its name. -/

namespace DatePattern

/-- A common pattern, taken apart. -/
structure Layout where
  /-- The name. -/
  name : String
  /-- The whole pattern. -/
  pattern : String
  /-- The part before the hour, if there is one. -/
  datePattern : Option String
  /-- The count of quotes in the pattern. -/
  quotes : Nat
  /-- What separates hours, minutes and seconds. -/
  timeSeparator : Option Char
  /-- What separates the seconds and their fraction. -/
  fractionSeparator : Option Char
  /-- The digits of the fraction. -/
  fractionDigits : Nat
  /-- The form of the offset, if one follows. -/
  offsetForm : Option OffsetForm
deriving DecidableEq, Repr

namespace Layout

/-- The layout for a pattern that is not given. -/
def default : Layout :=
  ⟨"DEFAULT", "yyyy-MM-dd HH:mm:ss,SSS", some "yyyy-MM-dd ", 0, ':', ',', 3, none⟩

/-- Every layout. -/
def all : List Layout := [
    ⟨"ABSOLUTE", "HH:mm:ss,SSS", none, 0, ':', ',', 3, none⟩,
    ⟨"ABSOLUTE_MICROS", "HH:mm:ss,nnnnnn", none, 0, ':', ',', 6, none⟩,
    ⟨"ABSOLUTE_NANOS", "HH:mm:ss,nnnnnnnnn", none, 0, ':', ',', 9, none⟩,
    ⟨"ABSOLUTE_PERIOD", "HH:mm:ss.SSS", none, 0, ':', '.', 3, none⟩,
    ⟨"COMPACT", "yyyyMMddHHmmssSSS", some "yyyyMMdd", 0, none, none, 3, none⟩,
    ⟨"DATE", "dd MMM yyyy HH:mm:ss,SSS", some "dd MMM yyyy ", 0, ':', ',', 3, none⟩,
    ⟨"DATE_PERIOD", "dd MMM yyyy HH:mm:ss.SSS", some "dd MMM yyyy ", 0, ':', '.', 3, none⟩,
    default,
    ⟨"DEFAULT_MICROS", "yyyy-MM-dd HH:mm:ss,nnnnnn", some "yyyy-MM-dd ", 0, ':', ',', 6, none⟩,
    ⟨"DEFAULT_NANOS", "yyyy-MM-dd HH:mm:ss,nnnnnnnnn", some "yyyy-MM-dd ", 0, ':', ',', 9, none⟩,
    ⟨"DEFAULT_PERIOD", "yyyy-MM-dd HH:mm:ss.SSS", some "yyyy-MM-dd ", 0, ':', '.', 3, none⟩,
    ⟨"ISO8601_BASIC", "yyyyMMdd'T'HHmmss,SSS", some "yyyyMMdd'T'", 2, none, ',', 3, none⟩,
    ⟨"ISO8601_BASIC_PERIOD", "yyyyMMdd'T'HHmmss.SSS", some "yyyyMMdd'T'", 2, none, '.', 3, none⟩,
    ⟨"ISO8601", "yyyy-MM-dd'T'HH:mm:ss,SSS", some "yyyy-MM-dd'T'", 2, ':', ',', 3, none⟩,
    ⟨"ISO8601_OFFSET_DATE_TIME_HH", "yyyy-MM-dd'T'HH:mm:ss,SSSX", some "yyyy-MM-dd'T'", 2, ':', ',',
      3, some .hours⟩,
    ⟨"ISO8601_OFFSET_DATE_TIME_HHMM", "yyyy-MM-dd'T'HH:mm:ss,SSSXX", some "yyyy-MM-dd'T'", 2, ':',
      ',', 3, some .hoursMinutes⟩,
    ⟨"ISO8601_OFFSET_DATE_TIME_HHCMM", "yyyy-MM-dd'T'HH:mm:ss,SSSXXX", some "yyyy-MM-dd'T'", 2, ':',
      ',', 3, some .hoursColonMinutes⟩,
    ⟨"ISO8601_PERIOD", "yyyy-MM-dd'T'HH:mm:ss.SSS", some "yyyy-MM-dd'T'", 2, ':', '.', 3, none⟩,
    ⟨"ISO8601_PERIOD_MICROS", "yyyy-MM-dd'T'HH:mm:ss.nnnnnn", some "yyyy-MM-dd'T'", 2, ':', '.', 6,
      none⟩,
    ⟨"US_MONTH_DAY_YEAR2_TIME", "dd/MM/yy HH:mm:ss.SSS", some "dd/MM/yy ", 0, ':', '.', 3, none⟩,
    ⟨"US_MONTH_DAY_YEAR4_TIME", "dd/MM/yyyy HH:mm:ss.SSS", some "dd/MM/yyyy ", 0, ':', '.', 3,
      none⟩]

/-- The length of the pattern without its quotes. -/
def length (layout : Layout) : Nat := layout.pattern.utf8ByteSize - layout.quotes

/-- The layout that has a text as its name or as its pattern. -/
def find? (text : String) : Option Layout :=
  all.find? fun layout => layout.name == text || layout.pattern == text

/-- A pattern around its run of the letter n, and the length of that run. -/
def splitNanos? (pattern : List Char) : Option (List Char × Nat × List Char) :=
  let lead := pattern.takeWhile (· != 'n')
  let tail := pattern.dropWhile (· != 'n')
  let run := tail.takeWhile fun c => c != 'Z' && c != 'X'
  -- The run must not begin the pattern, and must go on to its end or to the offset.
  if lead = [] ∨ run = [] ∨ run.any (· != 'n') then none
  else some (lead, run.length, tail.drop run.length)

/-- The layout of a pattern that has a run of n for SSS, and the digits that the run asks for. -/
def findNanos? (pattern : String) : Option (Layout × Nat) := do
  let (lead, digits, rest) ← splitNanos? pattern.toList
  let layout ← find? (String.ofList (lead ++ ['S', 'S', 'S'] ++ rest))
  return (layout, max 1 (min digits 9))

end Layout

end DatePattern
