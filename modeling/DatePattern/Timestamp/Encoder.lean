import DatePattern.Cache
import DatePattern.Timestamp.Day
import DatePattern.Timestamp.Layout

/-! Timestamp encoders: the date of a local day is kept, and the time is written by arithmetic. -/

namespace DatePattern

/-- Writes instants in one layout and one zone. -/
structure Encoder where
  /-- The layout. -/
  layout : Layout
  /-- The zone. -/
  zone : Zone
  /-- The digits of the fraction of the second. -/
  fractionDigits : Nat
  /-- The format of the date, if the layout has one. -/
  dateFormat : Option Format

namespace Encoder

/-- The encoder for a layout, with another count of fraction digits if one is given. -/
def ofLayout (layout : Layout) (zone : Zone) (fractionDigits : Option Nat) : Caching Encoder := do
  let dateFormat ← match layout.datePattern with
    | none => pure none
    | some pattern => some <$> FormatCache.format pattern (some zone) none
  let digits := fractionDigits.getD layout.fractionDigits
  return ⟨layout, zone, max 1 (min digits 9), dateFormat⟩

/-- The encoder for the name or the pattern of a layout and a zone identifier, if it is known. -/
def find? (pattern : Option String) (zoneId : Option String) (cache : FormatCache) :
    Option Encoder × FormatCache :=
  let zone := match zoneId with
    | some id => Zone.ofId cache.registry.regions id
    | none => cache.registry.defaults.zone
  -- The name or pattern itself counts before a reading with other fraction digits.
  let found := match pattern with
    | none => some (Layout.default, none)
    | some pattern =>
      ((Layout.find? pattern).map (·, none)).or
        ((Layout.findNanos? pattern).map fun (layout, digits) => (layout, some digits))
  match found with
  | none => (none, cache)
  | some (layout, digits) =>
    match ofLayout layout zone digits cache with
    | .ok encoder cache => (some encoder, cache)
    | .error _ cache => (none, cache)

/-- Whether two instants are written alike, judged by their seconds and nanoseconds. -/
def sameText (encoder : Encoder) (oldSecond : Int) (oldNano : Nat) (second : Int) (nano : Nat) :
    Bool :=
  oldSecond == second &&
    if encoder.fractionDigits ≤ 3 then oldNano / 1000000 == nano / 1000000 else oldNano == nano

/-- The day to use for a moment: the one kept if it has the moment, and a new one otherwise. -/
def dayFor (encoder : Encoder) (kept : Day) (millis : Int) : Day :=
  if kept.Contains millis then kept else .ofMillis encoder.zone encoder.dateFormat millis

/-- The day kept once a moment was written, which changes only to a day that has the moment. -/
def keep (encoder : Encoder) (kept : Day) (millis : Int) : Day :=
  let day := encoder.dayFor kept millis
  if day.Contains millis then day else kept

/-- The date of a moment. -/
def writeDate (encoder : Encoder) (day : Day) (millis : Int) : List Char :=
  match encoder.dateFormat with
  | none => []
  | some format => day.date.getD (format.write (.ofMillis millis))

/-- The milliseconds since midnight that the wall clock shows at a moment of a day. -/
def wallMillis (encoder : Encoder) (day : Day) (millis : Int) : Int :=
  if day.aligned then
    let elapsed := millis - day.today
    -- Hours past the last one belong to it.
    let hour := min (elapsed / 3600000).toNat 23
    day.wall + elapsed + day.shifts.getD hour 0
  else Count.clamp (millis + encoder.zone.offsetAt millis) % 86400000

/-- The fraction of the second, in units of its last written digit. -/
def fraction (encoder : Encoder) (wall : Int) (nanoOfMilli : Nat) : Int :=
  -- What is left of a reading before the beginning of the day is negative, and wraps around.
  let nanos := Count.word 18446744073709551616
    (Count.word 18446744073709551616 (wall.tmod 1000) * 1000000 + nanoOfMilli : Nat)
  Count.ofWord (nanos / Digits.power (9 - encoder.fractionDigits))

/-- The time of day for the milliseconds since midnight and the nanoseconds past them. -/
def writeTime (encoder : Encoder) (wall : Int) (nanoOfMilli : Nat) : List Char :=
  let separator := encoder.layout.timeSeparator.toList
  -- Hours keep a minus sign, but minutes and seconds are cast to words without one.
  Digits.padded (wall.tdiv 3600000) 2 ++ separator ++
    Digits.twoOfWord (Count.word 4294967296 ((wall.tdiv 60000).tmod 60)) ++ separator ++
    Digits.twoOfWord (Count.word 4294967296 ((wall.tdiv 1000).tmod 60)) ++
    encoder.layout.fractionSeparator.toList ++
    Digits.padded (encoder.fraction wall nanoOfMilli) encoder.fractionDigits

/-- The characters of an instant, and the day that is kept afterwards. -/
def write (encoder : Encoder) (kept : Day) (instant : Instant) : List Char × Day :=
  let millis := instant.millis
  let day := encoder.dayFor kept millis
  let offset := match encoder.layout.offsetForm with
    | none => []
    | some form => form.render (encoder.zone.offsetAt millis)
  (encoder.writeDate day millis ++
    encoder.writeTime (encoder.wallMillis day millis) instant.nanoOfMilli ++ offset,
    encoder.keep kept millis)

end Encoder

end DatePattern
