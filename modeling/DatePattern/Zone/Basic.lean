import DatePattern.Instant
import DatePattern.Text.Blank
import DatePattern.Zone.Custom
import DatePattern.Zone.Region

/-! Timezones: UTC, a constant offset, or a region with a history. -/

namespace DatePattern

/-- A timezone. -/
inductive Zone where
  /-- Coordinated Universal Time. -/
  | utc
  /-- A constant offset in milliseconds. -/
  | fixed (offset : Int)
  /-- A region, whose clocks may change. -/
  | region (place : Region)
deriving DecidableEq, Repr

namespace Zone

/-- Greenwich Mean Time, which stands in for unknown zones. -/
def greenwich : Zone := .region Region.greenwich

/-- The zone of an identifier, when it has one: UTC, an offset that it spells out, or one of some regions. -/
def ofId? (regions : List Region) (id : String) : Option Zone :=
  let name := Text.trim id.toList
  -- UTC is a zone of its own, and custom names are read before regions are searched.
  if name = ['U', 'T', 'C'] then some .utc
  else match CustomZone.offset? name with
    | some offset => some (.fixed offset)
    | none => (Region.named? regions (String.ofList name)).map .region

/-- The zone of an identifier, or Greenwich Mean Time when it has none. -/
def ofId (regions : List Region) (id : String) : Zone := (ofId? regions id).getD greenwich

/-- The identifier of a zone. -/
def id : Zone → String
  | .utc => "UTC"
  | .fixed offset => String.ofList (CustomZone.render offset)
  | .region place => place.name

/-- The nearest millisecond of the civil range. -/
def clampCivil (millis : Int) : Int :=
  max (Instant.firstCivilSecond * 1000) (min millis (Instant.lastCivilSecond * 1000 + 999))

/-- The offsets in milliseconds at a moment, where the ends of the civil range stand for the rest. -/
def offsetsAt (zone : Zone) (millis : Int) : Offsets :=
  match zone with
  | .utc => ⟨0, 0⟩
  | .fixed offset => ⟨offset, 0⟩
  | .region place =>
    let offsets := place.offsetsAt (clampCivil millis / 1000)
    ⟨offsets.standard * 1000, offsets.daylight * 1000⟩

/-- The whole offset in milliseconds at a moment. -/
def offsetAt (zone : Zone) (millis : Int) : Int := (zone.offsetsAt millis).total

/-- What daylight saving adds in the year around a moment, zero where there is none. -/
def daylightSaving (zone : Zone) (millis : Int) : Int :=
  match zone with
  | .utc | .fixed _ => 0
  | .region _ =>
    -- Twelve samples thirty days apart find every daylight saving period of the year.
    (((List.range 12).map fun month : Nat =>
      (zone.offsetsAt (Count.clamp (millis + month * 2592000000))).daylight).find?
        (· ≠ 0)).getD 0

/-- The moment at which the wall clock reads some milliseconds since the local epoch. -/
def ofWall? (zone : Zone) (wall : Int) : Option Int :=
  match zone with
  | .utc => some wall
  | .fixed offset => Count.within? (wall - offset)
  | .region place =>
    if clampCivil wall ≠ wall then none
    else match place.offsetsShowing? (wall / 1000) with
      | some offsets => some (wall - offsets.total * 1000)
      | none => do
        -- A skipped time is read with the offset of half a day before.
        let before ← Count.within? (wall - 43200000)
        Count.within? (wall - zone.offsetAt before)

end Zone

end DatePattern
