import DatePattern.Count

/-! Regions: places whose offset from UTC changes at known seconds. -/

namespace DatePattern

/-- An offset from UTC, split into the standard part and the daylight saving part. -/
structure Offsets where
  /-- The standard offset. -/
  standard : Int
  /-- What daylight saving adds to it. -/
  daylight : Int
deriving DecidableEq, Repr

/-- The whole offset from UTC. -/
def Offsets.total (offsets : Offsets) : Int := offsets.standard + offsets.daylight

/-- A change of the clocks. -/
structure Change where
  /-- The UTC second at which the clocks change. -/
  second : Int
  /-- The offsets in seconds from then on. -/
  offsets : Offsets
deriving DecidableEq, Repr

/-- A named place and its history of offsets. -/
structure Region where
  /-- The name, a continent or an ocean and a city as a rule. -/
  name : String
  /-- The offsets in seconds before the first change. -/
  initial : Offsets
  /-- The changes, earliest first. -/
  changes : List Change
deriving DecidableEq, Repr

/-- Greenwich Mean Time, which never leaves UTC. -/
def Region.greenwich : Region := ⟨"GMT", ⟨0, 0⟩, []⟩

/-- The region of a name in a table, where the name must be spelled exactly. -/
def Region.named? (regions : List Region) (name : String) : Option Region :=
  regions.find? (·.name == name)

/-- A stretch of time with the same offsets. -/
structure Span where
  /-- The UTC second at which the stretch begins, when it has a beginning. -/
  start? : Option Int
  /-- The UTC second at which the stretch is over, when it ends. -/
  stop? : Option Int
  /-- The offsets in seconds. -/
  offsets : Offsets
deriving DecidableEq, Repr

/-- Whether the wall clock shows a second during a stretch. -/
def Span.shows (span : Span) (wall : Int) : Bool :=
  -- Both ends are read off the clock of the stretch itself.
  span.start?.all (fun start => start + span.offsets.total ≤ wall) &&
    span.stop?.all (fun stop => wall < stop + span.offsets.total)

namespace Region

/-- The offsets at a second, where `current` holds until the first of the changes. -/
def offsetsAfter (current : Offsets) : (changes : List Change) → (second : Int) → Offsets
  | [], _ => current
  | change :: later, second =>
    if change.second ≤ second then offsetsAfter change.offsets later second else current

/-- The offsets in force at a UTC second. -/
def offsetsAt (region : Region) (second : Int) : Offsets :=
  offsetsAfter region.initial region.changes second

/-- The stretches from `start?` on, the first of which has the offsets `current`. -/
def spansFrom (start? : Option Int) (current : Offsets) : (changes : List Change) → List Span
  | [] => [⟨start?, none, current⟩]
  | change :: later =>
    ⟨start?, some change.second, current⟩ :: spansFrom (some change.second) change.offsets later

/-- The stretches of equal offsets, which cover all time. -/
def spans (region : Region) : List Span := spansFrom none region.initial region.changes

/-- The offsets of the earliest stretch whose wall clock shows a second, if any shows it. -/
def offsetsShowing? (region : Region) (wall : Int) : Option Offsets :=
  (region.spans.find? (·.shows wall)).map (·.offsets)

end Region

end DatePattern
