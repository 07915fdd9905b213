import DatePattern.Format

/-! Local days: from one midnight to the next, with the changes of the clocks between them. -/

namespace DatePattern

/-- What is kept of a local day. -/
structure Day where
  /-- The midnight that begins the day, in milliseconds since the epoch. -/
  today : Int
  /-- The midnight that ends the day. -/
  tomorrow : Int
  /-- The milliseconds that the wall clock shows at the beginning, zero unless it skips midnight. -/
  wall : Int
  /-- Whether the clocks change at whole hours after the beginning only. -/
  aligned : Bool
  /-- For each of 25 hours, how far the clocks have moved since the beginning. -/
  shifts : List Int
  /-- The date as it is written, unless it is too long to keep. -/
  date : Option (List Char)
deriving DecidableEq, Repr

namespace Day

/-- The shifts of a day without changes. -/
def noShifts : List Int := List.replicate 25 0

/-- A day that has no moment. -/
def never : Day := ⟨0, 0, 0, true, noShifts, some []⟩

/-- Whether a moment lies in a day. -/
def Contains (day : Day) (millis : Int) : Prop := day.today ≤ millis ∧ millis < day.tomorrow

instance (day : Day) (millis : Int) : Decidable (day.Contains millis) :=
  inferInstanceAs (Decidable (_ ∧ _))

/-- The longest written date that is kept, in bytes. -/
def longestDate : Nat := 64

/-- The midnight some days after the beginning of the local day of a moment. -/
def midnight (zone : Zone) (millis days : Int) : Int :=
  let offset := zone.offsetAt millis
  let day := Count.clamp (millis + offset) / 86400000
  let wall := Count.clamp ((day + days) * 86400000)
  (zone.ofWall? wall).getD (Count.clamp (wall - offset))

/-- Whether the offset stays the same during an hour of a day. -/
def hourIsSteady (zone : Zone) (today tomorrow : Int) (hour : Nat) : Bool :=
  let start := today + hour * 3600000
  -- The last of the hours lasts until the day is over.
  let stop := if hour = 23 then tomorrow else min (start + 3600000) tomorrow
  stop ≤ start || zone.offsetAt start == zone.offsetAt (stop - 1)

/-- The local day of a moment, whose date is written by a format if there is one. -/
def ofMillis (zone : Zone) (dateFormat : Option Format) (millis : Int) : Day :=
  let today := midnight zone millis 0
  let tomorrow := midnight zone millis 1
  if millis < today ∨ tomorrow ≤ millis then
    -- Nothing can be kept of a day whose midnights do not enclose the moment.
    ⟨today, tomorrow, 0, false, noShifts, none⟩
  else
    let offset := zone.offsetAt today
    let changes := offset ≠ zone.offsetAt (tomorrow - 1)
    { today := today
      tomorrow := tomorrow
      wall := (today + offset) % 86400000
      aligned := if changes then (List.range 24).all (hourIsSteady zone today tomorrow) else true
      shifts :=
        if changes then (List.range 25).map fun hour : Nat =>
          zone.offsetAt (today + hour * 3600000) - offset
        else noShifts
      date := match dateFormat with
        | none => some []
        | some format =>
          let date := format.write (.ofMillis millis)
          if Text.byteLength date ≤ longestDate then some date else none }

end Day

end DatePattern
