import DatePattern.Calendar.Week

/-! Calendar systems: the Christian eras, and the eras of the Japanese emperors. -/

namespace DatePattern

/-- How years and eras are counted. -/
inductive CalendarSystem where
  /-- Years before Christ and years of the Lord. -/
  | gregorian
  /-- Years of reign since 1868, and Gregorian years before. -/
  | imperial
deriving DecidableEq, Repr

/-- A calendar system together with its week rules. -/
structure Calendar where
  /-- How years and eras are counted. -/
  system : CalendarSystem
  /-- How weeks are counted. -/
  weeks : WeekRules
deriving DecidableEq, Repr

/-- The first days of Meiji, Taisho, Showa, Heisei and Reiwa. -/
def imperialStarts : List Date :=
  [⟨1868, 1, 1⟩, ⟨1912, 7, 30⟩, ⟨1926, 12, 25⟩, ⟨1989, 1, 8⟩, ⟨2019, 5, 1⟩]

/-- The era of a day: 0 before Meiji, and then 1 for Meiji up to 5 for Reiwa. -/
def imperialEra (day : Int) : Nat :=
  -- The eras follow one another, so those begun by a day are counted.
  (imperialStarts.filter fun start => start.toDay ≤ day).length

/-- The Gregorian year in which an era numbered from 1 begins. -/
def imperialStartYear? : (era : Nat) → Option Int
  | 0 => none
  | era + 1 => imperialStarts[era]?.map (·.year)

namespace Calendar

/-- The era and the years within it of a day in a Gregorian year and week year. -/
def eraYears (calendar : Calendar) (day year weekYear : Int) : Int × Int × Int :=
  match calendar.system with
  | .gregorian =>
    -- The year before the year 1 is the first year before Christ.
    if 0 < year then (1, year, weekYear) else (0, 1 - year, 1 - weekYear)
  | .imperial =>
    match imperialStartYear? (imperialEra day) with
    | none => (0, year, weekYear)
    | some start => (imperialEra day, year - start + 1, weekYear - start + 1)

end Calendar

end DatePattern
