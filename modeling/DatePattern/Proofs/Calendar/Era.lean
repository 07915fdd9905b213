import DatePattern.Calendar.Resolve
import DatePattern.Proofs.Calendar.Civil

/-! Laws of eras: the year counted in an era, together with the era, gives back the Gregorian year. -/

namespace DatePattern

/-- The era that is meant where none is given. -/
def CalendarSystem.presumedEra : CalendarSystem → Int
  | .gregorian => 1
  | .imperial => imperialStarts.length

namespace Calendar

/-- The era of a day of a Gregorian year. -/
def eraOf (calendar : Calendar) (day year : Int) : Int := (calendar.eraYears day year year).1

/-- The count that a Gregorian year has in the era of a day of another year. -/
def countedInEra (calendar : Calendar) (day year other : Int) : Int :=
  (calendar.eraYears day year other).2.2

/-- The era and the counts of the year and the week year, each by itself. -/
theorem eraYears_eq (calendar : Calendar) (day year weekYear : Int) :
    calendar.eraYears day year weekYear =
      (calendar.eraOf day year, calendar.countedInEra day year year,
        calendar.countedInEra day year weekYear) := by
  -- Only the last component looks at the week year.
  obtain ⟨system, weeks⟩ := calendar
  cases system with
  | gregorian =>
    -- Years of the Lord are told by their sign.
    by_cases positive : 0 < year <;> simp [eraOf, countedInEra, eraYears, positive]
  | imperial =>
    -- Imperial years are counted from the start of the era, where the day has one.
    cases begun : imperialStartYear? (imperialEra day) <;>
      simp [eraOf, countedInEra, eraYears, begun]

end Calendar

/-- The years in which the imperial eras begin. -/
theorem imperialStartYear?_bounds {era : Nat} {start : Int}
    (begun : imperialStartYear? era = some start) : 1868 ≤ start ∧ start ≤ 2019 := by
  -- There are five of them.
  match era with
  | 0 => cases begun
  | 1 | 2 | 3 | 4 | 5 =>
    cases begun
    decide
  | later + 6 => cases begun

/-- The era and the count of a year in it, as they are collected, give back the Gregorian year. -/
theorem Collected.gregorianYear?_eq {collected : Collected} {calendar : Calendar}
    {day year other : Int}
    (era : collected.valueD .era calendar.system.presumedEra = calendar.eraOf day year)
    (counted : collected.yearOfEra = calendar.countedInEra day year other)
    (small : other.natAbs ≤ greatestYear) :
    collected.gregorianYear? calendar.system = some other := by
  -- Either system undoes what it did, era by era.
  obtain ⟨system, weeks⟩ := calendar
  simp only [greatestYear] at small
  cases system with
  | gregorian =>
    -- The era before Christ is collected just if the year was not positive.
    have before : collected.value? .era = some 0 ↔ ¬0 < year := by
      have presumed : collected.valueD .era 1 = 0 ↔ collected.value? .era = some 0 := by
        cases known : collected.value? .era <;> simp [valueD, known]
      rw [← presumed, show collected.valueD .era 1 = _ from era]
      by_cases positive : 0 < year <;> simp [Calendar.eraOf, Calendar.eraYears, positive]
    simp only [gregorianYear?, counted, Calendar.countedInEra, Calendar.eraYears]
    -- Years before Christ are counted backwards from the year 1, in both directions.
    by_cases positive : 0 < year
    · rw [if_neg (by simp [before, positive])]
      simp [positive]
    · rw [if_pos (by simp [before, positive])]
      simp only [positive, if_false]
      rw [Count.within?_of_fits (Count.fits_of_natAbs_le (by omega))]
      congr 1
      omega
  | imperial =>
    have known : collected.valueD .era imperialStarts.length =
        (Calendar.mk .imperial weeks).eraOf day year := era
    simp only [gregorianYear?, known, counted]
    cases begun : imperialStartYear? (imperialEra day) with
    | none =>
      -- Before the first era years are Gregorian ones.
      simp only [Calendar.eraOf, Calendar.countedInEra, Calendar.eraYears, begun]
      rfl
    | some start =>
      -- The year in which the era begins is added again, and nothing overflows so close to the
      -- present.
      have bounds := imperialStartYear?_bounds begun
      simp only [Calendar.eraOf, Calendar.countedInEra, Calendar.eraYears, begun,
        Int.toNat_natCast]
      rw [Count.within?_of_fits (Count.fits_of_natAbs_le (by omega))]
      congr 1
      omega

/-- Days of the same year or of neighbouring years, less than a year apart. -/
theorem Date.year_near {day other : Int} (near : (day - other).natAbs ≤ 6) :
    ((Date.ofDay day).year - (Date.ofDay other).year).natAbs ≤ 1 := by
  -- Both days are enclosed by the first days of their years.
  have begun := newYear_year_le day
  have ends := lt_newYear_year_succ day
  have begun' := newYear_year_le other
  have ends' := lt_newYear_year_succ other
  -- A year lasts 365 days or more, and so does each one in between.
  have later : ∀ (year : Int) (gap : Nat),
      newYear year + 365 * (gap + 1) ≤ newYear (year + 1 + gap) := by
    intro year gap
    rw [newYear_eq, newYear_eq]
    omega
  -- Nothing else is needed of the two years.
  generalize (Date.ofDay day).year = year at *
  generalize (Date.ofDay other).year = year' at *
  -- A whole year between the days would keep them more than six days apart.
  by_cases before : year + 1 < year'
  · have gap := later (year + 1) (year' - (year + 2)).toNat
    rw [show year + 1 + 1 + ((year' - (year + 2)).toNat : Int) = year' by omega] at gap
    omega
  by_cases after : year' + 1 < year
  · have gap := later (year' + 1) (year - (year' + 2)).toNat
    rw [show year' + 1 + 1 + ((year - (year' + 2)).toNat : Int) = year by omega] at gap
    omega
  omega

/-- The years of the days from a little before Meiji to a little after the beginning of Reiwa. -/
private theorem year_modern {day : Int} (lower : -37300 ≤ day) (upper : day ≤ 18100) :
    1860 ≤ (Date.ofDay day).year ∧ (Date.ofDay day).year ≤ 2025 := by
  -- The first days of 1860 and of 2026 lie outside these days.
  have begun := Date.newYear_year_le day
  have ends := Date.lt_newYear_year_succ day
  rw [Date.newYear_eq] at begun ends
  generalize (Date.ofDay day).year = year at *
  omega

/-- Counting in an era moves a year by at most the years up to the last era. -/
theorem Calendar.natAbs_countedInEra_le (calendar : Calendar) (day year other : Int) :
    (calendar.countedInEra day year other).natAbs ≤ other.natAbs + 2019 := by
  -- Years before Christ are moved by one, and imperial years by the year before their era.
  obtain ⟨system, weeks⟩ := calendar
  cases system with
  | gregorian =>
    simp only [countedInEra, eraYears]
    by_cases positive : 0 < year <;> simp only [positive, if_true, if_false] <;> omega
  | imperial =>
    simp only [countedInEra, eraYears]
    cases begun : imperialStartYear? (imperialEra day) with
    | none =>
      simp only
      omega
    | some start =>
      -- The first year of an era is 2019 at the latest.
      have bounds := imperialStartYear?_bounds begun
      simp only
      omega

/-- A day counted in the last era, or before the first one. -/
private theorem imperialEra_far (day : Int) :
    (18017 ≤ day → imperialEra day = 5) ∧ (day < -37256 → imperialEra day = 0) := by
  -- There are five starts, and a day far enough away has passed all of them or none.
  have starts : imperialStarts.map Date.toDay = [-37255, -20974, -15713, 6947, 18017] := by decide
  -- The eras are in the order of their starts, so a day is in the one that it has reached last.
  have counted : imperialEra day =
      ((imperialStarts.map Date.toDay).filter fun start => start ≤ day).length := by
    rw [imperialEra, List.filter_map, List.length_map]
    rfl
  rw [counted, starts]
  constructor
  · -- A day from Reiwa on has passed all starts.
    intro late
    have all : ∀ start : Int, start ≤ 18017 → decide (start ≤ day) = true := by
      intro start early
      simpa using Int.le_trans early late
    simp [List.filter, all]
  · -- A day before Meiji has passed none.
    intro early
    have none : ∀ start : Int, -37256 ≤ start → decide (start ≤ day) = false := by
      intro start late
      simpa using Int.lt_of_lt_of_le early late
    simp [List.filter, none]

/-- Years of days that are close are small, or their magnitudes are equal or follow one another. -/
theorem Calendar.countedInEra_near (calendar : Calendar) {day other : Int}
    (near : (day - other).natAbs ≤ 6) :
    let year := (calendar.countedInEra day (Date.ofDay day).year (Date.ofDay day).year).natAbs
    let year' :=
      -- Close days lie in one year or in two that follow each other, and so do their counts in one
      -- era.
      (calendar.countedInEra other (Date.ofDay other).year (Date.ofDay other).year).natAbs
    year < 10000 ∧ year' < 10000 ∨ year ≤ year' + 1 ∧ year' ≤ year + 1 := by
  have years := Date.year_near near
  obtain ⟨system, weeks⟩ := calendar
  cases system with
  | gregorian =>
    -- The year 1 before Christ is followed by the year 1, and magnitudes turn around there.
    right
    simp only [countedInEra, eraYears]
    generalize (Date.ofDay day).year = year at *
    generalize (Date.ofDay other).year = year' at *
    by_cases positive : 0 < year <;> by_cases positive' : 0 < year' <;>
      simp only [positive, positive', if_true, if_false] <;> omega
  | imperial =>
    by_cases era : imperialEra day = imperialEra other
    · -- Within one era the years are counted from the same start.
      right
      simp only [countedInEra, eraYears, era]
      cases imperialStartYear? (imperialEra other) <;> simp only <;> omega
    · -- Eras differ between close days in modern times only, where all years are small.
      left
      have far := imperialEra_far day
      have far' := imperialEra_far other
      have close : -37300 ≤ day ∧ day ≤ 18100 := by
        omega
      have small := year_modern close.1 close.2
      -- Counted in any era, a modern year has four digits at most.
      have counted : ∀ moment year : Int, 1850 ≤ year → year ≤ 2030 →
          ((Calendar.mk .imperial weeks).countedInEra moment year year).natAbs < 10000 := by
        intro moment year lower upper
        simp only [countedInEra, eraYears]
        cases begun : imperialStartYear? (imperialEra moment) with
        | none =>
          simp only
          omega
        | some start =>
          have bounds := imperialStartYear?_bounds begun
          simp only
          omega
      exact ⟨counted _ _ (by omega) (by omega), counted _ _ (by omega) (by omega)⟩

end DatePattern
