import DatePattern.Proofs.Calendar.Dates
import DatePattern.Proofs.Calendar.Fields
import DatePattern.Proofs.Calendar.Era
import DatePattern.Proofs.Text.Sorted

/-!
The order of dates: within one era days come in the order of their years, months and days of the month.

Every era counts its years anew, and in the Gregorian calendar all years of the Lord are in one era.
-/

namespace DatePattern

/-- Dates compare like their days, with the year before the month, and the month before the day. -/
theorem Date.compare_ofDay (day other : Int) :
    (compare (ofDay day).year (ofDay other).year).then
        ((compare (ofDay day).month (ofDay other).month).then
          (compare (ofDay day).day (ofDay other).day)) = compare day other := by
  -- Each date is held between the first day of its month and the first day of the next one.
  have valid := valid_ofDay day
  have otherValid := valid_ofDay other
  have begins := valid.toDay_eq_monthStart
  have otherBegins := otherValid.toDay_eq_monthStart
  have ends := valid.toDay_lt
  have otherEnds := otherValid.toDay_lt
  rw [toDay_ofDay] at begins otherBegins ends otherEnds
  have first := valid.one_le
  have otherFirst := otherValid.one_le
  have month := month_ofDay day
  have otherMonth := month_ofDay other
  -- Years and months together are counted through all years.
  have months : (compare (ofDay day).year (ofDay other).year).then
      (compare (ofDay day).month (ofDay other).month) =
        compare (ofDay day).monthIndex (ofDay other).monthIndex := by
    rw [← compare_add_right (ofDay day).month (ofDay other).month (-1),
      compare_places (by omega : 0 ≤ (ofDay day).month + -1 ∧ (ofDay day).month + -1 < 12)
        (by omega : 0 ≤ (ofDay other).month + -1 ∧ (ofDay other).month + -1 < 12)]
    simp only [monthIndex, Int.mul_comm 12, Int.sub_eq_add_neg]
  -- What is left are the months, and the days within one month.
  rw [← Ordering.then_assoc, months]
  rcases Int.lt_trichotomy (ofDay day).monthIndex (ofDay other).monthIndex with
    earlier | same | later
  · -- A day of an earlier month lies before the later month begins.
    have ordered := monthStart_mono (show (ofDay day).monthIndex + 1 ≤ _ from earlier)
    have before : day < other := by omega
    rw [Int.compare_eq_lt.mpr earlier, Int.compare_eq_lt.mpr before, Ordering.lt_then]
  · -- Within one month days are counted from the same first day.
    rw [Int.compare_eq_eq.mpr same, Ordering.eq_then,
      ← compare_add_right (ofDay day).day _ (monthStart (ofDay day).monthIndex - 1)]
    have own : (ofDay day).day + (monthStart (ofDay day).monthIndex - 1) = day := by omega
    have others : (ofDay other).day + (monthStart (ofDay day).monthIndex - 1) = other := by
      rw [same]
      omega
    rw [own, others]
  · -- A later month is the first case the other way round.
    have ordered := monthStart_mono (show (ofDay other).monthIndex + 1 ≤ _ from later)
    have after : other < day := by omega
    rw [Int.compare_eq_gt.mpr later, Int.compare_eq_gt.mpr after, Ordering.gt_then]

/-- Of dates in order, the last one that has come by a day has come by it indeed. -/
theorem Date.toDay_le_of_counted {dates : List Date}
    (ordered : dates.Pairwise fun earlier later => earlier.toDay ≤ later.toDay) {day : Int}
    {place : Nat} (counted : (dates.filter fun date => date.toDay ≤ day).length = place + 1)
    {date : Date} (last : dates[place]? = some date) : date.toDay ≤ day := by
  -- The induction drops dates that have come, one for each place that is counted.
  induction ordered generalizing place with
  | nil => cases counted
  | @cons first dates follows _ ih =>
    by_cases come : first.toDay ≤ day
    -- This date has come, so it is counted: it is the last one, or the last one is among the rest.
    · rw [List.filter_cons_of_pos (by simpa using come), List.length_cons] at counted
      cases place with
      | zero =>
        cases last
        exact come
      | succ place => exact ih (Nat.succ.inj counted) last
    · -- If the first date is still to come, so are all of them.
      have none : ∀ later ∈ first :: dates, ¬later.toDay ≤ day := by
        intro later listed
        rcases List.mem_cons.mp listed with rfl | among
        · exact come
        · have order := follows later among
          omega
      rw [List.filter_eq_nil_iff.mpr (by simpa using none)] at counted
      cases counted

/-- An era does not begin after the year of any of its days. -/
theorem imperialStartYear?_le {day start : Int}
    (begun : imperialStartYear? (imperialEra day) = some start) : start ≤ (Date.ofDay day).year := by
  -- An era with a start is one of those that are listed, not the time before them.
  obtain ⟨place, counted⟩ : ∃ place, imperialEra day = place + 1 := by
    refine ⟨imperialEra day - 1, (Nat.sub_add_cancel (Nat.pos_of_ne_zero ?_)).symm⟩
    intro none
    rw [none] at begun
    cases begun
  rw [counted, imperialStartYear?] at begun
  obtain ⟨date, last, rfl⟩ := Option.map_eq_some_iff.mp begun
  have come := Date.toDay_le_of_counted (by decide) counted last
  -- Each era begins in the year of its date, which the day has come to.
  have starts : ∀ date ∈ imperialStarts, Date.newYear date.year ≤ date.toDay := by decide
  have begins := starts date (List.mem_of_getElem? last)
  have ends := Date.lt_newYear_year_succ day
  rw [Date.newYear_eq] at begins ends
  omega

/-- The years of the Lord before the first year of an era. -/
def CalendarSystem.yearsBefore : CalendarSystem → (era : Int) → Int
  | .gregorian, _ => 0
  | .imperial, era => ((imperialStartYear? era.toNat).map (· - 1)).getD 0

namespace CalendarFields

variable {instant other : Instant} {zone : Zone} {calendar : Calendar}

/-- The year of a year of the Lord is counted from the first year of the era, which does not come later. -/
theorem year_eq_sub (calendar : Calendar)
    (year : 1 ≤ (Date.ofDay (wallDay instant zone)).year) :
    (ofInstant instant zone calendar).year = (Date.ofDay (wallDay instant zone)).year -
        calendar.system.yearsBefore (ofInstant instant zone calendar).era ∧
      0 ≤ calendar.system.yearsBefore (ofInstant instant zone calendar).era ∧
      calendar.system.yearsBefore (ofInstant instant zone calendar).era ≤
        (Date.ofDay (wallDay instant zone)).year := by
  -- The Gregorian calendar takes nothing off, the imperial one takes off the years before the era.
  rw [year_ofInstant, era_ofInstant, Calendar.eraYears]
  cases calendar.system with
  | gregorian =>
    have positive : 0 < (Date.ofDay (wallDay instant zone)).year := year
    simp only [positive, if_true, CalendarSystem.yearsBefore]
    omega
  | imperial =>
    cases begun : imperialStartYear? (imperialEra (wallDay instant zone)) with
    | none =>
      -- Days before the first era count the years of the Lord.
      have noStart : imperialStartYear? (0 : Int).toNat = none := rfl
      simp only [CalendarSystem.yearsBefore, noStart, Option.map_none, Option.getD_none]
      omega
    | some start =>
      -- An era begins after the year 0 and no later than the day, so that neither side is negative.
      have bounds := imperialStartYear?_bounds begun
      have reached := imperialStartYear?_le begun
      simp only [CalendarSystem.yearsBefore, Int.toNat_natCast, begun, Option.map_some,
        Option.getD_some]
      omega

/-- Years of one era compare like the years of the Lord. -/
theorem compare_year (year : 1 ≤ (Date.ofDay (wallDay instant zone)).year)
    (otherYear : 1 ≤ (Date.ofDay (wallDay other zone)).year)
    (sameEra : (ofInstant instant zone calendar).era = (ofInstant other zone calendar).era) :
    compare (ofInstant instant zone calendar).year (ofInstant other zone calendar).year =
      compare (Date.ofDay (wallDay instant zone)).year (Date.ofDay (wallDay other zone)).year := by
  -- Both years are counted from the same one, which can be taken off on both sides.
  rw [(year_eq_sub calendar year).1, (year_eq_sub calendar otherYear).1, sameEra, Int.sub_eq_add_neg,
    Int.sub_eq_add_neg, compare_add_right]

/-- All years of the Lord are in one era of the Gregorian calendar. -/
theorem era_of_gregorian (christian : calendar.system = .gregorian)
    (year : 1 ≤ (Date.ofDay (wallDay instant zone)).year) :
    (ofInstant instant zone calendar).era = 1 := by
  -- The Gregorian calendar tells its two eras apart by the sign of the year alone.
  have positive : 0 < (Date.ofDay (wallDay instant zone)).year := year
  rw [era_ofInstant, Calendar.eraYears, christian]
  simp only [positive, if_true]

end CalendarFields

end DatePattern
