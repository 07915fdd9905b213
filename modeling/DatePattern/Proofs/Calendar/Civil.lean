import DatePattern.Calendar.Civil
import Mathlib.Tactic.Linarith

/-! Laws of civil dates: a day number is the day number of its date, and lies in the year of its date. -/

namespace DatePattern.Date

/-- The corrected division towards zero finds the cycle that a count lies in, before the first one as well. -/
theorem cyclesTo_eq (count : Int) {length : Int} (positive : 0 < length) :
    cyclesTo count length = count / length := by
  unfold cyclesTo
  -- The definition asks for the sign of the count, and only a negative one is corrected.
  split
  next later => exact Int.tdiv_eq_ediv_of_nonneg later
  next earlier =>
    -- Lowered by all but one of the cycle, a negative count has its floor where the division ends.
    have lowered : count - (length - 1) = -((length - 1) - count) := by omega
    rw [lowered, Int.neg_tdiv, Int.tdiv_eq_ediv_of_nonneg (by omega)]
    have split := Int.mul_ediv_add_emod (length - 1 - count) length
    have below := Int.emod_nonneg (length - 1 - count) (Int.ne_of_gt positive)
    have above := Int.emod_lt_of_pos (length - 1 - count) positive
    -- The floor is told by the two multiples that enclose the count.
    symm
    rw [Int.ediv_eq_iff_of_pos positive]
    constructor <;> nlinarith

/-- The number of a date, by divisions that round down. -/
theorem toDay_floor (date : Date) :
    date.toDay =
      let year := if date.month ≤ 2 then date.year - 1 else date.year
      let yearOfCycle := year % 400
      let dayOfYear := (153 * ((date.month + 9) % 12) + 2) / 5 + date.day - 1
      year / 400 * 146097 +
        (yearOfCycle * 365 + yearOfCycle / 4 - yearOfCycle / 100 + dayOfYear) - 719468 := by
  -- What is left of a count without its cycles is the remainder of the same division.
  have rest : ∀ year : Int, year - year / 400 * 400 = year % 400 := by omega
  simp only [toDay, cyclesTo_eq _ (show (0 : Int) < 400 by decide), rest]

/-- The date of a number, by divisions that round down. -/
theorem ofDay_floor (day : Int) :
    ofDay day =
      let cycle := (day + 719468) / 146097
      let dayOfCycle := (day + 719468) % 146097
      let yearOfCycle :=
        (dayOfCycle - dayOfCycle / 1460 + dayOfCycle / 36524 - dayOfCycle / 146096) / 365
      let dayOfYear := dayOfCycle - (365 * yearOfCycle + yearOfCycle / 4 - yearOfCycle / 100)
      let monthFromMarch := (5 * dayOfYear + 2) / 153
      let month := if monthFromMarch < 10 then monthFromMarch + 3 else monthFromMarch - 9
      ⟨yearOfCycle + cycle * 400 + if month ≤ 2 then 1 else 0, month,
        dayOfYear - (153 * monthFromMarch + 2) / 5 + 1⟩ := by
  -- Only the cycle is found by the corrected division, as in the other direction.
  have rest : ∀ shifted : Int, shifted - shifted / 146097 * 146097 = shifted % 146097 := by omega
  simp only [ofDay, cyclesTo_eq _ (show (0 : Int) < 146097 by decide), rest]

/--
A day of the cycle of 400 years, split into centuries, leap cycles, years and days.

The division that finds the year of the cycle takes out the leap days first, and lands on exactly this split.
-/
private theorem yearOfCycle_split (day : Int) (first : 0 ≤ day) (last : day < 146097) :
    ∃ century leap year rest : Int, 0 ≤ century ∧ century ≤ 3 ∧ 0 ≤ leap ∧ leap ≤ 24 ∧
      0 ≤ year ∧ year ≤ 3 ∧ 0 ≤ rest ∧ rest ≤ 365 ∧
      (rest = 365 → year = 3 ∧ (leap = 24 → century = 3)) ∧
      day = 36524 * century + 1461 * leap + 365 * year + rest ∧
      (day - day / 1460 + day / 36524 - day / 146096) / 365 = 100 * century + 4 * leap + year := by
  -- The very last day is the only one that a fifth century would begin on.
  by_cases final : day = 146096
  · exact ⟨3, 24, 3, 365, by omega⟩
  have noFifth : day / 146096 = 0 := by omega
  -- The century is a plain quotient, since the last day was left out.
  have inCentury : 0 ≤ day / 36524 ∧ day / 36524 ≤ 3 := by omega
  have split : day =
      36524 * (day / 36524) + 1461 * (day % 36524 / 1461) + day % 36524 % 1461 := by omega
  -- A leap cycle has three years of 365 days and one of 366, so a fifth quotient is its leap day.
  have yearIs : day % 36524 % 1461 / 365 = 0 ∨ day % 36524 % 1461 / 365 = 1 ∨
      day % 36524 % 1461 / 365 = 2 ∨ day % 36524 % 1461 / 365 = 3 ∨
      day % 36524 % 1461 / 365 = 4 := by omega
  have inLeap : 0 ≤ day % 36524 / 1461 ∧ day % 36524 / 1461 ≤ 24 ∧
      0 ≤ day % 36524 % 1461 ∧ day % 36524 % 1461 ≤ 1460 ∧
      (day % 36524 / 1461 = 24 → day % 36524 % 1461 ≤ 1459) := by omega
  -- From here on only the sizes of the parts matter.
  generalize day / 36524 = century at *
  generalize day % 36524 / 1461 = leap at *
  generalize day % 36524 % 1461 = rest at *
  -- Counting 1460 days for each leap cycle is one too many only close to the end of the cycle.
  have counted : day / 1460 = 25 * century + leap ∨
      (day / 1460 = 25 * century + leap + 1 ∧ 1096 ≤ rest) := by omega
  rw [noFifth]
  -- The fifth quotient belongs to the fourth year, as its last day.
  obtain year | year | year | year | year := yearIs
  · exact ⟨century, leap, 0, rest, by omega⟩
  · exact ⟨century, leap, 1, rest - 365, by omega⟩
  · exact ⟨century, leap, 2, rest - 730, by omega⟩
  · exact ⟨century, leap, 3, rest - 1095, by omega⟩
  · exact ⟨century, leap, 3, 365, by omega⟩

/-- The number of days up to a date, in years counted from March and days of such a year. -/
theorem toDay_eq (date : Date) :
    date.toDay =
      let year := if date.month ≤ 2 then date.year - 1 else date.year
      365 * year + year / 4 - year / 100 + year / 400 +
        ((153 * ((date.month + 9) % 12) + 2) / 5 + date.day - 1) - 719468 := by
  -- A cycle of 400 years has 97 leap days, whatever year it begins with.
  simp only [toDay_floor]
  generalize (if date.month ≤ 2 then date.year - 1 else date.year) = year
  generalize (153 * ((date.month + 9) % 12) + 2) / 5 = before
  omega

/-- Days of the same month lie as far apart as their numbers in the month. -/
theorem toDay_day (year month day : Int) :
    toDay ⟨year, month, day⟩ = toDay ⟨year, month, 1⟩ + (day - 1) := by
  -- The day of the month enters into the sum as it is.
  simp only [toDay_floor]
  omega

/-- The first day of a year, by the leap days of all years before it. -/
theorem newYear_eq (year : Int) :
    newYear year =
      365 * (year - 1) + (year - 1) / 4 - (year - 1) / 100 + (year - 1) / 400 - 719162 := by
  -- January is the eleventh month of the year that begins in March.
  have before : (if (1 : Int) ≤ 2 then year - 1 else year) = year - 1 := by simp
  simp only [newYear, toDay_eq]
  rw [before]
  omega

/-- A year has 365 or 366 days. -/
theorem newYear_succ (year : Int) :
    newYear (year + 1) = newYear year + 365 ∨ newYear (year + 1) = newYear year + 366 := by
  -- One more year adds 365 days and at most one leap day.
  rw [newYear_eq, newYear_eq]
  omega

/-- The leap days up to a year of a cycle can be read off the split of that year. -/
private theorem quotients_of_split (cycle : Int) {century leap year : Int} (c0 : 0 ≤ century)
    (c3 : century ≤ 3) (l0 : 0 ≤ leap) (l24 : leap ≤ 24) (y0 : 0 ≤ year) (y3 : year ≤ 3) :
    (400 * cycle + 100 * century + 4 * leap + year) / 4 = 100 * cycle + 25 * century + leap ∧
      (400 * cycle + 100 * century + 4 * leap + year) / 100 = 4 * cycle + century ∧
      (400 * cycle + 100 * century + 4 * leap + year) / 400 = cycle := by
  -- Each part is smaller than the next larger unit, so that it adds nothing to the quotient.
  omega

/-- The date of a day in terms of the year that began in March and the day of that year. -/
theorem ofDay_split (day : Int) :
    ∃ year rest : Int, 0 ≤ rest ∧ rest ≤ 365 ∧
      (rest = 365 → (year + 1) % 4 = 0 ∧ ((year + 1) % 100 = 0 → (year + 1) % 400 = 0)) ∧
      day + 719468 = 365 * year + year / 4 - year / 100 + year / 400 + rest ∧
      ofDay day =
        let month := (5 * rest + 2) / 153
        ⟨year + (if month < 10 then 0 else 1), if month < 10 then month + 3 else month - 9,
          rest - (153 * month + 2) / 5 + 1⟩ := by
  -- The cycle is taken out first, and what is left of it is split by the lemma above.
  obtain ⟨century, leap, year, rest, c0, c3, l0, l24, y0, y3, r0, r365, full, split, yearIs⟩ :=
    yearOfCycle_split ((day + 719468) % 146097) (by omega) (by omega)
  have whole : day + 719468 = 146097 * ((day + 719468) / 146097) + (day + 719468) % 146097 :=
    (Int.mul_ediv_add_emod _ _).symm
  -- The leap days are counted twice: up to the year as a whole, and within its cycle.
  obtain ⟨fours, hundreds, cycles⟩ :=
    quotients_of_split ((day + 719468) / 146097) c0 c3 l0 l24 y0 y3
  obtain ⟨foursIn, hundredsIn, -⟩ := quotients_of_split 0 c0 c3 l0 l24 y0 y3
  simp only [Int.mul_zero, Int.zero_add] at foursIn hundredsIn
  refine ⟨400 * ((day + 719468) / 146097) + 100 * century + 4 * leap + year, rest, r0, r365,
    ?_, ?_, ?_⟩
  · -- A year of 366 days is the last one of its leap cycle.
    intro last
    obtain ⟨rfl, closes⟩ := full last
    clear fours hundreds cycles foursIn hundredsIn whole split yearIs full
    omega
  · -- The leap days up to the year are those of its parts.
    rw [fours, hundreds, cycles]
    clear fours hundreds cycles foursIn hundredsIn yearIs full
    omega
  -- The day of the year is the rest of the split, which the leap days of the cycle leave.
  · have restIs : (day + 719468) % 146097 - (365 * (100 * century + 4 * leap + year) +
        (100 * century + 4 * leap + year) / 4 - (100 * century + 4 * leap + year) / 100) =
        rest := by
      rw [foursIn, hundredsIn, split]
      clear fours hundreds cycles foursIn hundredsIn yearIs full split whole
      omega
    simp only [ofDay_floor, yearIs, restIs]
    clear fours hundreds cycles foursIn hundredsIn yearIs full split whole restIs
    -- Months before the tenth from March on belong to the same civil year.
    by_cases early : (5 * rest + 2) / 153 < 10
    · simp only [early, if_true, Date.mk.injEq, and_true]
      rw [if_neg (by omega)]
      omega
    · simp only [early, if_false, Date.mk.injEq, and_true]
      rw [if_pos (by omega)]
      omega

/-- The month of a date runs from 1 to 12. -/
theorem month_ofDay (day : Int) : 1 ≤ (ofDay day).month ∧ (ofDay day).month ≤ 12 := by
  obtain ⟨year, rest, r0, r365, -, -, date⟩ := ofDay_split day
  rw [date]
  -- March to December are the first ten months of the year from March on.
  by_cases early : (5 * rest + 2) / 153 < 10
  · simp only [early, if_true]
    omega
  · simp only [early, if_false]
    omega

/-- The day of the month of a date runs from 1 to 31. -/
theorem day_ofDay (day : Int) : 1 ≤ (ofDay day).day ∧ (ofDay day).day ≤ 31 := by
  -- Months from March on have their days by the same linear rule, which leaves at most 31 of them.
  obtain ⟨year, rest, r0, r365, -, -, date⟩ := ofDay_split day
  simp only [date]
  omega

/-- A day number is the day number of its date. -/
theorem toDay_ofDay (day : Int) : (ofDay day).toDay = day := by
  obtain ⟨year, rest, r0, r365, -, counted, date⟩ := ofDay_split day
  -- Both directions are compared in years from March, where leap days come last.
  have monthBounds : 0 ≤ (5 * rest + 2) / 153 ∧ (5 * rest + 2) / 153 ≤ 11 := by omega
  rw [date, toDay_eq]
  generalize (5 * rest + 2) / 153 = month at *
  -- Ten months of a year from March on lie in one civil year, and two in the next.
  by_cases early : month < 10
  · -- The year is the one from March, and no correction is made.
    have back : (month + 3 + 9) % 12 = month := by omega
    have later : ¬month + 3 ≤ 2 := by omega
    simp only [early, later, if_true, if_false, back, Int.add_zero]
    omega
  · -- January and February belong to the civil year after it.
    have back : (month - 9 + 9) % 12 = month := by omega
    have later : month - 9 ≤ 2 := by omega
    simp only [early, later, if_true, if_false, back, Int.add_sub_cancel]
    omega

/-- A day does not lie before the first day of its year. -/
theorem newYear_year_le (day : Int) : newYear (ofDay day).year ≤ day := by
  -- The civil year has begun by January or before, wherever in the year from March the day lies.
  obtain ⟨year, rest, r0, r365, -, counted, date⟩ := ofDay_split day
  rw [date, newYear_eq]
  by_cases early : (5 * rest + 2) / 153 < 10
  · simp only [early, if_true, Int.add_zero]
    omega
  · simp only [early, if_false, Int.add_sub_cancel]
    omega

/-- A day lies before the first day of the next year. -/
theorem lt_newYear_year_succ (day : Int) : day < newYear ((ofDay day).year + 1) := by
  -- The next civil year begins after the end of the months that are left of this one.
  obtain ⟨year, rest, r0, r365, full, counted, date⟩ := ofDay_split day
  rw [date, newYear_eq]
  by_cases early : (5 * rest + 2) / 153 < 10
  · simp only [early, if_true, Int.add_zero, Int.add_sub_cancel]
    omega
  · simp only [early, if_false, Int.add_sub_cancel]
    omega

/-- The first day of the month of a day lies as many days back as its number in the month tells. -/
theorem monthStart_ofDay (day : Int) :
    toDay ⟨(ofDay day).year, (ofDay day).month, 1⟩ = day - ((ofDay day).day - 1) := by
  -- The day is itself so many days after the first one of its month.
  have whole := toDay_day (ofDay day).year (ofDay day).month (ofDay day).day
  rw [show toDay ⟨(ofDay day).year, (ofDay day).month, (ofDay day).day⟩ = day from
    toDay_ofDay day] at whole
  omega

/-- A year has no more magnitude than the days up to it. -/
theorem year_ofDay_small {day : Int} (small : day.natAbs ≤ 200000000000) :
    (ofDay day).year.natAbs ≤ 600000000 := by
  -- The day lies between the first days of two years, each of which is about 365 days a year away.
  have begun := newYear_year_le day
  have ends := lt_newYear_year_succ day
  rw [newYear_eq] at begun ends
  omega

end DatePattern.Date
