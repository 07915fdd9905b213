import DatePattern.Proofs.Calendar.Civil
import Mathlib.Order.Monotone.Basic

/-!
Valid dates: day numbers count the dates of the calendar one by one, with none left out and none counted twice.

The main statement is `ofDay_bijective`. It compares the arithmetic of `toDay` and `ofDay` with the calendar as people
keep it: months of known lengths, leap years by the rule of 4, 100 and 400, and the date that follows a date.
-/

namespace DatePattern.Date

/-- A year with a leap day: every fourth year, but of the centuries only every fourth one. -/
def IsLeap (year : Int) : Prop := year % 4 = 0 ∧ (year % 100 = 0 → year % 400 = 0)

instance (year : Int) : Decidable (IsLeap year) := inferInstanceAs (Decidable (_ ∧ _))

/-- The number of days of a month. -/
def monthLength (year month : Int) : Int :=
  if month = 2 then if IsLeap year then 29 else 28
  else if month = 4 ∨ month = 6 ∨ month = 9 ∨ month = 11 then 30
  else 31

/-- A date that the calendar has. -/
structure Valid (date : Date) : Prop where
  /-- Months begin with January. -/
  january_le : 1 ≤ date.month
  /-- Months end with December. -/
  le_december : date.month ≤ 12
  /-- Days of a month are counted from one. -/
  one_le : 1 ≤ date.day
  /-- The month has that many days. -/
  le_length : date.day ≤ monthLength date.year date.month

instance (date : Date) : Decidable date.Valid :=
  decidable_of_iff (1 ≤ date.month ∧ date.month ≤ 12 ∧ 1 ≤ date.day ∧
    date.day ≤ monthLength date.year date.month)
    ⟨fun ⟨a, b, c, d⟩ => ⟨a, b, c, d⟩, fun ⟨a, b, c, d⟩ => ⟨a, b, c, d⟩⟩

/-- The date that follows a date in the calendar. -/
def next (date : Date) : Date :=
  if date.day < monthLength date.year date.month then { date with day := date.day + 1 }
  else if date.month < 12 then ⟨date.year, date.month + 1, 1⟩
  else ⟨date.year + 1, 1, 1⟩

/-- The first day of a month, where months are numbered through all years from January of the year 0. -/
def monthStart (month : Int) : Int := toDay ⟨month / 12, month % 12 + 1, 1⟩

/-- The number of the month of a date, through all years. -/
def monthIndex (date : Date) : Int := 12 * date.year + (date.month - 1)

/-- A month is over after as many days as it has. -/
theorem monthStart_succ_eq (month : Int) :
    monthStart (month + 1) = monthStart month + monthLength (month / 12) (month % 12 + 1) := by
  -- The month is split into its year and its place there, since the next one may be in the next
  -- year.
  obtain ⟨year, rest, split, lower, upper⟩ : ∃ year rest : Int,
      month = 12 * year + rest ∧ 0 ≤ rest ∧ rest < 12 :=
    ⟨month / 12, month % 12, by omega, by omega, by omega⟩
  have thisYear : month / 12 = year := by omega
  have thisMonth : month % 12 = rest := by omega
  -- December alone is followed by a month of another year.
  have nextYear : (month + 1) / 12 = if rest = 11 then year + 1 else year := by omega
  have nextMonth : (month + 1) % 12 = if rest = 11 then 0 else rest + 1 := by omega
  simp only [monthStart, thisYear, thisMonth, nextYear, nextMonth, toDay_eq, monthLength, IsLeap]
  -- What is left depends on the year and on which of the twelve months it is.
  clear thisYear thisMonth nextYear nextMonth split
  -- Only the length of February depends on the year.
  obtain rfl | rfl | rfl | rfl | rfl | rfl | rfl | rfl | rfl | rfl | rfl | rfl :
      rest = 0 ∨ rest = 1 ∨ rest = 2 ∨ rest = 3 ∨ rest = 4 ∨ rest = 5 ∨ rest = 6 ∨ rest = 7 ∨
        rest = 8 ∨ rest = 9 ∨ rest = 10 ∨ rest = 11 := by omega
  all_goals simp
  all_goals omega

/-- A month has at least 28 days. -/
theorem le_monthLength (year month : Int) : 28 ≤ monthLength year month := by
  -- February without a leap day is the shortest month.
  simp only [monthLength]
  split
  · split <;> decide
  · split <;> decide

/-- Later months do not begin earlier. -/
theorem monthStart_mono {earlier later : Int} (ordered : earlier ≤ later) :
    monthStart earlier ≤ monthStart later := by
  -- One month after another, each has at least some days.
  apply monotone_int_of_le_succ _ ordered
  intro month
  have length := le_monthLength (month / 12) (month % 12 + 1)
  rw [monthStart_succ_eq]
  omega

/-- A later month begins 28 days later, or more. -/
theorem monthStart_add_le {earlier later : Int} (before : earlier < later) :
    monthStart earlier + 28 ≤ monthStart later := by
  -- The month after the earlier one is not past the later one.
  have begun := monthStart_mono (show earlier + 1 ≤ later from before)
  have length := le_monthLength (earlier / 12) (earlier % 12 + 1)
  rw [monthStart_succ_eq] at begun
  omega

/-- The month of a date is found again by its number. -/
theorem Valid.ofIndex {date : Date} (valid : date.Valid) :
    date.monthIndex / 12 = date.year ∧ date.monthIndex % 12 + 1 = date.month := by
  -- The month is less than a year past January.
  have first := valid.january_le
  have last := valid.le_december
  simp only [monthIndex]
  omega

/-- The number of a day, from the first day of its month. -/
theorem Valid.toDay_eq_monthStart {date : Date} (valid : date.Valid) :
    date.toDay = monthStart date.monthIndex + (date.day - 1) := by
  -- The number of the month leads back to the month, and its days are counted on from its first.
  obtain ⟨year, month⟩ := valid.ofIndex
  rw [monthStart, year, month]
  exact toDay_day date.year date.month date.day

/-- A day lies before the month after its own begins. -/
theorem Valid.toDay_lt {date : Date} (valid : date.Valid) :
    date.toDay < monthStart (date.monthIndex + 1) := by
  -- The day is one of as many as the month has.
  obtain ⟨year, month⟩ := valid.ofIndex
  have length := valid.le_length
  rw [valid.toDay_eq_monthStart, monthStart_succ_eq, year, month]
  omega

/-- No two dates have the same number. -/
theorem Valid.eq_of_toDay {date other : Date} (valid : date.Valid) (otherValid : other.Valid)
    (same : date.toDay = other.toDay) : date = other := by
  -- A date of an earlier month would lie before the month of the other one begins.
  have notBefore : ∀ {first second : Date}, first.Valid → second.Valid →
      first.toDay = second.toDay → ¬first.monthIndex < second.monthIndex := by
    intro first second firstValid secondValid equal earlier
    have ended := firstValid.toDay_lt
    have begun := monthStart_mono (show first.monthIndex + 1 ≤ second.monthIndex by omega)
    have counted := secondValid.toDay_eq_monthStart
    have day := secondValid.one_le
    omega
  -- Neither month comes before the other.
  have sameMonth : date.monthIndex = other.monthIndex :=
    Int.le_antisymm (Int.not_lt.mp (notBefore otherValid valid same.symm))
      (Int.not_lt.mp (notBefore valid otherValid same))
  -- In one month the days are as far apart as their numbers.
  have counted := valid.toDay_eq_monthStart
  have otherCounted := otherValid.toDay_eq_monthStart
  rw [sameMonth] at counted
  have index := valid.ofIndex
  have otherIndex := otherValid.ofIndex
  rw [sameMonth] at index
  obtain ⟨year, month, day⟩ := date
  obtain ⟨year', month', day'⟩ := other
  simp only at index otherIndex counted otherCounted
  simp only [Date.mk.injEq]
  omega

/-- The date that follows a valid date is valid. -/
theorem Valid.next {date : Date} (valid : date.Valid) : date.next.Valid := by
  -- The day is counted on in its month, or else the month in its year, or else the year.
  obtain ⟨first, last, one, length⟩ := valid
  simp only [Date.next]
  -- The month is not over yet, or it is and the next one has at least its first day.
  split
  · exact ⟨first, last, by simp only; omega, by simp only; omega⟩
  · have nextLength := le_monthLength date.year (date.month + 1)
    have newYear := le_monthLength (date.year + 1) 1
    split
    · exact ⟨by simp only; omega, by simp only; omega, Int.le_refl 1, by simp only; omega⟩
    · exact ⟨Int.le_refl 1, by simp only; omega, Int.le_refl 1, by simp only; omega⟩

/-- The date that follows a valid date has the next number. -/
theorem Valid.toDay_next {date : Date} (valid : date.Valid) : date.next.toDay = date.toDay + 1 := by
  -- Both numbers are counted from the first days of their months.
  have counted := valid.toDay_eq_monthStart
  have nextCounted := valid.next.toDay_eq_monthStart
  by_cases within : date.day < monthLength date.year date.month
  · -- Within a month the days are counted on.
    have next : date.next = { date with day := date.day + 1 } := by rw [Date.next, if_pos within]
    have sameMonth : date.next.monthIndex = date.monthIndex := by rw [next]; rfl
    have nextDay : date.next.day = date.day + 1 := by rw [next]
    rw [sameMonth, nextDay] at nextCounted
    omega
  · -- After the last day the next month begins, be it of this year or of the next one.
    have length := valid.le_length
    have last := valid.le_december
    have nextMonth : date.next.monthIndex = date.monthIndex + 1 ∧ date.next.day = 1 := by
      simp only [Date.next, within, if_false, monthIndex]
      split
      · exact ⟨by simp only; omega, rfl⟩
      · exact ⟨by simp only; omega, rfl⟩
    obtain ⟨year, month⟩ := valid.ofIndex
    rw [nextMonth.1, nextMonth.2, monthStart_succ_eq, year, month] at nextCounted
    omega

/-- The date of a day number is one that the calendar has. -/
theorem valid_ofDay (day : Int) : (ofDay day).Valid := by
  -- Only the length of the month is left to show, which depends on the year from March.
  have months := month_ofDay day
  have days := day_ofDay day
  refine ⟨months.1, months.2, days.1, ?_⟩
  obtain ⟨year, rest, r0, r365, full, -, date⟩ := ofDay_split day
  simp only [date, monthLength, IsLeap]
  clear months days date
  -- The day of the year that began in March tells the month, and February comes last.
  obtain month | month | month | month | month | month | month | month | month | month | month |
      month : (5 * rest + 2) / 153 = 0 ∨ (5 * rest + 2) / 153 = 1 ∨ (5 * rest + 2) / 153 = 2 ∨
        (5 * rest + 2) / 153 = 3 ∨ (5 * rest + 2) / 153 = 4 ∨ (5 * rest + 2) / 153 = 5 ∨
        (5 * rest + 2) / 153 = 6 ∨ (5 * rest + 2) / 153 = 7 ∨ (5 * rest + 2) / 153 = 8 ∨
        (5 * rest + 2) / 153 = 9 ∨ (5 * rest + 2) / 153 = 10 ∨ (5 * rest + 2) / 153 = 11 := by
    omega
  all_goals simp [month]
  all_goals omega

/-- Days of different months that have the same number in their months are 28 days apart or more. -/
theorem day_ofDay_inj {day other : Int} (near : (day - other).natAbs < 28)
    (same : (ofDay day).day = (ofDay other).day) : day = other := by
  -- Both days lie equally far into their months, so that they are as far apart as the months.
  have counted := (valid_ofDay day).toDay_eq_monthStart
  have otherCounted := (valid_ofDay other).toDay_eq_monthStart
  rw [toDay_ofDay] at counted otherCounted
  -- Different months would begin 28 days apart.
  rcases Int.lt_trichotomy (ofDay day).monthIndex (ofDay other).monthIndex with
    before | equal | after
  · have gap := monthStart_add_le before
    omega
  · rw [equal] at counted
    omega
  · have gap := monthStart_add_le after
    omega

/--
Day numbers and dates are in bijection, in the order of the calendar.

Every day number has a valid date, is the number of that date, and is followed by the number of the date that follows.
Every valid date, of whatever year, is the date of its number.
-/
theorem ofDay_bijective (day : Int) (date : Date) (valid : date.Valid) :
    (ofDay day).Valid ∧ (ofDay day).toDay = day ∧ ofDay (day + 1) = (ofDay day).next ∧
      ofDay date.toDay = date := by
  -- A valid date is told by its number, so it suffices to compare numbers.
  have unique : ∀ {other : Date}, other.Valid → ofDay other.toDay = other := fun otherValid =>
    (valid_ofDay _).eq_of_toDay otherValid (toDay_ofDay _)
  -- The date that follows is valid, and is therefore the date of its number.
  have follows := unique (valid_ofDay day).next
  rw [(valid_ofDay day).toDay_next, toDay_ofDay] at follows
  exact ⟨valid_ofDay day, toDay_ofDay day, follows, unique valid⟩

/-- The last day of the year 0, and the leap day of that year. -/
theorem ofDay_bijective_yearZero :
    (⟨0, 2, 29⟩ : Date).Valid ∧ (ofDay (-719163)).Valid ∧ (ofDay (-719163)).toDay = -719163 ∧
      ofDay (-719163 + 1) = (ofDay (-719163)).next ∧ ofDay (toDay ⟨0, 2, 29⟩) = ⟨0, 2, 29⟩ :=
  -- By the rule of 400 the year 0 has a leap day, and its last day comes before the first year.
  ⟨by decide, ofDay_bijective (-719163) ⟨0, 2, 29⟩ (by decide)⟩

end DatePattern.Date
