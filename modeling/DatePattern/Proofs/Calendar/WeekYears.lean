import DatePattern.Proofs.Calendar.Week
import Mathlib.Algebra.Ring.Int.Defs
import Mathlib.Order.Monotone.Basic

/-!
Week years: the weeks of all years part the days among them, and a week number and a weekday name one day.

The main statement is `weekOf_partition`. It ties the first week of a period to the days that the week has of it, and
the week of a day to the stretch of days between the first week of one year and that of the next.
-/

namespace DatePattern.WeekRules

variable {rules : WeekRules}

/-- How many days of the week that begins on a day lie in the period that begins on `start`. -/
def daysHeld (week start : Int) : Nat :=
  (List.range 7).countP fun later : Nat => start ≤ week + later

/-- A day that begins the first week of a period: the week has enough days of it, and the week before has not. -/
structure BeginsFirstWeek (rules : WeekRules) (start day : Int) : Prop where
  /-- Weeks begin on this day of the week. -/
  weekday : dayOfWeek day = rules.firstDay
  /-- The week has enough days of the period. -/
  enough : rules.minimalDays ≤ daysHeld day start
  /-- The week before has too few. -/
  tooFew : daysHeld (day - 7) start < rules.minimalDays

/-- The week of a day, and the year that this week belongs to. -/
def weekOf (rules : WeekRules) (day : Int) : Int × Int :=
  rules.weekOfYear (Date.ofDay day).year day

/-- A day lies in a week of a week year. -/
structure InWeek (rules : WeekRules) (day week weekYear : Int) : Prop where
  /-- Weeks are counted from one. -/
  one_le : 1 ≤ week
  /-- A week year has 53 weeks at most. -/
  le_last : week ≤ 53
  /-- The week year has begun. -/
  begun : rules.firstWeek (Date.newYear weekYear) ≤ day
  /-- The next week year has not begun. -/
  ends : day < rules.firstWeek (Date.newYear (weekYear + 1))
  /-- The week and the day of the week tell the day. -/
  named : day = rules.firstWeek (Date.newYear weekYear) + 7 * (week - 1) +
    (dayOfWeek day - rules.firstDay) % 7

/-- Of a week, the days from the beginning of the period on are counted. -/
theorem daysHeld_eq (week start : Int) :
    (daysHeld week start : Int) = max 0 (min 7 (week + 7 - start)) := by
  -- Each of the seven days lies in the period or before it.
  simp only [daysHeld, List.range, List.range.loop, List.countP_cons, List.countP_nil,
    decide_eq_true_eq, Nat.cast_add, Nat.cast_ite, Nat.cast_one, Nat.cast_zero]
  omega

/-- The first week of a period begins in a window of seven days around the beginning of the period. -/
theorem firstWeek_window (valid : rules.Valid) (start : Int) :
    start + rules.minimalDays - 7 ≤ rules.firstWeek start ∧
      rules.firstWeek start < start + rules.minimalDays := by
  -- The last week to begin in the first seven days is the first one, if the week before has too few days.
  obtain ⟨-, -, one_le, le_seven⟩ := valid
  have begun := onOrBefore_bounds start rules.firstDay
  simp only [firstWeek]
  split <;> omega

/-- The first week of a period is told by the days of it that weeks have. -/
theorem beginsFirstWeek_iff (valid : rules.Valid) {start day : Int} :
    rules.BeginsFirstWeek start day ↔ day = rules.firstWeek start := by
  have window := firstWeek_window valid start
  have weekday := firstWeek_weekday rules start
  have held := daysHeld_eq day start
  have heldBefore := daysHeld_eq (day - 7) start
  obtain ⟨sunday_le, le_saturday, one_le, le_seven⟩ := valid
  constructor
  · -- Both days lie in the same window of seven days, and on the same day of the week.
    rintro ⟨onWeekday, enough, tooFew⟩
    simp only [dayOfWeek] at onWeekday
    omega
  · -- The day that is computed has the weekday, and the window gives both counts of days.
    rintro rfl
    exact ⟨by simp only [dayOfWeek]; omega, by omega, by omega⟩

/-- A week year has 52 or 53 weeks. -/
theorem firstWeek_newYear_succ (valid : rules.Valid) (year : Int) :
    rules.firstWeek (Date.newYear (year + 1)) = rules.firstWeek (Date.newYear year) + 364 ∨
      rules.firstWeek (Date.newYear (year + 1)) = rules.firstWeek (Date.newYear year) + 371 := by
  -- Both first weeks lie in their windows and begin on the same weekday.
  have window := firstWeek_window valid (Date.newYear year)
  have nextWindow := firstWeek_window valid (Date.newYear (year + 1))
  have weekday := firstWeek_weekday rules (Date.newYear year)
  have nextWeekday := firstWeek_weekday rules (Date.newYear (year + 1))
  -- The windows are a year apart, and no other number of whole weeks leads from one to the other.
  have length := Date.newYear_succ year
  omega

/-- Later week years do not begin earlier. -/
theorem firstWeek_newYear_mono (valid : rules.Valid) {earlier later : Int}
    (ordered : earlier ≤ later) :
    rules.firstWeek (Date.newYear earlier) ≤ rules.firstWeek (Date.newYear later) := by
  -- One year after another, each has 52 weeks or more.
  apply monotone_int_of_le_succ (f := fun year => rules.firstWeek (Date.newYear year)) _ ordered
  intro year
  have length := firstWeek_newYear_succ valid year
  show rules.firstWeek (Date.newYear year) ≤ rules.firstWeek (Date.newYear (year + 1))
  omega

/-- A day lies in one week only. -/
theorem InWeek.unique (valid : rules.Valid) {day week weekYear week' weekYear' : Int}
    (first : rules.InWeek day week weekYear) (second : rules.InWeek day week' weekYear') :
    week = week' ∧ weekYear = weekYear' := by
  -- In a later week year the day would lie before the year has begun.
  have notBefore : ∀ {week weekYear week' weekYear' : Int}, rules.InWeek day week weekYear →
      rules.InWeek day week' weekYear' → ¬weekYear < weekYear' := by
    intro week weekYear week' weekYear' first second earlier
    have begins := firstWeek_newYear_mono valid (show weekYear + 1 ≤ weekYear' by omega)
    have ends := first.ends
    have begun := second.begun
    omega
  have sameYear : weekYear = weekYear' :=
    Int.le_antisymm (Int.not_lt.mp (notBefore second first))
      (Int.not_lt.mp (notBefore first second))
  subst sameYear
  -- In one week year the week is told by the days since its beginning.
  have named := first.named
  have named' := second.named
  exact ⟨by omega, rfl⟩

/-- A day a week later lies in the next week of the week year, or in the first week of the next one. -/
theorem InWeek.later (valid : rules.Valid) {day week weekYear : Int}
    (inWeek : rules.InWeek day week weekYear) :
    rules.InWeek (day + 7) (week + 1) weekYear ∨ rules.InWeek (day + 7) 1 (weekYear + 1) := by
  -- The weekday is the same a week later, and the next week year has begun by then or has not.
  obtain ⟨one_le, le_last, begun, ends, named⟩ := inWeek
  have length := firstWeek_newYear_succ valid weekYear
  have nextLength := firstWeek_newYear_succ valid (weekYear + 1)
  have weekday := firstWeek_weekday rules (Date.newYear weekYear)
  have sameWeekday : dayOfWeek (day + 7) = dayOfWeek day := by
    simp only [dayOfWeek]
    omega
  by_cases within : day + 7 < rules.firstWeek (Date.newYear (weekYear + 1))
  · -- The week year goes on.
    left
    exact ⟨by omega, by omega, by omega, within, by rw [sameWeekday]; omega⟩
  · -- The week year is over, and the next one is long enough to hold the day.
    right
    exact ⟨by decide, by decide, by omega, by omega, by rw [sameWeekday]; omega⟩

/-- The week that is computed for a day of a year is the one in which the day lies. -/
theorem inWeek_weekOfYear (valid : rules.Valid) {year day : Int}
    (begun : Date.newYear year ≤ day) (ends : day < Date.newYear (year + 1)) :
    rules.InWeek day (rules.weekOfYear year day).1 (rules.weekOfYear year day).2 := by
  -- That the day comes before the next week year has to be seen for each of the three cases.
  obtain ⟨named, -, -, one_le, -⟩ := firstWeek_add_weekOfYear valid begun ends
  have into := daysIntoWeek_bounds rules (dayOfWeek day)
  have before : day < rules.firstWeek (Date.newYear ((rules.weekOfYear year day).2 + 1)) := by
    have length := firstWeek_newYear_succ valid year
    have nextLength := firstWeek_newYear_succ valid (year + 1)
    have nextWindow := firstWeek_bounds valid (Date.newYear (year + 1))
    simp only [weekOfYear]
    split
    · -- The day lies before the first week of its year.
      rename_i early
      simp only [weekNumber] at early
      rw [Int.sub_add_cancel]
      omega
    split
    -- The day lies in the year whose end the next week 1 already holds, a year ahead of the one
    -- after it.
    · show day < rules.firstWeek (Date.newYear (year + 1 + 1))
      omega
    · -- Before week 52 the next week year is not near.
      rename_i usual
      simp only [weekNumber] at usual
      show day < rules.firstWeek (Date.newYear (year + 1))
      omega
  -- A week year has 53 weeks at most, which bounds the number of the week.
  have length := firstWeek_newYear_succ valid (rules.weekOfYear year day).2
  have split : day = rules.firstWeek (Date.newYear (rules.weekOfYear year day).2) +
      7 * ((rules.weekOfYear year day).1 - 1) + rules.daysIntoWeek (dayOfWeek day) := by omega
  exact ⟨one_le, by omega, by omega, before, split⟩

/-- The week that is computed for a day is the one in which the day lies. -/
theorem inWeek_weekOf (valid : rules.Valid) (day : Int) :
    rules.InWeek day (rules.weekOf day).1 (rules.weekOf day).2 :=
  -- A day lies in its own year.
  inWeek_weekOfYear valid (Date.newYear_year_le day) (Date.lt_newYear_year_succ day)

/--
The weeks of all week years part the days.

The first week of a period is the one week that has enough days of it while the week before has too few. Every day lies
in the week that is computed for it, in the week year of its own year or of a neighbouring one. The week, the week year
and the day of the week tell the day, and a week later the week is the next one or the first of the next week year.
-/
theorem weekOf_partition (valid : rules.Valid) :
    (∀ start day, rules.BeginsFirstWeek start day ↔ day = rules.firstWeek start) ∧
    (∀ day, rules.InWeek day (rules.weekOf day).1 (rules.weekOf day).2 ∧
      ((rules.weekOf day).2 = (Date.ofDay day).year - 1 ∨
        (rules.weekOf day).2 = (Date.ofDay day).year ∨
        (rules.weekOf day).2 = (Date.ofDay day).year + 1)) ∧
    (∀ day other, rules.weekOf day = rules.weekOf other → dayOfWeek day = dayOfWeek other →
      day = other) ∧
    ∀ day, rules.weekOf (day + 7) = ((rules.weekOf day).1 + 1, (rules.weekOf day).2) ∨
      rules.weekOf (day + 7) = (1, (rules.weekOf day).2 + 1) := by
  refine ⟨fun _ _ => beginsFirstWeek_iff valid, ?_, ?_, ?_⟩
  · intro day
    obtain ⟨-, lower, upper, -, -⟩ := firstWeek_add_weekOfYear valid (Date.newYear_year_le day)
      (Date.lt_newYear_year_succ day)
    refine ⟨inWeek_weekOf valid day, ?_⟩
    simp only [weekOf]
    omega
  · intro day other sameWeek sameWeekday
    -- Both weeks and weekdays are the same, and they tell the day.
    have named := (inWeek_weekOf valid day).named
    have otherNamed := (inWeek_weekOf valid other).named
    rw [sameWeek, sameWeekday, ← otherNamed] at named
    exact named
  · intro day
    -- The later day lies in one week only, and the next week is one in which it lies.
    have inWeek := inWeek_weekOf valid (day + 7)
    rcases (inWeek_weekOf valid day).later valid with later | first
    · left
      exact Prod.ext (inWeek.unique valid later).1 (inWeek.unique valid later).2
    · right
      exact Prod.ext (inWeek.unique valid first).1 (inWeek.unique valid first).2

/-- Weeks that begin on Monday and have four days of the year. -/
theorem weekOf_partition_monday :
    (⟨2, 4⟩ : WeekRules).Valid ∧
    (∀ start day, BeginsFirstWeek ⟨2, 4⟩ start day ↔ day = firstWeek ⟨2, 4⟩ start) ∧
    (∀ day, InWeek ⟨2, 4⟩ day (weekOf ⟨2, 4⟩ day).1 (weekOf ⟨2, 4⟩ day).2 ∧
      ((weekOf ⟨2, 4⟩ day).2 = (Date.ofDay day).year - 1 ∨
        (weekOf ⟨2, 4⟩ day).2 = (Date.ofDay day).year ∨
        (weekOf ⟨2, 4⟩ day).2 = (Date.ofDay day).year + 1)) ∧
    (∀ day other, weekOf ⟨2, 4⟩ day = weekOf ⟨2, 4⟩ other → dayOfWeek day = dayOfWeek other →
      day = other) ∧
    ∀ day, weekOf ⟨2, 4⟩ (day + 7) = ((weekOf ⟨2, 4⟩ day).1 + 1, (weekOf ⟨2, 4⟩ day).2) ∨
      weekOf ⟨2, 4⟩ (day + 7) = (1, (weekOf ⟨2, 4⟩ day).2 + 1) :=
  ⟨by decide, weekOf_partition (by decide)⟩

end DatePattern.WeekRules
