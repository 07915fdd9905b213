import DatePattern.Proofs.Calendar.Resolve
import DatePattern.Proofs.Reckoning
import DatePattern.Proofs.Zone.Settled

/-!
Lenient resolution: collected fields resolve to exactly the instant that they denote in whole numbers of any size, or
to nothing.

Each rule is written out as a reckoning, whose exact result is what the fields denote. Resolution works the same
reckonings out with a check at every step, and its few steps without a check never need one. The main statement is
`resolve?_eq_exact`.
-/

namespace DatePattern

/-- The ways to give a date, in the order in which they count. -/
def DateChoice.all : List DateChoice :=
  [.dayOfMonth, .dayOfYear, .weekOfYear, .weekOfMonth, .dayOfWeekInMonth]

/-- The field by which a date is given in some way. -/
def DateChoice.mainField : DateChoice → Field
  | .dayOfMonth => .dayOfMonth
  | .dayOfYear => .dayOfYear
  | .weekOfYear => .weekOfYear
  | .weekOfMonth => .weekOfMonth
  | .dayOfWeekInMonth => .dayOfWeekInMonth

/-- A value that a text can give to a field: not far below zero, and less than a second of nanoseconds. -/
def Field.CanRead (field : Field) (value : Int) : Prop :=
  -Collected.greatestYear ≤ value ∧ value ≤ Count.greatest ∧
    (field = .nanoOfSecond → 0 ≤ value ∧ value < 1000000000)

instance (field : Field) (value : Int) : Decidable (field.CanRead value) :=
  inferInstanceAs (Decidable (_ ∧ _ ∧ (_ → _)))

/-- A finding that a text can hold. -/
def Finding.CanRead : Finding → Prop
  | .value field number => field.CanRead number
  | .zone _ => True

instance : (finding : Finding) → Decidable finding.CanRead
  | .value field number => inferInstanceAs (Decidable (field.CanRead number))
  | .zone _ => inferInstanceAs (Decidable True)

namespace Collected

/-- Fields of which each known value is one that a text can give. -/
def Readable (collected : Collected) : Prop :=
  ∀ field value, collected.value? field = some value → field.CanRead value

/-- Nothing known is nothing that a text cannot give. -/
theorem readable_empty : empty.Readable := nofun

/-- Findings that texts can hold are taken in one after the other. -/
theorem Readable.addAll {collected : Collected} (readable : collected.Readable)
    {findings : List Finding} (found : ∀ finding ∈ findings, finding.CanRead) :
    (collected.addAll findings).Readable := by
  induction findings generalizing collected with
  | nil => exact readable
  | cons finding later ih =>
    -- What is taken in first is kept until something takes its place.
    refine ih ?_ fun other listed => found other (List.mem_cons_of_mem _ listed)
    cases finding with
    | zone zone => exact readable
    | value own taken =>
      intro field value known
      by_cases same : field = own
      · -- The value that is taken in is in place of an earlier one.
        subst same
        obtain rfl := Option.some.inj ((value?_set_self _ _ _).symm.trans known)
        exact found _ List.mem_cons_self
      · exact readable field value ((value?_set_of_ne _ _ same).symm.trans known)

/-- The first way to give the date whose main field is known, with the value of that field. -/
def dateGiven? (collected : Collected) : Option (DateChoice × Int) :=
  DateChoice.all.findSome? fun choice => (collected.value? choice.mainField).map (choice, ·)

/-- The year of the era. The week year goes with the week of the year, and the year with any other date. -/
def yearGiven (collected : Collected) : Int :=
  let year := collected.value? .year
  let weekYear := collected.value? .weekYear
  (if collected.dateGiven?.map (·.1) = some .weekOfYear then weekYear.or year
    else year.or weekYear).getD 1970

/-- The Gregorian year. -/
def yearReckoning (collected : Collected) (system : CalendarSystem) : Reckoning :=
  match system with
  | .gregorian =>
    -- The first year before Christ is the year 0.
    if collected.value? .era = some 0 then 1 - (collected.yearGiven : Reckoning)
    else collected.yearGiven
  | .imperial =>
    match imperialStartYear? (collected.valueD .era imperialStarts.length).toNat with
    | none => collected.yearGiven
    | some start => (start : Reckoning) + (collected.yearGiven - 1 : Int)

/-- The Gregorian year that the month lies in, which counts from zero and may lie in another year. -/
def monthYearReckoning (collected : Collected) (system : CalendarSystem) : Reckoning :=
  collected.yearReckoning system + (collected.valueD .month 0 / 12 : Int)

/-- The day, for the Gregorian year and the first day of the month. -/
def dayReckoning (collected : Collected) (weeks : WeekRules) (year monthStart : Int) : Reckoning :=
  let weekday := collected.value? .dayOfWeek
  -- A week without a weekday stands for its first day.
  let intoWeek := weeks.daysIntoWeek (weekday.getD weeks.firstDay)
  match collected.dateGiven? with
  | some (.dayOfMonth, count) => (monthStart : Reckoning) + (count - 1)
  | some (.dayOfYear, count) => (Date.newYear year : Reckoning) + (count - 1)
  | some (.weekOfYear, week) =>
    (weeks.firstWeek (Date.newYear year) : Reckoning) + (week - 1) * 7 + intoWeek
  | some (.weekOfMonth, week) => (weeks.firstWeek monthStart : Reckoning) + (week - 1) * 7 + intoWeek
  | some (.dayOfWeekInMonth, count) =>
    let first := monthStart + (weekday.getD (dayOfWeek monthStart) - dayOfWeek monthStart) % 7
    (first : Reckoning) + (count - 1) * 7
  | none => monthStart

/-- The hour of the day, which counts before the hour of the half day. -/
def hourReckoning (collected : Collected) : Reckoning :=
  match collected.value? .hourOfDay with
  | some hour => hour
  | none => (collected.valueD .hour 0 : Reckoning) + (collected.valueD .amPm 0 : Reckoning) * 12

/-- The milliseconds since midnight. -/
def timeReckoning (collected : Collected) : Reckoning :=
  collected.hourReckoning * 3600000 + (collected.valueD .minute 0 : Reckoning) * 60000 +
    (collected.valueD .second 0 : Reckoning) * 1000 + collected.valueD .millisecond 0

/-- The offset that was read, with what daylight saving adds to it. -/
def offsetReckoning? (collected : Collected) : Option Reckoning :=
  (collected.value? .zoneOffset).map fun standard =>
    (standard : Reckoning) + collected.valueD .dstOffset 0

section

variable (collected : Collected) (zone : Zone) (calendar : Calendar)

/-- The first day of the month. -/
def monthStart : Int :=
  Date.toDay ⟨(collected.monthYearReckoning calendar.system).exact,
    collected.valueD .month 0 % 12 + 1, 1⟩

/-- What the wall clock shows, in milliseconds since the first day of 1970. -/
def wallReckoning : Reckoning :=
  collected.dayReckoning calendar.weeks (collected.yearReckoning calendar.system).exact
    (collected.monthStart calendar) * 86400000 + collected.timeReckoning

/-- Fields that resolve: their years are not too far away, and no step with a check leaves the range. -/
structure Resolvable : Prop where
  /-- The year that the month lies in can be reckoned, and so can the year. -/
  yearsFit : (collected.monthYearReckoning calendar.system).Fits
  /-- The year is not too far away. -/
  yearNear : (collected.yearReckoning calendar.system).exact.natAbs ≤ greatestYear
  /-- The year that the month lies in is not too far away. -/
  monthYearNear : (collected.monthYearReckoning calendar.system).exact.natAbs ≤ greatestYear
  /-- The reading of the wall clock can be reckoned. -/
  wallFits : (collected.wallReckoning calendar).Fits
  /-- An offset that was read can be taken off. -/
  momentFits : ∀ offset ∈ collected.offsetReckoning?, (collected.wallReckoning calendar - offset).Fits

/-- What it takes for fields to resolve: the years first, then the wall clock, and then the moment. -/
theorem resolvable_iff : collected.Resolvable calendar ↔
    ((collected.monthYearReckoning calendar.system).Fits ∧
      (collected.yearReckoning calendar.system).exact.natAbs ≤ greatestYear ∧
      (collected.monthYearReckoning calendar.system).exact.natAbs ≤ greatestYear) ∧
    (collected.wallReckoning calendar).Fits ∧
    ∀ offset ∈ collected.offsetReckoning?, (collected.wallReckoning calendar - offset).Fits :=
  -- The same conditions, put together by what they are about.
  ⟨fun ⟨a, b, c, d, e⟩ => ⟨⟨a, b, c⟩, d, e⟩, fun ⟨⟨a, b, c⟩, d, e⟩ => ⟨a, b, c, d, e⟩⟩

instance : Decidable (collected.Resolvable calendar) :=
  decidable_of_iff' _ (collected.resolvable_iff calendar)

/-- The moment, by the offset that was read, or else by the zone that was read, or else by the zone that is given. -/
def exactMillis? : Option Int :=
  match collected.offsetReckoning? with
  | some offset => some ((collected.wallReckoning calendar).exact - offset.exact)
  | none => (collected.zone?.getD zone).ofWall? (collected.wallReckoning calendar).exact

/-- The results of the steps without a check from a year to a day on which it or its month starts, and to its weeks. -/
def daySteps (weeks : WeekRules) (year start : Int) : List Int :=
  let begun := WeekRules.onOrBefore (start + 6) weeks.firstDay
  [year - 400, year / 400 * 146097, start + 719468, start, start + 10, begun, begun - start,
    weeks.firstWeek start]

/-- The results of all steps without a check, once both years are known. -/
def uncheckedSteps : List Int :=
  let year := (collected.yearReckoning calendar.system).exact
  let monthYear := (collected.monthYearReckoning calendar.system).exact
  let start := collected.monthStart calendar
  let weekday := collected.value? .dayOfWeek
  let past := weekday.getD (dayOfWeek start) - dayOfWeek start
  daySteps calendar.weeks year (Date.newYear year) ++ daySteps calendar.weeks monthYear start ++
    [weekday.getD calendar.weeks.firstDay - calendar.weeks.firstDay, past, start + past % 7]

end

section

variable {collected : Collected} {zone : Zone} {calendar : Calendar}

/-- The year that counts is the one that goes with the way the date is given. -/
theorem yearOfEra_eq (collected : Collected) : collected.yearOfEra = collected.yearGiven := by
  -- One side asks whether the fields are a week date, and the other which way to give the date
  -- comes first.
  have chosen : (collected.isWeekDate = true) =
      (collected.dateGiven?.map (·.1) = some .weekOfYear) := by
    simp only [isWeekDate, dateGiven?, DateChoice.all, DateChoice.mainField,
      List.findSome?_cons, List.findSome?_nil]
    -- The week of the year counts only where the days of month and year are unknown.
    rcases collected.value? .dayOfMonth with _ | day
    · rcases collected.value? .dayOfYear with _ | day
      · rcases collected.value? .weekOfYear with _ | week
        · rcases collected.value? .weekOfMonth with _ | week
          · rcases collected.value? .dayOfWeekInMonth with _ | count <;> simp
          · simp
        · simp
      · simp
    · simp
  simp only [yearOfEra, yearGiven, chosen]

/-- The Gregorian year is reckoned with a check. -/
theorem gregorianYear?_eq_checked (collected : Collected) (system : CalendarSystem) :
    collected.gregorianYear? system = (collected.yearReckoning system).checked? := by
  -- A year that is taken as it is has no step, and any other one has a single step.
  cases system with
  | gregorian =>
    simp only [gregorianYear?, yearReckoning, yearOfEra_eq]
    split <;> rfl
  | imperial =>
    simp only [gregorianYear?, yearReckoning, yearOfEra_eq]
    cases imperialStartYear? (collected.valueD .era imperialStarts.length).toNat <;> rfl

/-- Weeks after a day are reckoned with checks. -/
theorem weeksAfter?_eq_checked (start week days : Int) :
    weeksAfter? start week days =
      ((start : Reckoning) + ((week : Reckoning) - 1) * 7 + days).checked? := by
  -- Both take the same steps in the same order, but nest them differently.
  simp [weeksAfter?, Option.bind_assoc]

/-- Whole weeks after a day are reckoned with checks. -/
theorem weeksAfter?_zero (start week : Int) :
    weeksAfter? start week 0 = ((start : Reckoning) + ((week : Reckoning) - 1) * 7).checked? := by
  -- Adding nothing leaves what has just been checked.
  have again : ∀ n, (Count.within? n).bind Count.within? = Count.within? n := by
    intro n
    by_cases fits : Count.Fits n <;> simp [Count.within?, fits]
  simp [weeksAfter?, Option.bind_assoc, again]

/-- Days after a day are reckoned with checks. -/
theorem daysAfter?_eq_checked (start count : Int) :
    daysAfter? start count = ((start : Reckoning) + ((count : Reckoning) - 1)).checked? := by
  -- There are only two steps, a difference and a sum.
  simp [daysAfter?]

/-- The day is reckoned with checks. -/
theorem day?_eq_checked (collected : Collected) (weeks : WeekRules) (year monthStart : Int) :
    collected.day? weeks year monthStart =
      (collected.dayReckoning weeks year monthStart).checked? := by
  simp only [day?, dayReckoning, dateGiven?, DateChoice.all, DateChoice.mainField,
    List.findSome?_cons, List.findSome?_nil, daysAfter?_eq_checked]
  -- Each way to give the date has its own reckoning, and the first that is known counts.
  rcases collected.value? .dayOfMonth with _ | day
  · rcases collected.value? .dayOfYear with _ | day
    · rcases collected.value? .weekOfYear with _ | week
      · rcases collected.value? .weekOfMonth with _ | week
        · rcases collected.value? .dayOfWeekInMonth with _ | count
          · rfl
          · exact weeksAfter?_zero _ _
        · exact weeksAfter?_eq_checked _ _ _
      · exact weeksAfter?_eq_checked _ _ _
    · rfl
  · rfl

/-- The time of day is reckoned with checks. -/
theorem time?_eq_checked (collected : Collected) :
    collected.time? = collected.timeReckoning.checked? := by
  -- The hour of a half day is reckoned on its own, and the smaller parts are added one by one.
  have hour : collected.hourOfDay? = collected.hourReckoning.checked? := by
    simp only [hourOfDay?, hourReckoning]
    cases collected.value? .hourOfDay <;> rfl
  simp [time?, timeReckoning, hour, Option.bind_assoc]

/-- Day and time of day are put together with checks. -/
theorem wall?_bind {Result : Type} (day time : Reckoning) (next : Int → Option Result) :
    (do
      let days ← day.checked?
      let millis ← time.checked?
      let midnight ← Count.within? (days * 86400000)
      let wall ← Count.within? (midnight + millis)
      next wall) =
      if (day * 86400000 + time).Fits then next (day * 86400000 + time).exact else none := by
  -- Nothing depends on whether the midnight or the time of day is reckoned first.
  have either : (do
      let days ← day.checked?
      let millis ← time.checked?
      let midnight ← Count.within? (days * 86400000)
      let wall ← Count.within? (midnight + millis)
      next wall) = (day * 86400000 + time).checked?.bind next := by
    simp only [Reckoning.checked?_add, Reckoning.checked?_mul, Reckoning.checked?_ofNat,
      Option.bind_assoc, Option.bind_some, Option.bind_eq_bind]
    cases day.checked? with
    | none => rfl
    | some days =>
      cases time.checked? with
      | none => simp
      | some millis => rfl
  -- What is checked is there just if every step fits.
  rw [either, Reckoning.checked?_eq]
  split <;> rfl

/-- The moment is reckoned with checks where an offset was read, and is up to the zone otherwise. -/
theorem moment?_eq_checked (collected : Collected) (zone : Zone) (wall : Int) :
    collected.moment? zone wall =
      match collected.offsetReckoning? with
      | some offset => ((wall : Reckoning) - offset).checked?
      | none => (collected.zone?.getD zone).ofWall? wall := by
  -- An offset that was read is summed up before it is taken off.
  simp only [moment?, offsetReckoning?]
  cases collected.value? .zoneOffset <;> rfl

/-- Both years are reckoned with checks, and neither of them may be too far away. -/
theorem years?_bind {Result : Type} (collected : Collected) (system : CalendarSystem)
    (next : Int → Int → Option Result) :
    (do
      let year ← collected.gregorianYear? system
      let monthYear ← Count.within? (year + collected.valueD .month 0 / 12)
      guard (year.natAbs ≤ greatestYear ∧ monthYear.natAbs ≤ greatestYear)
      next year monthYear) =
      if (collected.monthYearReckoning system).Fits ∧
          (collected.yearReckoning system).exact.natAbs ≤ greatestYear ∧
          (collected.monthYearReckoning system).exact.natAbs ≤ greatestYear then
        next (collected.yearReckoning system).exact (collected.monthYearReckoning system).exact
      else none := by
  simp only [gregorianYear?_eq_checked, Reckoning.checked?_eq, monthYearReckoning,
    Reckoning.fits_add, Reckoning.fits_given, Reckoning.exact_add, Reckoning.exact_given, true_and,
    Option.bind_eq_bind]
  -- The year of the month is reckoned from the year, so that neither is there without the other.
  by_cases yearFits : (collected.yearReckoning system).Fits
  -- The months past December are carried to a year that has to fit by itself.
  · by_cases monthFits :
        Count.Fits ((collected.yearReckoning system).exact + collected.valueD .month 0 / 12)
    · simp only [yearFits, monthFits, if_true, Option.bind_some, Count.within?_of_fits, true_and,
        guard]
      split <;> rfl
    · simp [yearFits, monthFits, Count.within?]
  · simp [yearFits]

/-- From a reading of the wall clock the instant is found exactly, or nothing where an offset leaves the range. -/
theorem moment?_bind (formed : (collected.zone?.getD zone).WellFormed)
    (nanos : 0 ≤ collected.valueD .nanoOfSecond 0 ∧ collected.valueD .nanoOfSecond 0 < 1000000000)
    (wallFits : (collected.wallReckoning calendar).Fits) :
    (do
      let millis ← collected.moment? zone (collected.wallReckoning calendar).exact
      (Instant.ofMillis millis).addNanos? collected.nanos) =
      if ∀ offset ∈ collected.offsetReckoning?, (collected.wallReckoning calendar - offset).Fits then
        (collected.exactMillis? zone calendar).map fun millis =>
          .ofNanos (millis * 1000000 + collected.valueD .nanoOfSecond 0)
      else none := by
  -- Nanoseconds of less than a second have 32 bits.
  have low : collected.nanos = collected.valueD .nanoOfSecond 0 := by
    rw [Collected.nanos]
    omega
  -- The offset that was read is subtracted with a check, and the nanoseconds always fit.
  rw [moment?_eq_checked, low, exactMillis?]
  cases collected.offsetReckoning? with
  | some offset =>
    simp only [Option.mem_some_iff, forall_eq', Reckoning.checked?_eq, Reckoning.fits_sub,
      Reckoning.fits_given, Reckoning.exact_sub, Reckoning.exact_given, wallFits, true_and,
      Option.map_some, Option.bind_eq_bind]
    split
    case isTrue fits => exact Instant.addNanos?_eq_ofNanos fits.2 nanos
    case isFalse => rfl
  | none =>
    -- Without an offset only the zone can have no moment.
    simp only [reduceCtorEq, Option.mem_def, false_imp_iff, implies_true, if_true,
      Option.bind_eq_bind]
    cases found : (collected.zone?.getD zone).ofWall? (collected.wallReckoning calendar).exact with
    | none => rfl
    | some millis =>
      -- A zone finds only moments that fit, so that the sum is there.
      exact Instant.addNanos?_eq_ofNanos (Zone.fits_ofWall? formed wallFits.2.2 found) nanos

/-- Fields of which the nanoseconds are less than a second resolve to what they denote exactly, or to nothing. -/
theorem resolve?_eq_checked (formed : (collected.zone?.getD zone).WellFormed)
    (nanos : 0 ≤ collected.valueD .nanoOfSecond 0 ∧ collected.valueD .nanoOfSecond 0 < 1000000000) :
    collected.resolve? zone calendar =
      if collected.Resolvable calendar then
        (collected.exactMillis? zone calendar).map fun millis =>
          .ofNanos (millis * 1000000 + collected.valueD .nanoOfSecond 0)
      else none := by
  -- Every part of the definition is reckoned with checks, one after the other.
  simp only [resolve?, day?_eq_checked, time?_eq_checked]
  rw [years?_bind, wall?_bind]
  simp only [resolvable_iff]
  -- The years, the wall clock and the moment are checked in this order, and any of them may fail.
  by_cases years : (collected.monthYearReckoning calendar.system).Fits ∧
      (collected.yearReckoning calendar.system).exact.natAbs ≤ greatestYear ∧
      (collected.monthYearReckoning calendar.system).exact.natAbs ≤ greatestYear
  · by_cases wall : (collected.wallReckoning calendar).Fits
    · simp only [years, wall, true_and]
      exact (if_pos wall).trans (moment?_bind formed nanos wall)
    · simp only [years, wall, true_and, false_and, if_false]
      exact if_neg wall
  · simp only [years, false_and, if_false]

/-- A known value, or one that is assumed in its place, is not far below zero and fits. -/
theorem Readable.getD_bounds (readable : collected.Readable) (field : Field) {assumed : Int}
    (low : 0 ≤ assumed) (high : assumed ≤ 1970) :
    -greatestYear ≤ (collected.value? field).getD assumed ∧
      (collected.value? field).getD assumed ≤ Count.greatest := by
  -- What is assumed counts only where nothing is known.
  cases known : collected.value? field with
  | some value => exact ⟨(readable _ _ known).1, (readable _ _ known).2.1⟩
  | none =>
    simp only [Option.getD_none, greatestYear, Count.greatest]
    omega

/-- Known nanoseconds are less than a second. -/
theorem Readable.nanos_bounds (readable : collected.Readable) :
    0 ≤ collected.valueD .nanoOfSecond 0 ∧ collected.valueD .nanoOfSecond 0 < 1000000000 := by
  -- Where none are known there are none.
  rw [valueD]
  cases known : collected.value? .nanoOfSecond with
  | some value => exact (readable _ _ known).2.2 rfl
  | none => decide

/-- The year of the era is not far below zero and fits. -/
theorem Readable.yearGiven_bounds (readable : collected.Readable) :
    -greatestYear ≤ collected.yearGiven ∧ collected.yearGiven ≤ Count.greatest := by
  -- Whichever year counts, it was read, or it is 1970.
  have either : ∀ preferred other, -greatestYear ≤
      ((collected.value? preferred).or (collected.value? other)).getD 1970 ∧
        ((collected.value? preferred).or (collected.value? other)).getD 1970 ≤ Count.greatest := by
    intro preferred other
    cases known : collected.value? preferred with
    | some value => exact ⟨(readable _ _ known).1, (readable _ _ known).2.1⟩
    | none => exact readable.getD_bounds other (by decide) (by decide)
  -- A week date prefers the week year, and every other date the year.
  simp only [yearGiven]
  split <;> exact either _ _

/-- A year that is not too far away begins on a day that is not too far away, and so do its months. -/
theorem toDay_small {year month : Int} (near : year.natAbs ≤ greatestYear) :
    (Date.toDay ⟨year, month, 1⟩).natAbs ≤ 402000000000000 := by
  simp only [greatestYear] at near
  simp only [Date.toDay_floor]
  -- A year has fewer than 366 days on average.
  have shifted : (if month ≤ 2 then year - 1 else year).natAbs ≤ 1099511627777 := by
    split <;> omega
  -- The number of the day is a linear function of the year, up to leap days.
  generalize (if month ≤ 2 then year - 1 else year) = shiftedYear at shifted
  omega

/-- No step without a check leaves the range on the way from a year that is not too far away. -/
theorem fits_daySteps {weeks : WeekRules} (valid : weeks.Valid) {year start : Int}
    (near : year.natAbs ≤ greatestYear) (small : start.natAbs ≤ 402000000000000) :
    ∀ step ∈ daySteps weeks year start, Count.Fits step := by
  -- The first week begins less than a week around the start, and all other steps end near it.
  have first := WeekRules.firstWeek_bounds valid start
  have begun := WeekRules.onOrBefore_bounds start weeks.firstDay
  simp only [greatestYear] at near
  -- Every step is one of these numbers, or is a few days or a cycle away from it.
  simp only [daySteps, List.forall_mem_cons, List.not_mem_nil, false_imp_iff, implies_true,
    and_true, Count.Fits, Count.least, Count.greatest]
  omega

/-- No step without a check leaves the range as long as both years are not too far away. -/
theorem fits_uncheckedSteps (readable : collected.Readable) (weeks : calendar.weeks.Valid)
    (year : (collected.yearReckoning calendar.system).exact.natAbs ≤ greatestYear)
    (monthYear : (collected.monthYearReckoning calendar.system).exact.natAbs ≤ greatestYear) :
    ∀ step ∈ collected.uncheckedSteps calendar, Count.Fits step := by
  -- The first day of the month is near, and so is all that is counted from it.
  have start : (collected.monthStart calendar).natAbs ≤ 402000000000000 := toDay_small monthYear
  have weekday : 1 ≤ dayOfWeek (collected.monthStart calendar) ∧
      dayOfWeek (collected.monthStart calendar) ≤ 7 := by
    simp only [dayOfWeek]
    omega
  have sunday := weeks.sunday_le
  have saturday := weeks.le_saturday
  -- The weekday is one that was read, or one of seven that stands for it.
  have given := readable.getD_bounds .dayOfWeek
    (show 0 ≤ dayOfWeek (collected.monthStart calendar) by omega) (by omega)
  have first := readable.getD_bounds .dayOfWeek
    (show 0 ≤ calendar.weeks.firstDay by omega) (by omega)
  simp only [uncheckedSteps, List.forall_mem_append]
  -- The steps of the year and of the month are the same, and three more are about the weekday.
  refine ⟨⟨fits_daySteps weeks year (toDay_small year), fits_daySteps weeks monthYear start⟩, ?_⟩
  simp only [greatestYear, Count.greatest] at given first
  simp only [List.forall_mem_cons, List.not_mem_nil, false_imp_iff, implies_true, and_true,
    Count.Fits, Count.least, Count.greatest]
  omega

/--
Collected fields resolve to the instant that they denote in whole numbers of any size, or to nothing.

There is nothing only if a year is too far away, a step with a check leaves the range, or the zone has no moment for
the reading of the wall clock. The steps without a check do not leave the range.
-/
theorem resolve?_eq_exact (readable : collected.Readable)
    (formed : (collected.zone?.getD zone).WellFormed) (weeks : calendar.weeks.Valid) :
    collected.resolve? zone calendar =
        (if collected.Resolvable calendar then
          (collected.exactMillis? zone calendar).map fun millis =>
            .ofNanos (millis * 1000000 + collected.valueD .nanoOfSecond 0)
        else none) ∧
      Count.Fits (collected.yearGiven - 1) ∧
      ((collected.yearReckoning calendar.system).exact.natAbs ≤ greatestYear →
        (collected.monthYearReckoning calendar.system).exact.natAbs ≤ greatestYear →
        ∀ step ∈ collected.uncheckedSteps calendar, Count.Fits step) := by
  -- What is read has less than a second of nanoseconds, and its unchecked steps are known to fit.
  refine ⟨resolve?_eq_checked formed readable.nanos_bounds, ?_, fits_uncheckedSteps readable weeks⟩
  -- The year before the one given is the only step that is taken before the years are checked.
  have year := readable.yearGiven_bounds
  simp only [greatestYear, Count.greatest] at year
  simp only [Count.Fits, Count.least, Count.greatest]
  omega

/--
The fifteenth month of a year of Heisei lies in the next year of the Gregorian calendar, just before midnight.

Daylight saving is part of the offset, so that the moment lies early on the next day.
-/
theorem resolve?_eq_exact_heisei30 :
    let findings : List Finding := [.value .era 4, .value .year 30, .value .month 14,
      .value .dayOfMonth 31, .value .hour 11, .value .amPm 1, .value .minute 59,
      .value .zoneOffset (-18000000), .value .dstOffset 3600000, .value .nanoOfSecond 123456789]
    let calendar : Calendar := ⟨.imperial, ⟨1, 1⟩⟩
    let collected := empty.addAll findings
    collected.Readable ∧ (collected.zone?.getD .utc).WellFormed ∧ calendar.weeks.Valid ∧
      collected.resolve? .utc calendar = some ⟨1554091140, 123456789⟩ := by
  intro findings calendar collected
  -- The findings are stored one after the other, and each of them can be read.
  have readable : collected.Readable := readable_empty.addAll (by decide)
  have formed : (collected.zone?.getD .utc).WellFormed := by decide
  have weeks : calendar.weeks.Valid := by decide
  exact ⟨readable, formed, weeks, (resolve?_eq_exact readable formed weeks).1.trans (by decide)⟩

end

end Collected

end DatePattern
