import DatePattern.Proofs.Calendar.Dates
import DatePattern.Proofs.Calendar.Era
import DatePattern.Proofs.Calendar.Fields
import DatePattern.Proofs.Compile
import DatePattern.Proofs.Timestamp.Midnight
import DatePattern.Proofs.Writing
import DatePattern.Timestamp.Layout

/-! Written dates: the date of a layout tells the local day, and nothing but the local day. -/

namespace DatePattern

namespace Token

/-- A token whose piece depends on the date alone. -/
def isDate : Token → Bool
  | .literal _ => true
  | .letters letter _ => letter == 'y' || letter == 'M' || letter == 'd'

/-- Tokens that write the day of the month in a place which the text itself shows. -/
def tellsDay : List Token → Bool
  | .letters 'd' 2 :: _ => true
  | .letters 'y' 4 :: rest => tellsDay rest
  | .letters 'M' 2 :: rest => tellsDay rest
  | .literal _ :: rest => tellsDay rest
  | _ => false

end Token

/-- The tokens of the date in a layout. -/
theorem Layout.datePattern_tokens {layout : Layout} (listed : layout ∈ all) {pattern : String}
    (dated : layout.datePattern = some pattern) :
    ∃ tokens, Token.ofPattern pattern = .ok tokens ∧ tokens.all Token.isDate = true ∧
      Token.tellsDay tokens = true := by
  -- The layouts are few enough to look at the date of each.
  have every : ∀ layout ∈ all, layout.datePattern.all (fun pattern =>
      (Token.ofPattern pattern).toOption.any fun tokens =>
        tokens.all Token.isDate && Token.tellsDay tokens) = true := by
    decide
  have known := every layout listed
  rw [dated, Option.all_some] at known
  cases scanned : Token.ofPattern pattern with
  | error reason =>
    rw [scanned] at known
    exact absurd known Bool.false_ne_true
  | ok tokens =>
    rw [scanned] at known
    exact ⟨tokens, rfl, Bool.and_eq_true_iff.mp known⟩

/-- Fields that show the same date. -/
structure CalendarFields.SameDate (fields other : CalendarFields) : Prop where
  /-- The year of the era is the same. -/
  year : fields.year = other.year
  /-- The month is the same. -/
  month : fields.month = other.month
  /-- The day of the month is the same. -/
  dayOfMonth : fields.dayOfMonth = other.dayOfMonth

/-- Instants on one local day show one date. -/
theorem CalendarFields.sameDate_of_wallDay {instant other : Instant} {zone : Zone}
    (calendar : Calendar) (same : wallDay instant zone = wallDay other zone) :
    SameDate (ofInstant instant zone calendar) (ofInstant other zone calendar) where
  -- All three are read off the date of the local day.
  year := by rw [year_ofInstant, year_ofInstant, same]
  month := by rw [month_ofInstant, month_ofInstant, same]
  dayOfMonth := by rw [dayOfMonth_ofInstant, dayOfMonth_ofInstant, same]

/-- A token of the date writes the same piece for the same date. -/
theorem WriteRule.MadeFor.write_of_sameDate {zone : Zone} {locale : Locale} {symbols : Symbols}
    {token : Token} {rule : WriteRule} (dated : token.isDate = true)
    (made : WriteRule.MadeFor zone locale symbols token rule) {fields other : CalendarFields}
    (same : fields.SameDate other) : rule.write fields = rule.write other := by
  obtain ⟨before, after, made⟩ := made
  cases token with
  | literal verbatim =>
    cases made
    rfl
  | letters letter width =>
    simp only [Token.isDate, Bool.or_eq_true, beq_iff_eq] at dated
    obtain ⟨year, month, dayOfMonth⟩ := same
    -- Year, month and day of the month are what these tokens write, by number or by name.
    rcases dated with (rfl | rfl) | rfl
    · cases made
      simp only [write, NumberRule.write, yearRule, NumberRule.select]
      -- Two digits of the year, or all of them.
      split <;> [skip; split] <;> simp only [NumberRule.valueIn, CalendarFields.get, year]
    · cases made
      have named' : fields.get .month = other.get .month := month
      simp only [monthRule]
      split
      · simp only [named, write, named']
      split
      · simp only [named, write, named']
      · split <;> simp only [write, NumberRule.write, NumberRule.valueIn, month]
    · cases made
      simp only [write, NumberRule.write, NumberRule.select]
      split <;> simp only [NumberRule.valueIn, CalendarFields.get, dayOfMonth]

/-- Fields whose date is one of the calendar, with a year of a size that days can have. -/
structure CalendarFields.Dated (fields : CalendarFields) : Prop where
  /-- The year is not too large. -/
  year : fields.year.natAbs < 1000000000
  /-- The month runs from 0 to 11. -/
  month : 0 ≤ fields.month ∧ fields.month ≤ 11
  /-- The day of the month runs from 1 to 31. -/
  dayOfMonth : 1 ≤ fields.dayOfMonth ∧ fields.dayOfMonth ≤ 31

/-- A text that goes on after a number begins with one number only, when numbers are close. -/
private theorem padded_append_cancel {year year' : Int} (small : year.natAbs < 1000000000)
    (small' : year'.natAbs < 1000000000)
    (near : year.natAbs < 10000 ∧ year'.natAbs < 10000 ∨
      year.natAbs ≤ year'.natAbs + 1 ∧ year'.natAbs ≤ year.natAbs + 1)
    {rest rest' : List Char}
    (same : Digits.padded year 4 ++ rest = Digits.padded year' 4 ++ rest') : rest = rest' := by
  have bound : 1000000000 < Digits.power 18 := by decide
  -- Without their signs, close numbers are told by the text that begins with them.
  have magnitudes : ∀ {text text' : List Char},
      Digits.padded year.natAbs 4 ++ text = Digits.padded year'.natAbs 4 ++ text' →
        text = text' := fun equal =>
    (Digits.padded_append_inj (by omega) (by omega) near (by decide) (by decide) equal).2
  -- Numbers of different signs never begin alike.
  by_cases negative : year < 0 <;> by_cases negative' : year' < 0
  · rw [Digits.padded_neg negative, Digits.padded_neg negative'] at same
    exact magnitudes (List.cons.inj same).2
  · rw [Digits.padded_neg negative, show year' = (year'.natAbs : Int) by omega] at same
    exact absurd same.symm (Digits.padded_ne_minus _ _ _ _)
  · rw [Digits.padded_neg negative', show year = (year.natAbs : Int) by omega] at same
    exact absurd same (Digits.padded_ne_minus _ _ _ _)
  · rw [show year = (year.natAbs : Int) by omega,
      show year' = (year'.natAbs : Int) by omega] at same
    exact magnitudes same

/-- Two digits are told by the text that begins with them. -/
private theorem two_append_inj {n m : Int} (inside : 0 ≤ n ∧ n < 100) (inside' : 0 ≤ m ∧ m < 100)
    {rest rest' : List Char}
    (same : Digits.two n.toNat ++ rest = Digits.two m.toNat ++ rest') : n = m ∧ rest = rest' := by
  -- Both texts begin with two characters, and two digits have the value they were written from.
  obtain ⟨digits, rests⟩ := List.append_inj same (by simp)
  have values := congrArg Digits.value digits
  rw [Digits.two, Digits.two, Digits.value_last, Digits.value_last] at values
  rw [show Digits.power 2 = 100 from rfl] at values
  exact ⟨by omega, rests⟩

/-- Texts that begin alike have the same day of the month, when their years are close. -/
theorem dayOfMonth_of_text {zone : Zone} {locale : Locale} {symbols : Symbols}
    {tokens : List Token} {rules : List WriteRule} (tells : Token.tellsDay tokens = true)
    (made : List.Forall₂ (WriteRule.MadeFor zone locale symbols) tokens rules)
    {fields other : CalendarFields} (dated : fields.Dated) (otherDated : other.Dated)
    (near : fields.year.natAbs < 10000 ∧ other.year.natAbs < 10000 ∨
      fields.year.natAbs ≤ other.year.natAbs + 1 ∧ other.year.natAbs ≤ fields.year.natAbs + 1)
    {rest rest' : List Char}
    (same : rules.flatMap (·.write fields) ++ rest = rules.flatMap (·.write other) ++ rest') :
    fields.dayOfMonth = other.dayOfMonth := by
  have month := dated.month
  have month' := otherDated.month
  have day := dated.dayOfMonth
  have day' := otherDated.dayOfMonth
  -- One piece after the other is taken off both texts, up to the day of the month.
  induction made with
  | nil => cases tells
  | @cons token rule tokens rules first others ih =>
    obtain ⟨before, after, first⟩ := first
    simp only [List.flatMap_cons, List.append_assoc] at same
    -- The day itself decides. A year, a month or literal text is the same on both sides, and
    -- taken off.
    unfold Token.tellsDay at tells
    split at tells
    · rename_i listed
      cases listed
      cases first
      have two : ∀ shown : CalendarFields, 1 ≤ shown.dayOfMonth ∧ shown.dayOfMonth ≤ 31 →
          (WriteRule.number (.select .dayOfMonth 2)).write shown =
            Digits.two shown.dayOfMonth.toNat := fun shown bounds =>
        WriteRule.write_twoDigit shown .dayOfMonth ⟨by simp only [CalendarFields.get]; omega,
          by simp only [CalendarFields.get]; omega⟩
      rw [two _ day, two _ day'] at same
      exact (two_append_inj (by omega) (by omega) same).1
    · rename_i listed
      cases listed
      cases first
      exact ih tells (padded_append_cancel dated.year otherDated.year near same)
    · rename_i listed
      cases listed
      cases first
      rw [show WriteRule.monthRule symbols 2 = .number .twoDigitMonth from rfl,
        WriteRule.write_twoDigitMonth (by omega), WriteRule.write_twoDigitMonth (by omega)] at same
      exact ih tells (two_append_inj (by omega) (by omega) same).2
    · rename_i listed
      cases listed
      cases first
      exact ih tells (List.append_cancel_left same)
    · cases tells

/-- The fields of an instant show a date of the calendar. -/
theorem CalendarFields.dated_ofInstant (instant : Instant) (zone : Zone) (calendar : Calendar) :
    (ofInstant instant zone calendar).Dated := by
  have fits : Count.Fits (wallMillis instant zone) := Count.fits_clamp _
  -- The clock is held to the counts, and so is its day to as many days.
  have small : (wallDay instant zone).natAbs ≤ 200000000000 := by
    simp only [Count.Fits, Count.least, Count.greatest] at fits
    simp only [wallDay]
    omega
  have year := Date.year_ofDay_small small
  -- The number of the year in its era is not far from the year itself.
  refine ⟨?_, ?_, ?_⟩
  · rw [year_ofInstant, Calendar.eraYears_eq]
    have counted := calendar.natAbs_countedInEra_le (wallDay instant zone)
      (Date.ofDay (wallDay instant zone)).year (Date.ofDay (wallDay instant zone)).year
    simp only
    omega
  · have month := Date.month_ofDay (wallDay instant zone)
    rw [month_ofInstant]
    omega
  · rw [dayOfMonth_ofInstant]
    exact Date.day_ofDay _

namespace Format

/-- A date is written alike for all instants of one local day. -/
theorem write_of_wallDay {format : Format} {tokens : List Token} {source : LocaleData}
    (compiled : format.CompiledFrom tokens source) (dated : tokens.all Token.isDate = true)
    {instant other : Instant}
    (same : CalendarFields.wallDay instant format.zone =
      CalendarFields.wallDay other format.zone) :
    format.write instant = format.write other := by
  have shown := CalendarFields.sameDate_of_wallDay format.calendar same
  simp only [write, fields]
  -- The pieces are equal one by one.
  have pieces := compiled.rules
  clear compiled
  generalize format.rules = rules at pieces
  induction pieces with
  | nil => rfl
  | cons first _ ih =>
    rw [List.all_cons, Bool.and_eq_true] at dated
    rw [List.flatMap_cons, List.flatMap_cons, first.write_of_sameDate dated.1 shown,
      ih dated.2]

/-- Dates less than a week apart begin a text alike only when they are the same date. -/
theorem dateDay_of_write {format : Format} {tokens : List Token} {source : LocaleData}
    (compiled : format.CompiledFrom tokens source) (tells : Token.tellsDay tokens = true)
    {millis other : Int}
    (near : (Day.dateDay format.zone other - Day.dateDay format.zone millis).natAbs ≤ 6)
    {rest rest' : List Char}
    (same : format.write (.ofMillis millis) ++ rest = format.write (.ofMillis other) ++ rest') :
    Day.dateDay format.zone other = Day.dateDay format.zone millis := by
  have day : ∀ moment, Day.dateDay format.zone moment =
      CalendarFields.wallDay (.ofMillis moment) format.zone := fun moment => rfl
  rw [day, day] at near ⊢
  have years := format.calendar.countedInEra_near near
  -- Dates this near differ by a year at most, so the text tells their day of the month.
  have shown := dayOfMonth_of_text tells compiled.rules
    (CalendarFields.dated_ofInstant (.ofMillis millis) format.zone format.calendar)
    (CalendarFields.dated_ofInstant (.ofMillis other) format.zone format.calendar) (by
      rw [CalendarFields.year_ofInstant, CalendarFields.year_ofInstant, Calendar.eraYears_eq,
        Calendar.eraYears_eq]
      simp only at years ⊢
      omega) same
  rw [CalendarFields.dayOfMonth_ofInstant, CalendarFields.dayOfMonth_ofInstant] at shown
  -- A month is longer than a week, so no two of these days share their place in one.
  exact Date.day_ofDay_inj (by omega) shown.symm

end Format

end DatePattern
