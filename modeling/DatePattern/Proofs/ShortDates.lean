import DatePattern.Proofs.Calendar.Order
import DatePattern.Proofs.Reading.Marked
import DatePattern.Proofs.Reading.ShortYears
import DatePattern.Proofs.RoundTrip
import DatePattern.Proofs.Writing

/-! Dates with a year of two digits: they are read back as the midnight that they begin with. -/

namespace DatePattern

/-- The last two digits of the year, the month and the day, with a mark between them. -/
def Date.shortText (mark : List Char) (date : Date) : List Char :=
  Digits.two (date.year % 100).toNat ++
    (mark ++ (Digits.two date.month.toNat ++ (mark ++ Digits.two date.day.toNat)))

/-- What is found in the text of a date. -/
def Date.findings (date : Date) : List Finding :=
  [.value .year date.year, .value .month (date.month - 1), .value .dayOfMonth date.day]

/-- The steps of a short date with dashes, where no number stands directly before another. -/
def ReadStep.dashedDate : List ReadStep :=
  [⟨.number .year .abbreviatedYear, 2, 0⟩, ⟨.literal ['-'], 1, 0⟩, ⟨.number .month .month, 2, 0⟩,
    ⟨.literal ['-'], 1, 0⟩, ⟨.number .dayOfMonth .none, 2, 0⟩]

/-- The steps of a short date of digits alone, where all numbers but the last are held to two. -/
def ReadStep.adjacentDate : List ReadStep :=
  [⟨.number .year .abbreviatedYear, 2, 2⟩, ⟨.number .month .month, 2, 2⟩,
    ⟨.number .dayOfMonth .none, 2, 0⟩]

namespace Reader

variable {reader : Reader} {step : ReadStep} {rest : List Char}

/-- A number of two digits is read where it is told apart from what follows. -/
theorem readStep_two {field : Field} {modifier : Modifier}
    (rule : step.rule = .number field modifier) {n : Nat} (small : n < 100) {value : Int}
    (modified : reader.modify? n modifier = some value)
    (apart : Apart step.maxWidth (Digits.two n) rest) :
    reader.readStep step (Digits.two n ++ rest) = .ok ([.value field value], rest) := by
  have few : n < Digits.power 20 := Nat.lt_of_lt_of_le small (by decide)
  have numeral := numeral_padded few 2
  -- Padded to two digits, a number below 100 has just the two.
  rw [Digits.padded_two small] at numeral
  have fits : Count.Fits n := Count.fits_of_natAbs_le (by omega)
  exact readStep_number rule numeral fits modified apart

end Reader

/-- A date of the calendar whose year lies in the window of a reader. -/
structure Date.InWindow (date : Date) (reader : Reader) : Prop where
  /-- The year is not before the window. -/
  begun : reader.windowStart ≤ date.year
  /-- The year is not after the window. -/
  ends : date.year < reader.windowStart + 100
  /-- There are twelve months. -/
  month : 1 ≤ date.month ∧ date.month ≤ 12
  /-- No month has more than thirty-one days. -/
  day : 1 ≤ date.day ∧ date.day ≤ 31

namespace Date.InWindow

open Reader (Apart)

variable {date : Date} {reader : Reader} {step : ReadStep} {rest : List Char}

/-- The last two digits of the year are read as the year. -/
theorem readStep_year (inside : date.InWindow reader)
    (rule : step.rule = .number .year .abbreviatedYear)
    (apart : Apart step.maxWidth (Digits.two (date.year % 100).toNat) rest) :
    reader.readStep step (Digits.two (date.year % 100).toNat ++ rest) =
      .ok ([.value .year date.year], rest) := by
  have whole : ((date.year % 100).toNat : Int) = date.year % 100 := by omega
  -- The window has one year with these digits, which is the one that was written.
  refine Reader.readStep_two rule (by omega) ?_ apart
  rw [whole, Reader.modify?, if_pos (by omega),
    reader.placeYear_of_window inside.begun inside.ends]

/-- The month is read as its number from zero. -/
theorem readStep_month (inside : date.InWindow reader) (rule : step.rule = .number .month .month)
    (apart : Apart step.maxWidth (Digits.two date.month.toNat) rest) :
    reader.readStep step (Digits.two date.month.toNat ++ rest) =
      .ok ([.value .month (date.month - 1)], rest) := by
  -- The number that was written is one more than the one that is kept.
  have bounds := inside.month
  have whole : (date.month.toNat : Int) = date.month := by omega
  have fits : Count.Fits (date.month - 1) := Count.fits_of_natAbs_le (by omega)
  refine Reader.readStep_two rule (by omega) ?_ apart
  rw [whole, Reader.modify?, Count.within?_of_fits fits]

/-- The day at the end of a text is read as it is. -/
theorem readStep_day (inside : date.InWindow reader) (rule : step.rule = .number .dayOfMonth .none)
    (apart : Apart step.maxWidth (Digits.two date.day.toNat) []) :
    reader.readStep step (Digits.two date.day.toNat) = .ok ([.value .dayOfMonth date.day], []) := by
  -- The text ends with the day, behind which nothing is left.
  have bounds := inside.day
  have whole : (date.day.toNat : Int) = date.day := by omega
  rw [← List.append_nil (Digits.two _)]
  refine Reader.readStep_two rule (by omega) ?_ apart
  rw [whole, Reader.modify?]

/-- A date is read from its text with dashes, where numbers end at the first other character. -/
theorem readSteps_dashed (inside : date.InWindow reader) :
    reader.readSteps ReadStep.dashedDate (date.shortText ['-']) = (date.findings, .ok []) := by
  -- A dash ends each number but the last one, which ends with the text.
  have dashed : ∀ piece rest, Apart 0 piece (['-'] ++ rest) := by
    intro piece rest c head
    cases head
    rfl
  have marked : ∀ rest, reader.readStep ⟨.literal ['-'], 1, 0⟩ (['-'] ++ rest) = .ok ([], rest) :=
    fun rest => Reader.readStep_literal rfl
  have whole : Apart 0 (Digits.two date.day.toNat) [] := nofun
  rw [Date.shortText]
  exact Reader.readSteps_cons_eq_ok.mpr ⟨_, _, _, inside.readStep_year rfl (dashed _ _),
    Reader.readSteps_cons_eq_ok.mpr ⟨_, _, _, marked _,
      Reader.readSteps_cons_eq_ok.mpr ⟨_, _, _, inside.readStep_month rfl (dashed _ _),
        Reader.readSteps_cons_eq_ok.mpr ⟨_, _, _, marked _,
          Reader.readSteps_cons_eq_ok.mpr ⟨_, _, _, inside.readStep_day rfl whole, rfl, rfl⟩,
          rfl⟩, rfl⟩, rfl⟩, rfl⟩

/-- A date is read from its digits alone, where the first two numbers are held to two of them. -/
theorem readSteps_adjacent (inside : date.InWindow reader) :
    reader.readSteps ReadStep.adjacentDate (date.shortText []) = (date.findings, .ok []) := by
  -- Two digits are all that the greatest width allows.
  have two : ∀ n rest, Apart 2 (Digits.two n) rest := fun n rest => rfl
  have whole : Apart 0 (Digits.two date.day.toNat) [] := nofun
  rw [Date.shortText, List.nil_append, List.nil_append]
  exact Reader.readSteps_cons_eq_ok.mpr ⟨_, _, _, inside.readStep_year rfl (two _ _),
    Reader.readSteps_cons_eq_ok.mpr ⟨_, _, _, inside.readStep_month rfl (two _ _),
      Reader.readSteps_cons_eq_ok.mpr ⟨_, _, _, inside.readStep_day rfl whole, rfl, rfl⟩,
      rfl⟩, rfl⟩

end Date.InWindow

/-- In a zone of one offset a reading of the wall clock is that offset away from its moment. -/
theorem Zone.ofWall?_of_constant {zone : Zone}
    (constant : zone = .utc ∨ ∃ offset, zone = .fixed offset) {wall millis : Int}
    (fits : Count.Fits (wall - zone.offsetAt millis)) :
    zone.ofWall? wall = some (wall - zone.offsetAt millis) := by
  -- UTC takes nothing off, and a fixed offset is taken off as long as the difference fits.
  rcases constant with rfl | ⟨offset, rfl⟩
  · exact congrArg some (Int.sub_zero wall).symm
  · rw [Zone.ofWall?]
    have same : (Zone.fixed offset).offsetAt millis = offset := Int.add_zero offset
    rw [same] at fits ⊢
    exact Count.within?_of_fits fits

/-- The years of the Lord begin with the day of this number. -/
theorem Date.le_of_year_pos {day : Int} (positive : 1 ≤ (Date.ofDay day).year) : -719162 ≤ day := by
  -- The first day of the first year is a lower bound of all later ones.
  have begins := Date.newYear_year_le day
  rw [Date.newYear_eq] at begins
  omega

/-- A date that is found and nothing else resolves to the midnight that it begins with. -/
theorem Date.resolve?_findings {zone : Zone} {calendar : Calendar} {day millis : Int}
    (constant : zone = .utc ∨ ∃ offset, zone = .fixed offset)
    (gregorian : calendar.system = .gregorian) (small : day.natAbs ≤ 200000000000)
    (midnightFits : Count.Fits (day * 86400000))
    (fits : Count.Fits (day * 86400000 - zone.offsetAt millis)) :
    (Collected.empty.addAll (Date.ofDay day).findings).resolve? zone calendar =
      some (.ofMillis (day * 86400000 - zone.offsetAt millis)) := by
  -- What was found is a year, a month and a day of the month, from which the day is computed.
  generalize knownIs : Collected.empty.addAll (Date.ofDay day).findings = known
  have year : known.value? .year = some (Date.ofDay day).year := by rw [← knownIs]; rfl
  have month : known.valueD .month 0 = (Date.ofDay day).month - 1 := by rw [← knownIs]; rfl
  have dayOfMonth : known.value? .dayOfMonth = some (Date.ofDay day).day := by rw [← knownIs]; rfl
  have months := Date.month_ofDay day
  have days := Date.day_ofDay day
  have yearSmall := Date.year_ofDay_small small
  have noEra : known.value? .era = none := by rw [← knownIs]; rfl
  have yearIs : known.gregorianYear? calendar.system = some (Date.ofDay day).year := by
    have plain : known.isWeekDate = false := by simp [Collected.isWeekDate, dayOfMonth]
    simp only [gregorian, Collected.gregorianYear?, Collected.yearOfEra_eq_year plain year, noEra]
    rfl
  have dayIs : known.day? calendar.weeks (Date.ofDay day).year
      (Date.toDay ⟨(Date.ofDay day).year, known.valueD .month 0 + 1, 1⟩) = some day := by
    rw [Collected.day?_of_dayOfMonth dayOfMonth, month, Int.sub_add_cancel,
      Date.monthStart_ofDay, Collected.daysAfter?_eq (by omega) (by omega)]
    congr 1
    omega
  -- No part of the time of day is known.
  have timeIs : known.time? = some 0 := by rw [← knownIs]; rfl
  have nanos : known.nanos = 0 := by rw [← knownIs]; rfl
  have momentIs : known.moment? zone (day * 86400000 + 0) =
      some (day * 86400000 - zone.offsetAt millis) := by
    have noOffset : known.value? .zoneOffset = none := by rw [← knownIs]; rfl
    have noZone : known.zone? = none := by rw [← knownIs]; rfl
    rw [Collected.moment?, noOffset, noZone, Int.add_zero]
    exact Zone.ofWall?_of_constant constant fits
  rw [Collected.resolve?_eq yearIs (by simp only [Collected.greatestYear]; omega)
    (by rw [month]; omega) dayIs timeIs midnightFits (by rw [Int.add_zero]; exact midnightFits)
    momentIs, nanos, Instant.addNanos?_zero fits]

/-- In years of the Lord the pieces of a short date are those of the date that the clocks show. -/
theorem CalendarFields.write_shortDate {instant : Instant} {zone : Zone} {calendar : Calendar}
    (gregorian : calendar.system = .gregorian)
    (positive : 1 ≤ (Date.ofDay (wallDay instant zone)).year) :
    (WriteRule.number .twoDigitYear).write (ofInstant instant zone calendar) =
        Digits.two ((Date.ofDay (wallDay instant zone)).year % 100).toNat ∧
      (WriteRule.number .twoDigitMonth).write (ofInstant instant zone calendar) =
        Digits.two (Date.ofDay (wallDay instant zone)).month.toNat ∧
      (WriteRule.number (.twoDigit .dayOfMonth)).write (ofInstant instant zone calendar) =
        Digits.two (Date.ofDay (wallDay instant zone)).day.toNat := by
  have months := Date.month_ofDay (wallDay instant zone)
  have days := Date.day_ofDay (wallDay instant zone)
  -- Years of the Lord are counted in their era as they are.
  have year : (ofInstant instant zone calendar).year =
      (Date.ofDay (wallDay instant zone)).year := by
    have counted := (year_eq_sub calendar positive).1
    rwa [gregorian, CalendarSystem.yearsBefore, Int.sub_zero] at counted
  -- Months are counted from zero in the fields, and from one in the text.
  have month : (ofInstant instant zone calendar).month + 1 =
      (Date.ofDay (wallDay instant zone)).month := by
    rw [month_ofInstant]
    omega
  have day : (ofInstant instant zone calendar).get .dayOfMonth =
      (Date.ofDay (wallDay instant zone)).day := dayOfMonth_ofInstant ..
  refine ⟨?_, ?_, ?_⟩
  · rw [← year]
    rfl
  · rw [WriteRule.write_twoDigitMonth (by omega), month]
  · rw [WriteRule.write_twoDigit _ _ (by omega), day]

/-- A format that writes and reads dates with a year of two digits, and some mark between the numbers. -/
structure Format.HasShortDates (format : Format) (mark : List Char) : Prop where
  /-- The last two digits of the year are written, the month and the day. -/
  rules : ∀ fields, format.rules.flatMap (·.write fields) =
    (WriteRule.number .twoDigitYear).write fields ++
      (mark ++ ((WriteRule.number .twoDigitMonth).write fields ++
        (mark ++ (WriteRule.number (.twoDigit .dayOfMonth)).write fields)))
  /-- Every date whose year is in the window is read back from its text. -/
  steps : ∀ {date : Date}, date.InWindow format.reader →
    format.reader.readSteps format.reader.steps (date.shortText mark) = (date.findings, .ok [])
  /-- Texts are read in the zone of the format. -/
  zone : format.reader.zone = format.zone
  /-- Texts are read in the calendar of the format. -/
  calendar : format.reader.calendar = format.calendar

namespace Format

/-- Both patterns of short dates compile in every registry. -/
theorem exists_hasShortDates {pattern : String} (short : pattern ∈ ["yy-MM-dd", "yyMMdd"])
    (zone : Zone) (locale : Locale) (centuryStart : Option Instant) (before : Registry) :
    ∃ format mark, compile pattern zone locale centuryStart before = .ok format before ∧
      format.zone = zone ∧ format.calendar = (before.localeData.symbols locale).calendar ∧
      format.HasShortDates mark := by
  -- All but the rules and the steps is the same for both of them.
  let calendar := (before.localeData.symbols locale).calendar
  let made (rules : List WriteRule) (steps : List ReadStep) : Format :=
    ⟨pattern, zone, locale, calendar, rules, ⟨steps, before.regions, zone, calendar,
      locale.isImperial, windowStart before zone locale calendar centuryStart, before.now⟩⟩
  rcases List.mem_cons.mp short with dashed | short
  · subst dashed
    refine ⟨made
      [.number .twoDigitYear, .literal ['-'], .number .twoDigitMonth, .literal ['-'],
        .number (.twoDigit .dayOfMonth)]
      ReadStep.dashedDate, ['-'], rfl, rfl, rfl, fun fields => ?_,
      fun inside => inside.readSteps_dashed, rfl, rfl⟩
    simp only [made, List.flatMap_cons, List.flatMap_nil, List.append_nil]
    rfl
  · obtain rfl := List.mem_singleton.mp short
    refine ⟨made
      [.number .twoDigitYear, .number .twoDigitMonth, .number (.twoDigit .dayOfMonth)]
      ReadStep.adjacentDate, [], rfl, rfl, rfl, fun fields => ?_,
      fun inside => inside.readSteps_adjacent, rfl, rfl⟩
    simp only [made, List.flatMap_cons, List.flatMap_nil, List.append_nil, List.nil_append]

/-- A short date whose year is in the window is read back as the midnight of its day. -/
theorem HasShortDates.readAt_midnight {format : Format} {mark : List Char}
    (short : format.HasShortDates mark) (gregorian : format.calendar.system = .gregorian)
    (formed : format.zone.WellFormed)
    (constant : format.zone = .utc ∨ ∃ offset, format.zone = .fixed offset) {instant : Instant}
    {date : Date} (shown : Date.ofDay (CalendarFields.wallDay instant format.zone) = date)
    (positive : 1 ≤ date.year) (begun : format.reader.windowStart ≤ date.year)
    (ends : date.year < format.reader.windowStart + 100) :
    ∃ midnight, format.reader.readAt (format.render instant) ⟨0, none⟩ =
        (some midnight, ⟨Text.byteLength (format.write instant), none⟩) ∧
      midnight = .ofMillis (CalendarFields.wallDay instant format.zone * 86400000 -
        format.zone.offsetAt instant.millis) ∧
      CalendarFields.wallMillis midnight format.zone =
        CalendarFields.wallDay instant format.zone * 86400000 := by
  obtain ⟨year, month, day⟩ := CalendarFields.write_shortDate gregorian (shown ▸ positive)
  have written : format.write instant = date.shortText mark := by
    rw [write, short.rules, fields, year, month, day, shown]
    rfl
  have inside : date.InWindow format.reader :=
    ⟨begun, ends, shown ▸ Date.month_ofDay _, shown ▸ Date.day_ofDay _⟩
  have text : (format.render instant).toList = format.write instant := String.toList_ofList
  have read := short.steps inside
  rw [← written, ← text] at read
  -- Such days are far from the first milliseconds, and no midnight is later than its instant.
  have lord := Date.le_of_year_pos (shown ▸ positive)
  have offset := Zone.offsetAt_bounds formed instant.millis
  have millis := instant.fits_millis
  have clamped := Count.clamp_cases (instant.millis + format.zone.offsetAt instant.millis)
  have dayIs : CalendarFields.wallDay instant format.zone =
      Count.clamp (instant.millis + format.zone.offsetAt instant.millis) / 86400000 := rfl
  simp only [Count.Fits, Count.least, Count.greatest] at millis clamped
  generalize CalendarFields.wallDay instant format.zone = shownDay at *
  subst shown
  have small : shownDay.natAbs ≤ 200000000000 := by omega
  have midnightFits : Count.Fits (shownDay * 86400000) := Count.fits_of_natAbs_le (by omega)
  have fits : Count.Fits (shownDay * 86400000 - format.zone.offsetAt instant.millis) :=
    Count.fits_of_natAbs_le (by omega)
  refine ⟨_, ?_, rfl, ?_⟩
  · rw [← text]
    refine readAt_of_readSteps read ?_
    rw [short.zone, short.calendar]
    exact Date.resolve?_findings constant gregorian small midnightFits fits
  · have own := (Instant.millis_ofMillis fits).2.2 (by simp only [Count.least]; omega)
    rw [CalendarFields.wallMillis, own,
      Zone.offsetAt_of_constant constant (_ - _) instant.millis, Int.sub_add_cancel,
      Count.clamp_of_fits midnightFits]

/--
Years of two digits fill the window of a format, and longer ones are read as they are.

So dates in years of the Lord are read back from a year of two digits, with dashes or without.
-/
theorem readAt_render_shortDate {before : Registry} (faithful : before.Faithful) (zone : Zone)
    (locale : Locale) (centuryStart : Option Instant) :
    (∀ pattern format after,
      compile pattern zone locale centuryStart before = .ok format after →
      Set.BijOn format.reader.placeYear {year | 0 ≤ year ∧ year < 100}
        {year | format.reader.windowStart ≤ year ∧ year < format.reader.windowStart + 100} ∧
      (∀ year, format.reader.placeYear year % 100 = year % 100) ∧
      ∃ tokens, Token.ofPattern pattern = .ok tokens ∧
        List.Forall₂ (fun token step => ∀ letter width field, token = .letters letter width →
          (letter, field) ∈ Token.yearLetters → width ≤ 2 → format.reader.PlacesYears step field)
          tokens format.reader.steps) ∧
    ∀ pattern ∈ ["yy-MM-dd", "yyMMdd"], ∃ format after,
      compile pattern zone locale centuryStart before = .ok format after ∧
      (format.calendar.system = .gregorian → zone.WellFormed →
        (zone = .utc ∨ ∃ offset, zone = .fixed offset) →
        ∀ instant date, Date.ofDay (CalendarFields.wallDay instant zone) = date →
          1 ≤ date.year → format.reader.windowStart ≤ date.year →
          date.year < format.reader.windowStart + 100 →
          ∃ midnight, format.reader.readAt (format.render instant) ⟨0, none⟩ =
              (some midnight, ⟨Text.byteLength (format.write instant), none⟩) ∧
            midnight = .ofMillis (CalendarFields.wallDay instant zone * 86400000 -
              zone.offsetAt instant.millis) ∧
            CalendarFields.wallMillis midnight zone =
              CalendarFields.wallDay instant zone * 86400000) := by
  refine ⟨?_, ?_⟩
  · intro pattern format after compiled
    obtain ⟨-, -, -, tokens, known, made⟩ := compiledFrom faithful compiled
    refine ⟨format.reader.placeYear_bijOn, format.reader.placeYear_emod, tokens, known, ?_⟩
    -- Holding a number to its width does not change what becomes of it.
    obtain ⟨steps, bounds, each⟩ := made.steps
    rw [bounds]
    have placed : List.Forall₂ (fun token step => ∀ letter width field maxWidth,
        token = .letters letter width → (letter, field) ∈ Token.yearLetters → width ≤ 2 →
        format.reader.PlacesYears { step with maxWidth } field) tokens
        (ReadStep.bounded steps) := by
      refine ReadStep.forall₂_bounded (fun _ _ _ every => every) (each.imp ?_)
      rintro _ step own letter width field maxWidth rfl listed short
      exact own.placesYears listed short maxWidth format.reader
    exact placed.imp fun token step every letter width field =>
      every letter width field step.maxWidth
  · intro pattern short
    obtain ⟨format, mark, compiled, rfl, -, has⟩ :=
      exists_hasShortDates short zone locale centuryStart before
    exact ⟨format, before, compiled, fun gregorian formed constant instant date shown =>
      has.readAt_midnight gregorian formed constant shown⟩

/-- In Kolkata a day of 2024 is read back in the window from 1950 on, with dashes and without. -/
theorem readAt_render_shortDate_kolkata :
    let instant : Instant := ⟨1710498600, 0⟩
    ∀ pattern ∈ ["yy-MM-dd", "yyMMdd"], ∃ format after,
      compile pattern (.fixed 19800000) .americanEnglish (some ⟨-618105600, 0⟩)
        FormatCache.builtin.registry = .ok format after ∧
      format.reader.windowStart = 1950 ∧
      (format.reader.readAt (format.render instant) ⟨0, none⟩).1 = some ⟨1710441000, 0⟩ := by
  -- Both patterns compile, and the window that is given begins with the year 1950.
  intro instant pattern short
  have faithful : FormatCache.builtin.registry.Faithful := Registry.faithful_new rfl rfl
  obtain ⟨format, after, compiled, back⟩ := (readAt_render_shortDate faithful (.fixed 19800000)
    .americanEnglish (some ⟨-618105600, 0⟩)).2 pattern short
  have facts : format.reader.windowStart = 1950 ∧ format.calendar.system = .gregorian := by
    simp only [List.mem_cons, List.not_mem_nil, or_false] at short
    rcases short with rfl | rfl <;> cases compiled <;> decide +kernel
  obtain ⟨window, gregorian⟩ := facts
  have shown : Date.ofDay (CalendarFields.wallDay instant (.fixed 19800000)) = ⟨2024, 3, 15⟩ := by
    decide +kernel
  obtain ⟨midnight, read, exactly, -⟩ := back gregorian (by decide) (.inr ⟨_, rfl⟩) instant _ shown
    (by decide) (by rw [window]; decide) (by rw [window]; decide)
  have moment : Instant.ofMillis (CalendarFields.wallDay instant (.fixed 19800000) * 86400000 -
      (Zone.fixed 19800000).offsetAt instant.millis) = ⟨1710441000, 0⟩ := by decide +kernel
  exact ⟨format, after, compiled, window, by rw [read, exactly, moment]⟩

end Format

end DatePattern
