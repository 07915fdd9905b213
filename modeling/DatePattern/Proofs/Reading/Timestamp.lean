import DatePattern.Proofs.Reading.Marked
import DatePattern.Proofs.Reading.Resolved

/-! A date and a time of day, as numbers with marks after them: what is written, and what is read back from it. -/

namespace DatePattern

namespace Token

/-- The tokens of a date and a time of day up to the milliseconds, and of the blank after them. -/
def timestamp : List Token :=
  [.letters 'y' 4, .literal ['-'], .letters 'M' 2, .literal ['-'], .letters 'd' 2, .literal [' '],
    .letters 'H' 2, .literal [':'], .letters 'm' 2, .literal [':'], .letters 's' 2, .literal [','],
    .letters 'S' 3, .literal [' ']]

/-- The rules by which a date and a time of day are written. -/
def timestampRules : List WriteRule :=
  [.number (WriteRule.yearRule 4), .literal ['-'], .number .twoDigitMonth, .literal ['-'],
    .number (.select .dayOfMonth 2), .literal [' '], .number (.select .hourOfDay 2),
    .literal [':'], .number (.select .minute 2), .literal [':'], .number (.select .second 2),
    .literal [','], .number (.select .millisecond 3), .literal [' ']]

/-- The steps by which a date and a time of day are read. -/
def timestampSteps : List ReadStep :=
  [⟨.number .year .none, 4, 0⟩, ⟨.literal ['-'], 1, 0⟩, ⟨.number .month .month, 2, 0⟩,
    ⟨.literal ['-'], 1, 0⟩, ⟨.number .dayOfMonth .none, 2, 0⟩, ⟨.literal [' '], 1, 0⟩,
    ⟨.number .hourOfDay .none, 2, 0⟩, ⟨.literal [':'], 1, 0⟩, ⟨.number .minute .none, 2, 0⟩,
    ⟨.literal [':'], 1, 0⟩, ⟨.number .second .none, 2, 0⟩, ⟨.literal [','], 1, 0⟩,
    ⟨.number .millisecond .none, 3, 0⟩, ⟨.literal [' '], 1, 0⟩]

/-- The rules are those of the tokens, in every zone and with any symbols. -/
theorem timestamp_writable (zone : Zone) (locale : Locale) (symbols : Symbols) :
    List.Forall₂ (WriteRule.MadeFor zone locale symbols) timestamp timestampRules := by
  -- The rules are made in some registry, since no token asks for anything that differs between
  -- registries.
  let registry : Registry :=
    { defaults := ⟨zone, locale, 0⟩, localeData := .builtin, regions := [], now := 0 }
  have made : timestamp.mapM (WriteRule.ofToken zone locale symbols) registry =
      .ok timestampRules registry := rfl
  obtain ⟨-, ruled⟩ := Compiling.mapM_ok (WriteRule.keeps_ofToken zone locale symbols) made
  refine ruled.imp ?_
  rintro token rule ⟨early, late, -, made⟩
  exact ⟨early, late, made⟩

/-- The steps are those of the tokens, with any locale data. -/
theorem timestamp_readable (source : LocaleData) (locale : Locale) :
    List.Forall₂ (ReadStep.MadeFor source locale) timestamp timestampSteps := by
  -- The steps are made in a registry of the locale data, which has made nothing else.
  let registry : Registry :=
    { defaults := ⟨.utc, locale, 0⟩, localeData := source, regions := [], now := 0 }
  have made : timestamp.mapM (ReadStep.ofToken locale) registry =
      .ok timestampSteps registry := rfl
  obtain ⟨-, stepwise⟩ := Compiling.mapM_ok (ReadStep.keeps_ofToken locale) made
  refine stepwise.imp ?_
  rintro token step ⟨early, late, extended, made⟩
  exact ⟨early, late, extended.faithful (Registry.faithful_new rfl rfl), extended.localeData, made⟩

end Token

/-- A date and a time of day depend on the wall clock and the eras only. -/
theorem CalendarFields.write_timestamp_congr {instant : Instant} {zone other : Zone}
    {calendar otherCalendar : Calendar} (wall : wallMillis instant zone = wallMillis instant other)
    (system : calendar.system = otherCalendar.system) :
    Token.timestampRules.flatMap (·.write (ofInstant instant zone calendar)) =
      Token.timestampRules.flatMap (·.write (ofInstant instant other otherCalendar)) := by
  -- Both calendars count years alike, and everything else is on the wall clock.
  have year : (ofInstant instant zone calendar).year =
      (ofInstant instant other otherCalendar).year := by
    rw [year_ofInstant, year_ofInstant, wallDay, wallDay, wall, Calendar.eraYears_eq,
      Calendar.eraYears_eq]
    simp only [Calendar.countedInEra, Calendar.eraYears, system]
  have month : (ofInstant instant zone calendar).month =
      (ofInstant instant other otherCalendar).month := by
    rw [month_ofInstant, month_ofInstant, wallDay, wallDay, wall]
  have months : NumberRule.twoDigitMonth.valueIn (ofInstant instant zone calendar) =
      NumberRule.twoDigitMonth.valueIn (ofInstant instant other otherCalendar) :=
    congrArg (· + 1) month
  simp only [Token.timestampRules, List.flatMap_cons, List.flatMap_nil, WriteRule.write,
    NumberRule.write, months, NumberRule.valueIn_year, NumberRule.valueIn_select, get, year,
    dayOfMonth_ofInstant, hourOfDay_ofInstant, minute_ofInstant, second_ofInstant,
    millisecond_ofInstant, wallDay, wall]

/-- With an offset of their own, fields resolve as they do in a zone that has it at all times. -/
theorem Collected.resolve?_offsets {collected : Collected} {calendar other : Calendar}
    {day standard daylight : Int} (zone : Zone) (dayKnown : collected.value? .dayOfMonth = some day)
    (noOffset : collected.value? .zoneOffset = none) (noZone : collected.zone? = none)
    (fits : Count.Fits (standard + daylight)) (system : calendar.system = other.system) :
    (collected.addAll [.value .dstOffset daylight, .value .zoneOffset standard]).resolve? zone
        calendar = collected.resolve? (.fixed (standard + daylight)) other := by
  let offsets := (collected.set .dstOffset daylight).set .zoneOffset standard
  -- Only the offsets are new, so that the date and the time of day are the same.
  have kept : ∀ field, field ≠ .dstOffset → field ≠ .zoneOffset →
      offsets.value? field = collected.value? field := by
    intro field notDaylight notStandard
    rw [value?_set_of_ne _ _ notStandard, value?_set_of_ne _ _ notDaylight]
  have valueD : ∀ field, field ≠ .dstOffset → field ≠ .zoneOffset → ∀ default,
      offsets.valueD field default = collected.valueD field default := by
    intro field notDaylight notStandard default
    rw [Collected.valueD, Collected.valueD, kept field notDaylight notStandard]
  have counted : offsets.yearOfEra = collected.yearOfEra := by
    unfold yearOfEra isWeekDate
    rw [kept .dayOfMonth (by decide) (by decide), kept .dayOfYear (by decide) (by decide),
      kept .weekOfYear (by decide) (by decide), kept .year (by decide) (by decide),
      kept .weekYear (by decide) (by decide)]
  have year : offsets.gregorianYear? calendar.system = collected.gregorianYear? other.system := by
    unfold gregorianYear?
    rw [counted, system, kept .era (by decide) (by decide), valueD .era (by decide) (by decide)]
  have time : offsets.time? = collected.time? := by
    simp only [time?, hourOfDay?, kept .hourOfDay (by decide) (by decide),
      valueD .amPm (by decide) (by decide), valueD .hour (by decide) (by decide),
      valueD .minute (by decide) (by decide), valueD .second (by decide) (by decide),
      valueD .millisecond (by decide) (by decide)]
  have dayStill : offsets.value? .dayOfMonth = some day :=
    (kept .dayOfMonth (by decide) (by decide)).trans dayKnown
  -- With its own offset the reading is moved back as a fixed zone of that offset would move it.
  have moment : ∀ wall, offsets.moment? zone wall =
      collected.moment? (.fixed (standard + daylight)) wall := by
    intro wall
    have standardKnown : offsets.value? .zoneOffset = some standard := value?_set_self ..
    have daylightKnown : offsets.valueD .dstOffset 0 = daylight := rfl
    simp only [moment?, standardKnown, daylightKnown, noOffset, noZone, Option.getD_none,
      Option.bind_eq_bind, Count.within?_of_fits fits, Option.bind_some, Zone.ofWall?]
  show offsets.resolve? zone calendar = _
  simp only [resolve?, year, valueD .month (by decide) (by decide), day?_of_dayOfMonth dayStill,
    day?_of_dayOfMonth dayKnown, time, moment, nanos,
    valueD .nanoOfSecond (by decide) (by decide)]

/-- The milliseconds are the first three places of the nanoseconds. -/
theorem Instant.cutOff_three {instant : Instant} (nano : instant.nano < 1000000000)
    (inside : Count.DayInside instant.millis) : instant.cutOff 3 = .ofMillis instant.millis := by
  -- The exact milliseconds are the second and the first three places, and an instant is made of
  -- both.
  have million : Digits.power (9 - 3) = 1000000 := by decide
  have second : (instant.second * 1000 + (instant.nano / 1000000 : Nat)) / 1000 =
      instant.second := by omega
  have part : ((instant.second * 1000 + (instant.nano / 1000000 : Nat)) % 1000).toNat =
      instant.nano / 1000000 := by omega
  rw [cutOff, leadingNanos, million, millis_eq nano inside, ofMillis, second, part]

/-- The civil range lies well inside the range of milliseconds, and so do all wall clocks there. -/
theorem Instant.dayInside_of_civil {instant : Instant} (civil : instant.InCivilRange)
    (nano : instant.nano < 1000000000) {zone : Zone}
    (small : -86400000 < zone.offsetAt instant.millis ∧ zone.offsetAt instant.millis < 86400000) :
    Count.DayInside instant.millis ∧ Count.DayInside (CalendarFields.exactWall instant zone) := by
  obtain ⟨early, late⟩ := civil
  simp only [firstCivilSecond, lastCivilSecond] at early late
  -- Civil moments are less than three hundred thousand years away from the epoch.
  have near : -9000000000000000 < instant.millis ∧ instant.millis < 9000000000000000 := by
    simp only [millis, Count.clamp, Count.least, Count.greatest]
    omega
  simp only [Count.DayInside, CalendarFields.exactWall, Count.least, Count.greatest]
  omega

section Timestamps

variable {instant : Instant}

/-- The date and the time of day are written in full in the years of the Lord. -/
theorem CalendarFields.writable_timestamp {zone : Zone} {calendar : Calendar}
    (christian : calendar.system = .gregorian) (weeks : calendar.weeks.Valid)
    (nano : instant.nano < 1000000000)
    (wallInside : Count.DayInside (exactWall instant zone)) :
    (ofInstant instant zone calendar).Writable Token.timestamp := by
  have small := year_small instant weeks wallInside
  have years := year_nonneg instant zone weeks christian
  -- There is no week year and no offset among the tokens, so nothing is asked of them.
  have noWeekYear : ∀ token ∈ Token.timestamp, token.numberField? ≠ some .weekYear := by decide
  have noOffset : ∀ token ∈ Token.timestamp, token.offsetForm? = none := by decide
  refine ⟨inRange_ofInstant instant zone weeks, ?_, ?_, ?_, ?_⟩
  · intro _
    omega
  · rintro ⟨token, listed, written⟩
    exact absurd written (noWeekYear token listed)
  · rw [nanoOfSecond_ofInstant]
    omega
  · intro token listed form written
    rw [noOffset token listed] at written
    cases written

/-- A date and a time of day are read, whatever text follows, and are then known. -/
theorem Reader.readSteps_timestamp (reader : Reader) {fields : CalendarFields}
    (writable : fields.Writable Token.timestamp) (rest : List Char) :
    ∃ findings, reader.readSteps Token.timestampSteps
        (Token.timestampRules.flatMap (·.write fields) ++ rest) = (findings, .ok rest) ∧
      Collected.Knows fields Token.timestamp (Collected.empty.addAll findings) := by
  -- The rules and the steps are the same for all zones and locales.
  let source := LocaleData.builtin
  let locale := Locale.americanEnglish
  have widths : ∀ token ∈ Token.timestamp, token.HasWidth := by
    have scanned : Token.ofPattern "yyyy-MM-dd HH:mm:ss,SSS " = .ok Token.timestamp := by
      decide +kernel
    exact Token.hasWidth_ofPattern scanned
  obtain ⟨founds, read, tell⟩ := reader.readSteps_marked
    (Token.timestamp_writable .utc locale (source.symbols locale))
    (Token.timestamp_readable source locale) (by decide) widths writable (by decide) rest
  exact ⟨founds.flatten, read, Collected.knows_addAll tell (by decide)⟩

/-- With the offset for which they were written, a date and a time of day resolve to the milliseconds. -/
theorem Collected.Knows.resolve_timestamp {offset : Int} {calendar : Calendar}
    {collected : Collected}
    (knows : Knows (CalendarFields.ofInstant instant (.fixed offset) calendar) Token.timestamp
      collected)
    (christian : calendar.system = .gregorian) (weeks : calendar.weeks.Valid)
    (nano : instant.nano < 1000000000) (inside : Count.DayInside instant.millis)
    (wallInside : Count.DayInside (CalendarFields.exactWall instant (.fixed offset)))
    (formed : (Zone.fixed offset).WellFormed) (whole : offset % 1000 = 0)
    (year : 1 ≤ (Date.ofDay (CalendarFields.wallDay instant (.fixed offset))).year) :
    collected.resolve? (.fixed offset) calendar = some (.ofMillis instant.millis) := by
  -- The general statement about what is known gives a first instant with the reading, cut off after
  -- three places.
  have constant : ∀ millis, (Zone.fixed offset).offsetAt millis = offset :=
    fun _ => Int.add_zero offset
  have era : (CalendarFields.ofInstant instant (.fixed offset) calendar).era =
      calendar.system.presumedEra := by
    rw [CalendarFields.era_ofInstant, Calendar.eraYears, christian]
    simp only [if_pos (Int.lt_of_lt_of_le Int.one_pos year), CalendarSystem.presumedEra]
  obtain ⟨first, -, shown, resolved⟩ := knows.resolve (by decide) formed trivial weeks
    (by rw [constant]; exact whole) nano inside wallInside (.inr era)
    (fun _ _ region => by cases region)
  -- No other instant looks the same where the offset is constant.
  have own := (shown (by decide)).eq_self (Zone.showsFirst_of_constant offset constant instant)
    nano inside
  have places : Token.places Token.timestamp = 3 := by decide
  rw [resolved, own, places, Instant.cutOff_three nano inside]

/-- Together with the offsets, the date and the time of day of a region lead back to the instant. -/
theorem Reader.exists_timestamp_offsets (reader : Reader) {place : Region}
    (formed : place.WellFormed) {calendar : Calendar} (christian : calendar.system = .gregorian)
    (nano : instant.nano < 1000000000) (civil : instant.InCivilRange)
    (year : 1 ≤ (Date.ofDay (CalendarFields.wallDay instant (.region place))).year)
    {offsets : Offsets} (offsetsAre : (Zone.region place).offsetsAt instant.millis = offsets)
    (rest : List Char) :
    ∃ findings, reader.readSteps Token.timestampSteps (Token.timestampRules.flatMap
          (·.write (.ofInstant instant (.region place) calendar)) ++ rest) = (findings, .ok rest) ∧
      ∀ zone, (Collected.empty.addAll (findings ++ [.value .dstOffset offsets.daylight,
        .value .zoneOffset offsets.standard])).resolve? zone calendar =
          some (.ofMillis instant.millis) := by
  -- The text is also that of a constant offset, in a calendar with some week rules.
  let steady : Zone := .fixed offsets.total
  let plain : Calendar := ⟨.gregorian, ⟨2, 4⟩⟩
  have weeks : plain.weeks.Valid := by decide
  have system : calendar.system = plain.system := christian
  have offsetIs : (Zone.region place).offsetAt instant.millis = offsets.total := by
    rw [Zone.offsetAt, offsetsAre]
  have steadyOffset : steady.offsetAt instant.millis = offsets.total := Int.add_zero _
  have small := Zone.offsetAt_region formed instant.millis
  rw [offsetIs] at small
  have whole : offsets.total % 1000 = 0 := by
    rw [← offsetsAre]
    simp only [Zone.offsetsAt, Offsets.total]
    omega
  have sameWall : CalendarFields.wallMillis instant (.region place) =
      CalendarFields.wallMillis instant steady := by
    rw [CalendarFields.wallMillis, CalendarFields.wallMillis, offsetIs, steadyOffset]
  have sameYear : 1 ≤ (Date.ofDay (CalendarFields.wallDay instant steady)).year := by
    rw [CalendarFields.wallDay, ← sameWall]
    exact year
  have steadyFormed : steady.WellFormed := by
    show -2147483648 ≤ offsets.total ∧ offsets.total ≤ 2147483647
    omega
  have offsetFits : Count.Fits (offsets.standard + offsets.daylight) := by
    show Count.Fits offsets.total
    exact Count.fits_of_natAbs_le (by omega)
  have steadySmall : -86400000 < steady.offsetAt instant.millis ∧
      steady.offsetAt instant.millis < 86400000 := by
    rw [steadyOffset]
    exact small
  obtain ⟨inside, wallInside⟩ := Instant.dayInside_of_civil civil nano steadySmall
  obtain ⟨findings, read, knows⟩ := reader.readSteps_timestamp
    (CalendarFields.writable_timestamp rfl weeks nano wallInside) rest
  refine ⟨findings, ?_, ?_⟩
  · rw [CalendarFields.write_timestamp_congr sameWall system]
    exact read
  · intro zone
    have resolved := knows.resolve_timestamp rfl weeks nano inside wallInside steadyFormed whole
      sameYear
    -- What is known has a day of the month, and neither an offset nor a zone, so that the offsets
    -- can be added.
    have dayKnown : (Collected.empty.addAll findings).value? .dayOfMonth = some _ :=
      knows.written (by decide) (by decide)
    have noOffset : (Collected.empty.addAll findings).value? .zoneOffset = none := by
      rw [knows.value .zoneOffset (by decide), if_neg (by decide)]
    have noZone : (Collected.empty.addAll findings).zone? = none := by
      rcases knows.zone with ⟨-, none⟩ | ⟨impossible, -⟩
      · exact none
      · cases impossible
    have swapped := Collected.resolve?_offsets zone dayKnown noOffset noZone offsetFits system
    rw [Collected.addAll, List.foldl_append]
    exact swapped.trans resolved

end Timestamps

end DatePattern
