import DatePattern.Proofs.Calendar.Resolve
import DatePattern.Proofs.Reading.Findings
import DatePattern.Proofs.Zone.FirstShown

/-! Resolving what a text told: the instant that it was written for, up to the places written. -/

namespace DatePattern

/-- An instant with the nanoseconds cut off after some places. -/
def Instant.cutOff (instant : Instant) (places : Nat) : Instant :=
  ⟨instant.second, leadingNanos instant.nano places⟩

/-- Nanoseconds past a whole millisecond make an instant, as long as they stay in the second. -/
theorem Instant.addNanos?_ofMillis {second part : Int} (low : 0 ≤ part) (high : part < 1000)
    (fits : Count.Fits second) {nanos : Nat} (small : part.toNat * 1000000 + nanos < 1000000000) :
    (ofMillis (second * 1000 + part)).addNanos? nanos =
      some ⟨second, part.toNat * 1000000 + nanos⟩ := by
  -- The count of the sum is that of the instant, and nothing is carried over.
  have counted : (second * 1000 + part) * 1000000 + (nanos : Int) =
      Instant.nanos ⟨second, part.toNat * 1000000 + nanos⟩ := by
    simp only [Instant.nanos]
    omega
  have both : Count.Fits ((ofMillis (second * 1000 + part)).nano + nanos) ∧
      Count.Fits (((second * 1000 + part) * 1000000 + nanos) / 1000000000) := by
    simp only [Count.Fits, Count.least, Count.greatest, ofMillis] at fits ⊢
    omega
  rw [addNanos?_eq, nanos_ofMillis, if_pos both, counted, ofNanos_nanos small]

namespace Token

/-- The widths of a letter among some tokens. -/
def widthsOf (letter : Char) (tokens : List Token) : List Nat :=
  tokens.filterMap fun
    | .literal _ => none
    | .letters other width => if other = letter then some width else none

/-- A letter has a width where it stands at that width. -/
@[simp] theorem mem_widthsOf {letter : Char} {width : Nat} {tokens : List Token} :
    width ∈ widthsOf letter tokens ↔ .letters letter width ∈ tokens := by
  -- Tokens of other letters and literal text are filtered out.
  rw [widthsOf, List.mem_filterMap]
  constructor
  · rintro ⟨token, listed, same⟩
    cases token with
    | literal text => cases same
    | letters other size =>
      simp only [Option.ite_none_right_eq_some, Option.some.injEq] at same
      obtain ⟨rfl, rfl⟩ := same
      exact listed
  · intro listed
    exact ⟨_, listed, if_pos rfl⟩

/-- A letter stands among some tokens, at some width. -/
def HasLetter (letter : Char) (tokens : List Token) : Prop := widthsOf letter tokens ≠ []

instance (letter : Char) (tokens : List Token) : Decidable (HasLetter letter tokens) :=
  inferInstanceAs (Decidable (_ ≠ _))

/-- A letter stands among tokens if one of them is made of it. -/
theorem hasLetter_iff {letter : Char} {tokens : List Token} :
    HasLetter letter tokens ↔ ∃ width, .letters letter width ∈ tokens := by
  -- The letter has some width in the list.
  constructor
  · intro has
    obtain ⟨width, among⟩ := List.exists_mem_of_ne_nil _ has
    exact ⟨width, mem_widthsOf.mp among⟩
  · rintro ⟨width, listed⟩
    exact List.ne_nil_of_mem (mem_widthsOf.mpr listed)

/-- The places of the nanoseconds that tokens write, as milliseconds or as a fraction. -/
def places (tokens : List Token) : Nat :=
  if HasLetter 'S' tokens then 3 else (widthsOf 'n' tokens).headD 0

/-- Tokens that give the date by its year, month and day, and the time of day. -/
structure Complete (tokens : List Token) : Prop where
  /-- The year is given. -/
  year : HasLetter 'y' tokens
  /-- The month is given, by its number or by its name. -/
  month : HasLetter 'M' tokens
  /-- The day of the month is given. -/
  day : HasLetter 'd' tokens
  /-- The hour of the day is given, or the hour and the half of the day. -/
  hour : HasLetter 'H' tokens ∨ HasLetter 'k' tokens ∨
    (HasLetter 'h' tokens ∨ HasLetter 'K' tokens) ∧ HasLetter 'a' tokens
  /-- The minute is given. -/
  minute : HasLetter 'm' tokens
  /-- The second is given. -/
  second : HasLetter 's' tokens
  /-- A fraction of the second is given at one width only, and not beside the milliseconds. -/
  fraction : ∀ width ∈ widthsOf 'n' tokens, width = places tokens ∧ ¬HasLetter 'S' tokens

instance (tokens : List Token) : Decidable (Complete tokens) :=
  decidable_of_iff
    (HasLetter 'y' tokens ∧ HasLetter 'M' tokens ∧ HasLetter 'd' tokens ∧
      (HasLetter 'H' tokens ∨ HasLetter 'k' tokens ∨
        (HasLetter 'h' tokens ∨ HasLetter 'K' tokens) ∧ HasLetter 'a' tokens) ∧
      HasLetter 'm' tokens ∧ HasLetter 's' tokens ∧
      ∀ width ∈ widthsOf 'n' tokens, width = places tokens ∧ ¬HasLetter 'S' tokens)
    ⟨fun ⟨year, month, day, hour, minute, second, fraction⟩ =>
        ⟨year, month, day, hour, minute, second, fraction⟩,
      fun ⟨year, month, day, hour, minute, second, fraction⟩ =>
        ⟨year, month, day, hour, minute, second, fraction⟩⟩

/-- A letter that stands for a field at every width writes it. -/
theorem writes_of_hasLetter {letter : Char} {tokens : List Token} {field : Field}
    (has : HasLetter letter tokens)
    (named : ∀ width, (letters letter width).field? = some field) : writes field tokens = true := by
  -- One token of the letter is enough, whatever its width is.
  obtain ⟨width, listed⟩ := hasLetter_iff.mp has
  rw [writes, List.any_eq_true]
  exact ⟨_, listed, by rw [named, beq_self_eq_true]⟩

/-- A month is written by its number or by its name, according to its width. -/
theorem field?_month (width : Nat) : (letters 'M' width).field? = some .month := by
  -- A narrow month is a number, and a wide one is a name.
  by_cases wide : 3 ≤ width <;> simp [field?, numberField?, nameField?, wide]

/-- A field other than the month is written by the letters that are listed with it. -/
theorem exists_letter {tokens : List Token} {field : Field} (notMonth : field ≠ .month)
    (written : writes field tokens = true) :
    ∃ entry ∈ plainFields ++ shiftedFields ++ nameFields,
      entry.2 = field ∧ HasLetter entry.1 tokens := by
  -- The token that writes the field is not literal text.
  rw [writes, List.any_eq_true] at written
  obtain ⟨token, listed, here⟩ := written
  rw [beq_iff_eq] at here
  cases token with
  | literal text => cases here
  | letters letter width =>
    refine ⟨(letter, field), ?_, rfl, hasLetter_iff.mpr ⟨width, listed⟩⟩
    -- The letter is in the table of its kind, where a number has a plain or a shifted one.
    rcases Option.or_eq_some_iff.mp here with number | ⟨-, name⟩
    · rcases numberField?_cases number with ⟨-, -, month⟩ | among
      · exact absurd month notMonth
      · exact List.mem_append_left _ among
    · rcases nameField?_cases name with ⟨-, -, month⟩ | among
      · exact absurd month notMonth
      · exact List.mem_append_right _ among

/-- Nanoseconds are written by the letter n only. -/
theorem hasLetter_of_writes_nanos {tokens : List Token}
    (written : writes .nanoOfSecond tokens = true) : HasLetter 'n' tokens := by
  -- The tables of letters are searched for the field.
  obtain ⟨entry, listed, same, has⟩ := exists_letter (by decide) written
  have only : ∀ entry ∈ plainFields ++ shiftedFields ++ nameFields,
      entry.2 = .nanoOfSecond → entry.1 = 'n' := by decide
  rwa [only entry listed same] at has

/-- Milliseconds are written by the letter S only. -/
theorem hasLetter_of_writes_millis {tokens : List Token}
    (written : writes .millisecond tokens = true) : HasLetter 'S' tokens := by
  -- The tables of letters are searched for the field.
  obtain ⟨entry, listed, same, has⟩ := exists_letter (by decide) written
  have only : ∀ entry ∈ plainFields ++ shiftedFields ++ nameFields,
      entry.2 = .millisecond → entry.1 = 'S' := by decide
  rwa [only entry listed same] at has

end Token

namespace Collected

/-- Exactly what some tokens write for some fields is known, up to the places that they write. -/
structure Knows (fields : CalendarFields) (tokens : List Token) (collected : Collected) :
    Prop where
  /-- The fields that are written are known, but for the week year. -/
  value : ∀ field, field ≠ .weekYear → collected.value? field =
    if Token.writes field tokens then some ((fields.cutOff (Token.places tokens)).get field)
    else none
  /-- A zone of the offset is known where the offset is written. -/
  zone : Token.writesOffset tokens = false ∧ collected.zone? = none ∨
    Token.writesOffset tokens = true ∧
      ∃ zone, collected.zone? = some zone ∧ HasOffset fields zone

variable {fields : CalendarFields} {tokens : List Token} {collected : Collected}

/-- What complete tokens tell is what is known in the end. -/
theorem knows_addAll {founds : List (List Finding)}
    (tell : List.Forall₂ (Token.Tells fields) tokens founds) (complete : Token.Complete tokens) :
    Knows fields tokens (empty.addAll founds.flatten) :=
  -- All fractions have the width of the places, since tokens are complete with one width only.
  ⟨fun _ kept => value?_addAll tell (fun width listed =>
      (complete.fraction width (Token.mem_widthsOf.mpr listed)).1)
    kept .empty, zone?_addAll tell .empty⟩

/-- A field that is written in full is known by its value. -/
theorem Knows.written (knows : Knows fields tokens collected) {field : Field}
    (written : Token.writes field tokens = true)
    (full : field ≠ .weekYear ∧ field ≠ .nanoOfSecond) :
    collected.value? field = some (fields.get field) := by
  -- Cutting off touches the nanoseconds alone.
  rw [knows.value field full.1, if_pos written, fields.get_cutOff _ full.2]

/-- A field that a letter writes in full is known by its value. -/
theorem Knows.of_hasLetter (knows : Knows fields tokens collected) {letter : Char} {field : Field}
    (has : Token.HasLetter letter tokens)
    (named : ∀ width, (Token.letters letter width).field? = some field)
    (full : field ≠ .weekYear ∧ field ≠ .nanoOfSecond) :
    collected.value? field = some (fields.get field) :=
  -- A letter that stands among the tokens writes its field.
  knows.written (Token.writes_of_hasLetter has named) full

/-- The hour of the day is known, by itself or by the half of the day. -/
theorem Knows.hourOfDay (knows : Knows fields tokens collected) (complete : Token.Complete tokens)
    (halves : fields.hour + fields.amPm * 12 = fields.hourOfDay) (ranges : fields.InRange) :
    collected.hourOfDay? = some fields.hourOfDay := by
  -- The hour of the day counts first where it is known.
  by_cases written : Token.writes .hourOfDay tokens = true
  · simp only [hourOfDay?, knows.written written (by decide), CalendarFields.get]
  -- Otherwise the hour of the half day and the half itself are given, and are put together.
  have unknown : collected.value? .hourOfDay = none := by
    rw [knows.value .hourOfDay (by decide), if_neg written]
  rcases complete.hour with has | has | ⟨hour, half⟩
  · exact absurd (Token.writes_of_hasLetter has fun _ => rfl) written
  · exact absurd (Token.writes_of_hasLetter has fun _ => rfl) written
  · have hourKnown : collected.value? .hour = some fields.hour := by
      rcases hour with has | has
      · exact knows.of_hasLetter has (fun _ => rfl) (by decide)
      · exact knows.of_hasLetter has (fun _ => rfl) (by decide)
    have halfKnown : collected.value? .amPm = some fields.amPm :=
      knows.of_hasLetter half (fun _ => rfl) (by decide)
    have noon := ranges.amPm
    have whole := ranges.hourOfDay
    have noonFits : Count.Fits (fields.amPm * 12) := Count.fits_of_natAbs_le (by omega)
    have wholeFits : Count.Fits fields.hourOfDay := Count.fits_of_natAbs_le (by omega)
    simp only [hourOfDay?, unknown, valueD, hourKnown, halfKnown, Option.getD_some,
      Option.bind_eq_bind, Count.within?_of_fits noonFits, Option.bind_some, halves,
      Count.within?_of_fits wholeFits]

/-- The time of day is known, up to the milliseconds that are. -/
theorem Knows.time (knows : Knows fields tokens collected) (complete : Token.Complete tokens)
    (halves : fields.hour + fields.amPm * 12 = fields.hourOfDay) (ranges : fields.InRange)
    (part : 0 ≤ collected.valueD .millisecond 0 ∧ collected.valueD .millisecond 0 < 1000) :
    collected.time? = some (fields.hourOfDay * 3600000 + fields.minute * 60000 +
      fields.second * 1000 + collected.valueD .millisecond 0) := by
  -- Minutes and seconds have one letter each, so their defaults do not matter.
  have minute : collected.valueD .minute 0 = fields.minute := by
    rw [valueD, knows.of_hasLetter complete.minute (fun _ => rfl) (by decide)]
    rfl
  have second : collected.valueD .second 0 = fields.second := by
    rw [valueD, knows.of_hasLetter complete.second (fun _ => rfl) (by decide)]
    rfl
  have hours := ranges.hourOfDay
  have minutes := ranges.minute
  have seconds := ranges.second
  exact time?_eq (knows.hourOfDay complete halves ranges) minute second rfl (by omega) (by omega)
    (by omega) part

section Instants

variable {instant : Instant} {zone : Zone} {calendar : Calendar}

/-- Milliseconds and nanoseconds that are known make up the places that were written. -/
theorem Knows.fraction
    (knows : Knows (CalendarFields.ofInstant instant zone calendar) tokens collected)
    (complete : Token.Complete tokens) (nano : instant.nano < 1000000000)
    (millis : (CalendarFields.ofInstant instant zone calendar).millisecond =
      (instant.nano / 1000000 : Nat)) :
    ∃ part nanos : Nat, collected.valueD .millisecond 0 = part ∧ collected.nanos = nanos ∧
      part ≤ instant.nano / 1000000 ∧
      part * 1000000 + nanos = Instant.leadingNanos instant.nano (Token.places tokens) := by
  have small : Instant.leadingNanos instant.nano (Token.places tokens) ≤ instant.nano :=
    Nat.div_mul_le_self _ _
  -- Nanoseconds are told cut off, and count as none where they are not told.
  have nanosIs : Token.writes .nanoOfSecond tokens = true → collected.nanos =
      (Instant.leadingNanos instant.nano (Token.places tokens) : Nat) := by
    intro written
    have known := knows.value .nanoOfSecond (by decide)
    rw [if_pos written] at known
    have value : collected.valueD .nanoOfSecond 0 =
        (Instant.leadingNanos instant.nano (Token.places tokens) : Nat) := by
      rw [valueD, known]
      rfl
    rw [nanos, value]
    omega
  have noNanos : ¬Token.writes .nanoOfSecond tokens = true → collected.nanos = 0 := by
    intro unwritten
    rw [nanos, valueD, knows.value .nanoOfSecond (by decide), if_neg unwritten]
    rfl
  by_cases millisWritten : Token.writes .millisecond tokens = true
  · -- Three places are written as milliseconds.
    have has := Token.hasLetter_of_writes_millis millisWritten
    have notNanos : ¬Token.HasLetter 'n' tokens := by
      intro nanos
      obtain ⟨width, among⟩ := List.exists_mem_of_ne_nil _ nanos
      exact (complete.fraction width among).2 has
    have value : collected.valueD .millisecond 0 = (instant.nano / 1000000 : Nat) := by
      rw [valueD, knows.written millisWritten (by decide), Option.getD_some, ← millis]
      rfl
    refine ⟨_, 0, value, noNanos fun written => notNanos
      (Token.hasLetter_of_writes_nanos written), Nat.le_refl _, ?_⟩
    have million : Digits.power (9 - 3) = 1000000 := by decide
    rw [Token.places, if_pos has, Instant.leadingNanos, million, Nat.add_zero]
  · have noMillis : collected.valueD .millisecond 0 = (0 : Nat) := by
      rw [valueD, knows.value .millisecond (by decide), if_neg millisWritten]
      rfl
    -- Without milliseconds all places are those of the nanoseconds, if there are any.
    by_cases nanosWritten : Token.writes .nanoOfSecond tokens = true
    · exact ⟨0, _, noMillis, nanosIs nanosWritten, Nat.zero_le _, by omega⟩
    · refine ⟨0, 0, noMillis, noNanos nanosWritten, Nat.zero_le _, ?_⟩
      have noLetter : ¬Token.HasLetter 'S' tokens := fun has =>
        millisWritten (Token.writes_of_hasLetter has fun _ => rfl)
      have noWidth : Token.widthsOf 'n' tokens = [] := Decidable.not_not.mp fun has =>
        nanosWritten (Token.writes_of_hasLetter has fun _ => rfl)
      have places : Token.places tokens = 0 := by
        rw [Token.places, if_neg noLetter, noWidth, List.headD_nil]
      have whole : instant.nano / Digits.power (9 - 0) = 0 := Nat.div_eq_of_lt nano
      rw [places, Instant.leadingNanos, whole, Nat.zero_mul, Nat.zero_mul]

/-- The date that is known is that of the wall clock. -/
theorem Knows.date
    (knows : Knows (CalendarFields.ofInstant instant zone calendar) tokens collected)
    (complete : Token.Complete tokens)
    (small : (CalendarFields.wallDay instant zone).natAbs ≤ 200000000000) :
    collected.yearOfEra = calendar.countedInEra (CalendarFields.wallDay instant zone)
        (Date.ofDay (CalendarFields.wallDay instant zone)).year
        (Date.ofDay (CalendarFields.wallDay instant zone)).year ∧
      collected.valueD .month 0 = (Date.ofDay (CalendarFields.wallDay instant zone)).month - 1 ∧
      collected.day? calendar.weeks (Date.ofDay (CalendarFields.wallDay instant zone)).year
        (Date.toDay ⟨(Date.ofDay (CalendarFields.wallDay instant zone)).year,
          collected.valueD .month 0 + 1, 1⟩) = some (CalendarFields.wallDay instant zone) := by
  -- Year, month and day of the month are among the letters of complete tokens.
  have year : collected.value? .year = some
      (CalendarFields.ofInstant instant zone calendar).year :=
    knows.of_hasLetter complete.year (fun _ => rfl) (by decide)
  have month : collected.valueD .month 0 =
      (Date.ofDay (CalendarFields.wallDay instant zone)).month - 1 := by
    rw [valueD, knows.of_hasLetter complete.month Token.field?_month (by decide)]
    rfl
  have dayOfMonth : collected.value? .dayOfMonth = some
      (CalendarFields.ofInstant instant zone calendar).dayOfMonth :=
    knows.of_hasLetter complete.day (fun _ => rfl) (by decide)
  -- A known day of the month means that weeks are not counted.
  have plain : collected.isWeekDate = false := by
    rw [isWeekDate, dayOfMonth]
    rfl
  have bounds := Date.day_ofDay (CalendarFields.wallDay instant zone)
  refine ⟨?_, month, ?_⟩
  · rw [yearOfEra_eq_year plain year, CalendarFields.year_ofInstant, Calendar.eraYears_eq]
  · -- The day of the month is counted from the first day of the month.
    rw [day?_of_dayOfMonth dayOfMonth, CalendarFields.dayOfMonth_ofInstant, month,
      Int.sub_add_cancel, Date.monthStart_ofDay, daysAfter?_eq (by omega) (by omega)]
    congr 1
    omega

/-- The moment that is known is the first one with the reading, or the one of the offset. -/
theorem Knows.moment
    (knows : Knows (CalendarFields.ofInstant instant zone calendar) tokens collected)
    (formed : zone.WellFormed) (settled : zone.Settled) (nano : instant.nano < 1000000000)
    (inside : Count.DayInside instant.millis)
    (civil : Token.writesOffset tokens = false → ∀ place, zone = .region place →
      Zone.clampCivil (CalendarFields.exactWall instant zone) =
        CalendarFields.exactWall instant zone) :
    ∃ first : Instant, (Token.writesOffset tokens = true → first = instant) ∧
      (Token.writesOffset tokens = false → zone.ShowsFirst instant first) ∧
      first.nano = instant.nano ∧ Count.Fits first.second ∧
      ∀ part : Int, 0 ≤ part → part ≤ (instant.nano / 1000000 : Nat) →
        collected.moment? zone (CalendarFields.exactWall instant zone -
          (instant.nano / 1000000 : Nat) + part) = some (first.second * 1000 + part) := by
  -- The offset is among the tokens or it is not, which decides how the reading leads to a moment.
  have millis := Instant.millis_eq nano inside
  have unknown : collected.value? .zoneOffset = none := by
    rw [knows.value .zoneOffset (by decide), Token.writes_zoneOffset, if_neg Bool.false_ne_true]
  simp only [Count.DayInside, Count.least, Count.greatest] at inside
  have secondFits : Count.Fits instant.second := Count.fits_of_natAbs_le (by omega)
  rcases knows.zone with ⟨unwritten, noZone⟩ | ⟨written, known, zoneIs, offset⟩
  · -- Without an offset the reading is looked up in the zone of the reader.
    obtain ⟨first, shows, firstFits, read⟩ := Zone.exists_showsFirst formed settled nano
      (by simpa only [Count.DayInside, Count.least, Count.greatest] using inside) (civil unwritten)
    refine ⟨first, ?_, fun _ => shows, shows.nano, firstFits, ?_⟩
    · rw [unwritten]
      exact fun impossible => absurd impossible Bool.false_ne_true
    · intro part low high
      rw [moment?, unknown, noZone]
      exact read part low high
  · -- The offset that was written leads back to the instant itself.
    refine ⟨instant, fun _ => rfl, ?_, rfl, secondFits, ?_⟩
    · rw [written]
      exact fun impossible => absurd impossible.symm Bool.false_ne_true
    · intro part low high
      have back : CalendarFields.exactWall instant zone - (instant.nano / 1000000 : Nat) + part -
          zone.offsetAt instant.millis = instant.second * 1000 + part := by
        rw [CalendarFields.exactWall]
        omega
      rw [moment?, unknown, zoneIs]
      rcases offset with ⟨rfl, zero⟩ | rfl
      · rw [CalendarFields.offset_ofInstant] at zero
        rw [zero, Int.sub_zero] at back
        simp only [Option.getD_some, Zone.ofWall?, back]
      · have fits : Count.Fits (instant.second * 1000 + part) := Count.fits_of_natAbs_le (by omega)
        simp only [Option.getD_some, Zone.ofWall?, CalendarFields.offset_ofInstant, back,
          Count.within?_of_fits fits]

/-- The Gregorian year that is known is that of the wall clock, once the era is known or presumed. -/
theorem Knows.gregorianYear
    (knows : Knows (CalendarFields.ofInstant instant zone calendar) tokens collected)
    (complete : Token.Complete tokens)
    (small : (CalendarFields.wallDay instant zone).natAbs ≤ 200000000000)
    (era : Token.HasLetter 'G' tokens ∨
      (CalendarFields.ofInstant instant zone calendar).era = calendar.system.presumedEra) :
    collected.gregorianYear? calendar.system =
        some (Date.ofDay (CalendarFields.wallDay instant zone)).year ∧
      (Date.ofDay (CalendarFields.wallDay instant zone)).year.natAbs ≤ greatestYear := by
  -- The year is counted in the era of the wall clock, and so it is counted back from there.
  have near := Date.year_ofDay_small small
  have yearSmall : (Date.ofDay (CalendarFields.wallDay instant zone)).year.natAbs ≤
      greatestYear := by
    simp only [greatestYear]
    omega
  have eraKnown : collected.valueD .era calendar.system.presumedEra =
      calendar.eraOf (CalendarFields.wallDay instant zone)
        (Date.ofDay (CalendarFields.wallDay instant zone)).year := by
    have own : (CalendarFields.ofInstant instant zone calendar).era =
        calendar.eraOf (CalendarFields.wallDay instant zone)
          (Date.ofDay (CalendarFields.wallDay instant zone)).year := by
      rw [CalendarFields.era_ofInstant, Calendar.eraYears_eq]
    rw [← own, valueD, knows.value .era (by decide)]
    by_cases written : Token.writes .era tokens = true
    · rw [if_pos written]
      rfl
    · -- An era that is not written is the one that is meant without any.
      rw [if_neg written, Option.getD_none]
      rcases era with has | presumed
      · exact absurd (Token.writes_of_hasLetter has fun _ => rfl) written
      · exact presumed.symm
  exact ⟨gregorianYear?_eq eraKnown (knows.date complete small).1 yearSmall, yearSmall⟩

/--
What complete tokens tell of an instant resolves to it, or to the first instant that looks like it.

Only the nanoseconds past the places that were written are lost.
-/
theorem Knows.resolve
    (knows : Knows (CalendarFields.ofInstant instant zone calendar) tokens collected)
    (complete : Token.Complete tokens) (formed : zone.WellFormed) (settled : zone.Settled)
    (weeks : calendar.weeks.Valid) (whole : zone.offsetAt instant.millis % 1000 = 0)
    (nano : instant.nano < 1000000000) (inside : Count.DayInside instant.millis)
    (wallInside : Count.DayInside (CalendarFields.exactWall instant zone))
    (era : Token.HasLetter 'G' tokens ∨
      (CalendarFields.ofInstant instant zone calendar).era = calendar.system.presumedEra)
    (civil : Token.writesOffset tokens = false → ∀ place, zone = .region place →
      Zone.clampCivil (CalendarFields.exactWall instant zone) =
        CalendarFields.exactWall instant zone) :
    ∃ first : Instant, (Token.writesOffset tokens = true → first = instant) ∧
      (Token.writesOffset tokens = false → zone.ShowsFirst instant first) ∧
      collected.resolve? zone calendar = some (first.cutOff (Token.places tokens)) := by
  have ranges := CalendarFields.inRange_ofInstant instant zone weeks
  obtain ⟨halves, -⟩ := CalendarFields.halfDay_ofInstant instant zone calendar rfl
  obtain ⟨time, -⟩ := CalendarFields.time_ofInstant instant zone calendar rfl
  have wall := CalendarFields.wallMillis_eq wallInside
  have split : CalendarFields.wallDay instant zone * 86400000 +
      CalendarFields.wallMillis instant zone % 86400000 =
      CalendarFields.exactWall instant zone := by
    rw [← wall, CalendarFields.wallDay]
    omega
  have millis : (CalendarFields.ofInstant instant zone calendar).millisecond =
      (instant.nano / 1000000 : Nat) := by
    -- The offset is made of whole seconds, and so is what the instant has besides.
    have own := Instant.millis_eq nano inside
    rw [CalendarFields.millisecond_ofInstant, wall, CalendarFields.exactWall]
    omega
  -- What is known is gathered: the fraction, the moment, the time, the date and the year.
  obtain ⟨part, nanos, partIs, nanosIs, partSmall, total⟩ := knows.fraction complete nano millis
  obtain ⟨first, exactly, shown, nanoSame, firstFits, moment⟩ :=
    knows.moment formed settled nano inside civil
  simp only [Count.DayInside, Count.least, Count.greatest] at wallInside
  have small : (CalendarFields.wallDay instant zone).natAbs ≤ 200000000000 := by
    rw [CalendarFields.wallDay, wall]
    omega
  have partBounds : 0 ≤ (part : Int) ∧ (part : Int) < 1000 := by omega
  have known := knows.time complete halves ranges (by rw [partIs]; exact partBounds)
  obtain ⟨-, month, day⟩ := knows.date complete small
  obtain ⟨year, yearSmall⟩ := knows.gregorianYear complete small era
  have months := ranges.month
  rw [CalendarFields.month_ofInstant, ← month] at months
  -- The known date and time make up the reading up to the milliseconds that are known.
  have read := moment part (by omega) (by omega)
  have wallIs : CalendarFields.exactWall instant zone - (instant.nano / 1000000 : Nat) + part =
      CalendarFields.wallDay instant zone * 86400000 +
        ((CalendarFields.ofInstant instant zone calendar).hourOfDay * 3600000 +
          (CalendarFields.ofInstant instant zone calendar).minute * 60000 +
          (CalendarFields.ofInstant instant zone calendar).second * 1000 +
          collected.valueD .millisecond 0) := by
    omega
  have midnightFits : Count.Fits (CalendarFields.wallDay instant zone * 86400000) :=
    Count.fits_of_natAbs_le (by omega)
  have wallFits : Count.Fits (CalendarFields.exactWall instant zone -
      (instant.nano / 1000000 : Nat) + part) := Count.fits_of_natAbs_le (by omega)
  rw [wallIs] at read wallFits
  refine ⟨first, exactly, shown, ?_⟩
  have leading : Instant.leadingNanos instant.nano (Token.places tokens) ≤ instant.nano :=
    Nat.div_mul_le_self _ _
  rw [resolve?_eq year yearSmall ⟨months.1, by omega⟩ day known midnightFits wallFits read,
    nanosIs, Instant.addNanos?_ofMillis partBounds.1 partBounds.2 firstFits (by omega),
    Int.toNat_natCast, total, Instant.cutOff, nanoSame]

end Instants

end Collected

end DatePattern
