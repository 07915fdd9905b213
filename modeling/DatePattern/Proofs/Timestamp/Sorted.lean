import DatePattern.Proofs.Calendar.Order
import DatePattern.Proofs.Timestamp.Refinement

/-!
Sorted timestamps: layouts that begin with the year write later times as larger texts.

Years are counted as the default locale has it, so that both times must be in one of its eras.
-/

namespace DatePattern

namespace CalendarFields

/-- How fields compare one after the other. -/
def compareBy (fields other : CalendarFields) : (order : List Field) → Ordering
  | [] => .eq
  | field :: order =>
    (compare (fields.get field) (other.get field)).then (compareBy fields other order)

/-- A single field decides by itself. -/
theorem compareBy_singleton (fields other : CalendarFields) (field : Field) :
    fields.compareBy other [field] = compare (fields.get field) (other.get field) :=
  -- What follows the last field decides nothing.
  Ordering.then_eq

/-- Fields in two parts are compared by the first part, and then by the second. -/
theorem compareBy_append (fields other : CalendarFields) (first second : List Field) :
    fields.compareBy other (first ++ second) =
      (fields.compareBy other first).then (fields.compareBy other second) := by
  -- The first field that differs decides, in whichever part it is.
  induction first with
  | nil => rfl
  | cons field first ih => rw [List.cons_append, compareBy, ih, compareBy, Ordering.then_assoc]

/-- Fields whose date is written in four digits and twice two. -/
structure EightDigits (fields : CalendarFields) : Prop where
  /-- The year has at most four digits, and no sign. -/
  year : 0 ≤ fields.year ∧ fields.year < 10000
  /-- The month runs from 0 to 11. -/
  month : 0 ≤ fields.month ∧ fields.month ≤ 11
  /-- The day of the month runs from 1 to 31. -/
  dayOfMonth : 1 ≤ fields.dayOfMonth ∧ fields.dayOfMonth ≤ 31

end CalendarFields

namespace Token

/-- The field that a token of a date writes in a fixed count of digits, if it is not literal text. -/
def fixedField? : Token → Option (Option Field)
  | .literal _ => some none
  | .letters 'y' 4 => some (some .year)
  | .letters 'M' 2 => some (some .month)
  | .letters 'd' 2 => some (some .dayOfMonth)
  | _ => none

/-- The fields that tokens write in a fixed count of digits each, if they all do or are literal text. -/
def fixedFields? : (tokens : List Token) → Option (List Field)
  | [] => some []
  | token :: tokens => do
    let field ← fixedField? token
    let fields ← fixedFields? tokens
    return field.toList ++ fields

end Token

section Dates

variable {zone : Zone} {locale : Locale} {symbols : Symbols} {fields other : CalendarFields}

/-- A piece of a fixed count of digits compares like its field. -/
theorem WriteRule.MadeFor.compares {token : Token} {rule : WriteRule}
    (made : WriteRule.MadeFor zone locale symbols token rule) {field : Option Field}
    (fixed : token.fixedField? = some field) (digits : fields.EightDigits)
    (otherDigits : other.EightDigits) :
    Text.Compares (rule.write fields) (rule.write other)
      (fields.compareBy other field.toList) := by
  obtain ⟨before, after, made⟩ := made
  have month := digits.month
  have day := digits.dayOfMonth
  have otherMonth := otherDigits.month
  have otherDay := otherDigits.dayOfMonth
  have hundred : ((Digits.power 2 : Nat) : Int) = 100 := rfl
  unfold Token.fixedField? at fixed
  split at fixed
  -- Literal text is the same on both sides.
  case h_1 verbatim =>
    cases fixed
    cases made
    exact .refl verbatim
  -- The year has four digits, and may have been padded to them.
  case h_2 =>
    cases fixed
    cases made
    rw [Option.toList_some, CalendarFields.compareBy_singleton]
    exact Digits.compares_padded (by decide) (by decide) digits.year otherDigits.year
  -- Months are written from one on, and compare as they do from zero on.
  case h_3 =>
    cases fixed
    cases made
    rw [Option.toList_some, CalendarFields.compareBy_singleton]
    show Text.Compares ((WriteRule.number .twoDigitMonth).write fields)
      ((WriteRule.number .twoDigitMonth).write other) (compare fields.month other.month)
    rw [WriteRule.write_twoDigitMonth (by omega), WriteRule.write_twoDigitMonth (by omega),
      ← compare_add_right fields.month other.month 1]
    exact Digits.compares_of_fits (by omega) (by omega)
  -- The day of the month has two digits as it is.
  case h_4 =>
    cases fixed
    cases made
    rw [Option.toList_some, CalendarFields.compareBy_singleton]
    have inside : 0 ≤ fields.get .dayOfMonth ∧ fields.get .dayOfMonth < 100 := by
      simp only [CalendarFields.get]
      omega
    have otherInside : 0 ≤ other.get .dayOfMonth ∧ other.get .dayOfMonth < 100 := by
      simp only [CalendarFields.get]
      omega
    show Text.Compares ((WriteRule.number (.twoDigit .dayOfMonth)).write fields)
      ((WriteRule.number (.twoDigit .dayOfMonth)).write other) _
    rw [WriteRule.write_twoDigit fields .dayOfMonth inside,
      WriteRule.write_twoDigit other .dayOfMonth otherInside]
    exact Digits.compares_of_fits inside otherInside
  case h_5 => cases fixed

/-- A date of pieces of fixed counts of digits compares like its fields, in the order of the pieces. -/
theorem compares_of_fixedFields? {tokens : List Token} {rules : List WriteRule}
    (made : List.Forall₂ (WriteRule.MadeFor zone locale symbols) tokens rules)
    {order : List Field} (fixed : Token.fixedFields? tokens = some order)
    (digits : fields.EightDigits) (otherDigits : other.EightDigits) :
    Text.Compares (rules.flatMap (·.write fields)) (rules.flatMap (·.write other))
      (fields.compareBy other order) := by
  -- A piece decides if it differs, and if it does not, the rest begins at the same place.
  induction made generalizing order with
  | nil =>
    cases fixed
    exact .refl []
  | @cons token rule tokens rules first _ ih =>
    simp only [Token.fixedFields?, Option.bind_eq_bind, Option.bind_eq_some_iff, Option.pure_def,
      Option.some.injEq] at fixed
    obtain ⟨field, own, later, others, rfl⟩ := fixed
    rw [List.flatMap_cons, List.flatMap_cons, CalendarFields.compareBy_append]
    exact (first.compares own digits otherDigits).append (ih others)

end Dates

namespace Layout

/-- Whether the date of a layout begins with the four digits of the year. -/
def yearFirst (layout : Layout) : Bool :=
  layout.datePattern.any fun pattern => "yyyy".toList.isPrefixOf pattern.toList

/-- If the date begins with the year, all of it is written in digits, which need no matcher. -/
theorem unmatched_of_yearFirst {layout : Layout} (listed : layout ∈ all)
    (first : layout.yearFirst = true) : ∀ token ∈ layout.dateTokens, token.isMatched = false := by
  -- Only the month of a date may be written by its name, which no layout does that begins with
  -- the year.
  have every : ∀ layout ∈ all, layout.yearFirst = true →
      ∀ token ∈ layout.dateTokens, token.isMatched = false := by
    decide +kernel
  exact every layout listed first

/-- If the date begins with the year, the month and the day of the month follow, all in fixed counts of digits. -/
theorem fixedFields?_of_yearFirst {layout : Layout} (listed : layout ∈ all)
    (first : layout.yearFirst = true) :
    ∃ pattern tokens, layout.datePattern = some pattern ∧ Token.ofPattern pattern = .ok tokens ∧
      Token.fixedFields? tokens = some [.year, .month, .dayOfMonth] := by
  -- The layouts are few enough to look at the date of each.
  have every : ∀ layout ∈ all, layout.yearFirst = true → layout.datePattern.any (fun pattern =>
      (Token.ofPattern pattern).toOption.any fun tokens =>
        Token.fixedFields? tokens == some [.year, .month, .dayOfMonth]) = true := by
    decide +kernel
  obtain ⟨pattern, dated, known⟩ := (Option.any_eq_true _ _).mp (every layout listed first)
  obtain ⟨tokens, scanned, fixed⟩ := (Option.any_eq_true _ _).mp known
  refine ⟨pattern, tokens, dated, ?_, beq_iff_eq.mp fixed⟩
  cases answer : Token.ofPattern pattern with
  | error reason =>
    rw [answer] at scanned
    cases scanned
  | ok others =>
    rw [answer] at scanned
    cases scanned
    rfl

end Layout

/-- The time of an instant in units of the last of some digits of the second, rounded down. -/
def Instant.truncated (instant : Instant) (digits : Nat) : Int :=
  (instant.second * 1000000000 + instant.nano) / (Digits.power (9 - digits) : Nat)

/-- Milliseconds far from both ends are not held at either of the two steps. -/
theorem Instant.unheld_of_small {instant : Instant} (nano : instant.nano < 1000000000)
    (small : instant.millis.natAbs < 2000000000000000) :
    Count.Fits (instant.second * 1000) ∧
      Count.Fits (instant.second * 1000 + (instant.nano / 1000000 : Nat)) := by
  -- A count that is held is larger than these milliseconds, wherever it is held.
  have second := Count.clamp_cases (instant.second * 1000)
  have sum := Count.clamp_cases
    (Count.clamp (instant.second * 1000) + (instant.nano / 1000000 : Nat))
  simp only [millis] at small
  generalize Count.clamp (instant.second * 1000) = held at *
  generalize Count.clamp (held + (instant.nano / 1000000 : Nat)) = total at *
  simp only [Count.Fits, Count.least, Count.greatest] at *
  omega

namespace CalendarFields

variable {instant other : Instant} {zone : Zone}

/-- An instant whose local year has one to four digits, in the years of the Lord. -/
def FourDigitYear (instant : Instant) (zone : Zone) : Prop :=
  1 ≤ (Date.ofDay (wallDay instant zone)).year ∧ (Date.ofDay (wallDay instant zone)).year ≤ 9999

instance (instant : Instant) (zone : Zone) : Decidable (FourDigitYear instant zone) :=
  inferInstanceAs (Decidable (_ ∧ _))

/-- The date of such an instant is written in eight digits, in every era. -/
theorem FourDigitYear.eightDigits (inside : FourDigitYear instant zone) (calendar : Calendar) :
    (ofInstant instant zone calendar).EightDigits := by
  -- An era begins in the year one at the earliest, so that its years have no more digits than
  -- the year itself.
  obtain ⟨year, atMost⟩ := inside
  obtain ⟨counted, before, within⟩ := year_eq_sub calendar year
  have dated := dated_ofInstant instant zone calendar
  exact ⟨by omega, dated.month, dated.dayOfMonth⟩

/-- Nothing about such an instant is held at the ends of the range. -/
theorem FourDigitYear.unheld (inside : FourDigitYear instant zone) (formed : zone.WellFormed)
    (nano : instant.nano < 1000000000) :
    Count.Fits (instant.second * 1000) ∧
      Count.Fits (instant.second * 1000 + (instant.nano / 1000000 : Nat)) ∧
      Count.Fits (instant.millis + zone.offsetAt instant.millis) := by
  obtain ⟨year, atMost⟩ := inside
  -- Such a year lies between two new years, which bounds the local day.
  have begun := Date.newYear_year_le (wallDay instant zone)
  have ends := Date.lt_newYear_year_succ (wallDay instant zone)
  rw [Date.newYear_eq] at begun ends
  have offset := Zone.offsetAt_bounds formed instant.millis
  -- The wall clock is far from both ends, and so are the milliseconds and the second.
  have near : -719162 ≤ wallDay instant zone ∧ wallDay instant zone < 2932897 := by
    clear offset
    omega
  clear begun ends year atMost
  have shown : (wallMillis instant zone).natAbs < 1000000000000000 := by
    simp only [wallDay] at near
    omega
  have clock : instant.millis + zone.offsetAt instant.millis = wallMillis instant zone := by
    have held := Count.clamp_cases (instant.millis + zone.offsetAt instant.millis)
    simp only [wallMillis, Count.least, Count.greatest] at held shown ⊢
    omega
  have small : instant.millis.natAbs < 2000000000000000 := by omega
  obtain ⟨second, sum⟩ := Instant.unheld_of_small nano small
  refine ⟨second, sum, ?_⟩
  rw [clock]
  exact Count.fits_clamp _

end CalendarFields

/-- The calendar of dates that are written without a locale of their own. -/
def FormatCache.calendar (cache : FormatCache) : Calendar :=
  (cache.registry.localeData.symbols cache.registry.defaults.locale).calendar

/-- A cache of the locales known by themselves and of some regions, in the Japanese of the imperial calendar and in UTC. -/
def FormatCache.imperial : FormatCache :=
  { registry :=
      { defaults := ⟨.utc, ⟨"ja", "JP", "JP"⟩, Defaults.usualLookback⟩
        localeData := .builtin
        regions := Region.sample
        now := 0 } }

/-- A cache that nothing was asked of is sound, in Japanese as in any language. -/
theorem FormatCache.sound_imperial : imperial.Sound :=
  -- Nothing is kept yet that could be wrong, neither a matcher nor a format.
  sound_new (Registry.faithful_new rfl rfl)

namespace Encoder

variable {encoder : Encoder} {layout : Layout} {zone : Zone} {digits : Option Nat}
  {cache : FormatCache}

/-- Dates of one era that begin with the year compare like the days. -/
theorem compares_dateText (made : encoder.MadeFrom layout zone digits cache)
    (listed : layout ∈ Layout.all) (first : layout.yearFirst = true) (sound : cache.Sound)
    {instant other : Instant} (inside : CalendarFields.FourDigitYear instant zone)
    (otherInside : CalendarFields.FourDigitYear other zone)
    (sameEra : (CalendarFields.ofInstant instant zone cache.calendar).era =
      (CalendarFields.ofInstant other zone cache.calendar).era) :
    Text.Compares (encoder.dateText instant) (encoder.dateText other)
      (compare (CalendarFields.wallDay instant zone) (CalendarFields.wallDay other zone)) := by
  obtain ⟨pattern, tokens, dated, scanned, fixed⟩ := Layout.fixedFields?_of_yearFirst listed first
  obtain ⟨format, dateIs⟩ : ∃ format, encoder.dateFormat = some format := by
    have date := made.date
    rw [dated] at date
    obtain ⟨format, dateIs, -⟩ := date
    exact ⟨format, dateIs⟩
  -- The format of the date was compiled from the pattern of the layout, with the calendar of the
  -- cache.
  obtain ⟨_, _, again, scannedAgain, -, -, compiled, zoneIs, localeIs⟩ :=
    made.compiledFrom listed sound dateIs
  rw [dated] at again
  cases again
  rw [scanned] at scannedAgain
  cases scannedAgain
  have calendar : format.calendar = cache.calendar := by
    rw [compiled.calendar, localeIs, FormatCache.calendar]
  have compared := compares_of_fixedFields? compiled.rules fixed
    (inside.eightDigits cache.calendar) (otherInside.eightDigits cache.calendar)
  -- Years of one era compare like those of the Lord, and months as they are counted from one.
  have month : compare (CalendarFields.ofInstant instant zone cache.calendar).month
      (CalendarFields.ofInstant other zone cache.calendar).month =
        compare (Date.ofDay (CalendarFields.wallDay instant zone)).month
          (Date.ofDay (CalendarFields.wallDay other zone)).month := by
    rw [CalendarFields.month_ofInstant, CalendarFields.month_ofInstant, Int.sub_eq_add_neg,
      Int.sub_eq_add_neg, compare_add_right]
  simp only [CalendarFields.compareBy, CalendarFields.get, month,
    CalendarFields.compare_year inside.1 otherInside.1 sameEra,
    CalendarFields.dayOfMonth_ofInstant, Ordering.then_eq, Date.compare_ofDay] at compared
  simp only [dateText, dateIs, Format.write, Format.fields, zoneIs, calendar]
  exact compared

/-- Hours, minutes and seconds are the places of the seconds of a day. -/
private theorem compare_clock (wall other : Int) :
    (compare (wall / 3600000) (other / 3600000)).then
        ((compare (wall / 60000 % 60) (other / 60000 % 60)).then
          (compare (wall / 1000 % 60) (other / 1000 % 60))) =
      compare (wall / 1000) (other / 1000) := by
  have sixty : ∀ n : Int, 0 ≤ n % 60 ∧ n % 60 < 60 := by omega
  have inMinutes : ∀ n : Int, n / 3600000 * 60 + n / 60000 % 60 = n / 60000 := by omega
  have inSeconds : ∀ n : Int, n / 60000 * 60 + n / 1000 % 60 = n / 1000 := by omega
  -- Minutes are put to the hours first, and the seconds to them after that.
  rw [← Ordering.then_assoc, compare_places (sixty _) (sixty _), inMinutes, inMinutes,
    compare_places (sixty _) (sixty _), inSeconds, inSeconds]

/-- The fraction fits into its digits, as a number that may have a sign. -/
theorem fractionOf_bounds (few : encoder.fractionDigits ≤ 9) (wall : Int) {nanos : Nat}
    (small : nanos < 1000000) :
    0 ≤ (encoder.fractionOf wall nanos : Int) ∧
      (encoder.fractionOf wall nanos : Int) < (Digits.power encoder.fractionDigits : Nat) :=
  -- It has no sign, and its digits are those of the encoder.
  ⟨Int.natCast_nonneg _, Int.ofNat_lt.mpr (fractionOf_lt few wall small)⟩

/-- Times of day compare by their seconds, and then by the fractions that are written. -/
theorem compares_writeTime (some : 1 ≤ encoder.fractionDigits) (few : encoder.fractionDigits ≤ 9)
    {wall other : Int} (inside : 0 ≤ wall ∧ wall < 86400000)
    (otherInside : 0 ≤ other ∧ other < 86400000) {nanos otherNanos : Nat} (small : nanos < 1000000)
    (otherSmall : otherNanos < 1000000) :
    Text.Compares (encoder.writeTime wall nanos) (encoder.writeTime other otherNanos)
      ((compare (wall / 1000) (other / 1000)).then
        (compare (encoder.fractionOf wall nanos : Int) (encoder.fractionOf other otherNanos))) := by
  have hundred : ((Digits.power 2 : Nat) : Int) = 100 := rfl
  -- All four numbers have as many digits in the one text as in the other.
  have hours := Digits.compares_padded (by decide : 0 < 2) (by decide)
    (by omega : 0 ≤ wall / 3600000 ∧ wall / 3600000 < (Digits.power 2 : Nat))
    (by omega : 0 ≤ other / 3600000 ∧ other / 3600000 < (Digits.power 2 : Nat))
  have minutes : Text.Compares (Digits.two (wall / 60000 % 60).toNat)
      (Digits.two (other / 60000 % 60).toNat) _ :=
    Digits.compares_of_fits (by omega) (by omega)
  have seconds : Text.Compares (Digits.two (wall / 1000 % 60).toNat)
      (Digits.two (other / 1000 % 60).toNat) _ :=
    Digits.compares_of_fits (by omega) (by omega)
  have fraction := Digits.compares_padded some (by omega) (fractionOf_bounds few wall small)
    (fractionOf_bounds few other otherSmall)
  -- The separators are the same in both texts, and decide nothing.
  have whole := hours.append ((Text.Compares.refl encoder.layout.timeSeparator.toList).append
    (minutes.append ((Text.Compares.refl encoder.layout.timeSeparator.toList).append
      (seconds.append ((Text.Compares.refl encoder.layout.fractionSeparator.toList).append
        fraction)))))
  rw [Ordering.eq_then, Ordering.eq_then, Ordering.eq_then] at whole
  rw [writeTime_eq inside.1 small, writeTime_eq otherInside.1 otherSmall, ← compare_clock,
    Ordering.then_assoc, Ordering.then_assoc]
  exact whole

/-- Readings compare by their days, the seconds of the day, and the fractions that are written. -/
theorem compare_readings (few : encoder.fractionDigits ≤ 9) (wall other : Int)
    {nanos otherNanos : Nat} (small : nanos < 1000000) (otherSmall : otherNanos < 1000000) :
    (compare (wall / 86400000) (other / 86400000)).then
        ((compare (wall % 86400000 / 1000) (other % 86400000 / 1000)).then
          (compare (encoder.fractionOf wall nanos : Int) (encoder.fractionOf other otherNanos))) =
      compare (wall / 1000 * (Digits.power encoder.fractionDigits : Nat) +
          (encoder.fractionOf wall nanos : Nat))
        (other / 1000 * (Digits.power encoder.fractionDigits : Nat) +
          (encoder.fractionOf other otherNanos : Nat)) := by
  -- Days are 86400 seconds long, so both parts of a reading are places of one number.
  have inDay : ∀ n : Int, 0 ≤ n % 86400000 / 1000 ∧ n % 86400000 / 1000 < 86400 := by omega
  have inSeconds : ∀ n : Int, n / 86400000 * 86400 + n % 86400000 / 1000 = n / 1000 := by omega
  rw [← Ordering.then_assoc, compare_places (inDay wall) (inDay other), inSeconds, inSeconds,
    compare_places (fractionOf_bounds few wall small) (fractionOf_bounds few other otherSmall)]

/-- A reading is the time in units of the last digit that is written, moved by the offset of the zone. -/
theorem reading_eq_truncated (few : encoder.fractionDigits ≤ 9) {instant : Instant}
    (nano : instant.nano < 1000000000) (formed : encoder.zone.WellFormed)
    (inside : CalendarFields.FourDigitYear instant encoder.zone) {seconds : Int}
    (offset : encoder.zone.offsetAt instant.millis = 1000 * seconds) :
    CalendarFields.wallMillis instant encoder.zone / 1000 *
          (Digits.power encoder.fractionDigits : Nat) +
        (encoder.fractionOf (CalendarFields.wallMillis instant encoder.zone)
          instant.nanoOfMilli : Nat) =
      instant.truncated encoder.fractionDigits +
        seconds * (Digits.power encoder.fractionDigits : Nat) := by
  obtain ⟨second, unheld, clock⟩ := inside.unheld formed nano
  have shown :
      CalendarFields.wallMillis instant encoder.zone / 1000 = instant.second + seconds := by
    rw [CalendarFields.wallMillis, Count.clamp_of_fits clock, offset, Instant.millis,
      Count.clamp_of_fits second, Count.clamp_of_fits unheld]
    omega
  -- The digits that are written and those left out are all nine digits of the nanoseconds.
  have nine : (1000000000 : Int) = (Digits.power encoder.fractionDigits : Nat) *
      (Digits.power (9 - encoder.fractionDigits) : Nat) := by
    rw [← Int.natCast_mul, Digits.power_mul_power_sub few]
    rfl
  have positive := Digits.power_pos (9 - encoder.fractionDigits)
  have divided : instant.truncated encoder.fractionDigits =
      instant.second * (Digits.power encoder.fractionDigits : Nat) +
        (instant.nano / Digits.power (9 - encoder.fractionDigits) : Nat) := by
    rw [Instant.truncated, nine, ← Int.mul_assoc, Int.add_comm,
      Int.add_mul_ediv_right _ _ (by omega), Int.natCast_ediv, Int.add_comm]
  rw [fraction_of_unheld nano (by omega) second unheld clock, shown, divided, Int.add_mul]
  omega

/--
After any runs, layouts that begin with the year write two times in the order of their digits.

The zone has one offset of whole seconds, both local years have up to four digits, and both times lie in one era of the
calendar of the default locale, as all years of the Lord do in the Gregorian calendar.
-/
theorem compare_write (listed : layout ∈ Layout.all) (first : layout.yearFirst = true)
    (constant : zone = .utc ∨ ∃ offset, zone = .fixed offset ∧ offset % 1000 = 0)
    (formed : zone.WellFormed) (digits : Option Nat) {cache : FormatCache} (sound : cache.Sound) :
    ∃ encoder after, ofLayout layout zone digits cache = .ok encoder after ∧
      ∀ (history otherHistory : List Instant) (instant other : Instant),
        instant.nano < 1000000000 → other.nano < 1000000000 →
        CalendarFields.FourDigitYear instant zone → CalendarFields.FourDigitYear other zone →
        (cache.calendar.system = .imperial →
          (CalendarFields.ofInstant instant zone cache.calendar).era =
            (CalendarFields.ofInstant other zone cache.calendar).era) →
        compare (Text.bytes (encoder.write (encoder.keptAfter history) instant).1)
            (Text.bytes (encoder.write (encoder.keptAfter otherHistory) other).1) =
          compare (instant.truncated encoder.fractionDigits)
            (other.truncated encoder.fractionDigits) := by
  obtain ⟨encoder, after, made⟩ := ofLayout_succeeds listed
    (Layout.unmatched_of_yearFirst listed first) zone digits sound
  refine ⟨encoder, after, made, ?_⟩
  obtain ⟨soundAfter, extended, madeFrom⟩ := ofLayout_ok sound made
  -- The cache goes on with the same locale data and defaults, and so with the same calendar.
  have calendar : after.calendar = cache.calendar := by
    rw [FormatCache.calendar, FormatCache.calendar, extended.registry.localeData,
      extended.registry.defaults]
  -- One offset of whole seconds is written alike for both, and moves neither against the other.
  obtain ⟨seconds, offset⟩ := Zone.offsetAt_of_wholeSeconds constant
  have whole : ∀ moment, zone.offsetAt moment % 1000 = 0 := by
    intro moment
    rw [offset]
    omega
  replace constant : zone = .utc ∨ ∃ offset, zone = .fixed offset :=
    constant.imp_right (Exists.imp fun _ => And.left)
  have fraction := madeFrom.fraction
  have some : 1 ≤ encoder.fractionDigits := by omega
  have few : encoder.fractionDigits ≤ 9 := by omega
  have sameZone := madeFrom.sameZone
  intro history otherHistory instant other nano otherNano inside otherInside imperial
  have sameEra : (CalendarFields.ofInstant instant zone after.calendar).era =
      (CalendarFields.ofInstant other zone after.calendar).era := by
    rw [calendar]
    -- Every year from one on is in the same era of the Gregorian calendar.
    cases system : cache.calendar.system with
    | imperial => exact imperial system
    | gregorian =>
      rw [CalendarFields.era_of_gregorian system inside.1,
        CalendarFields.era_of_gregorian system otherInside.1]
  -- The date, the time of day and the offset have the same lengths in both texts.
  have date := compares_dateText madeFrom listed first soundAfter inside otherInside sameEra
  have time := compares_writeTime some few
    (by omega : 0 ≤ CalendarFields.wallMillis instant zone % 86400000 ∧
      CalendarFields.wallMillis instant zone % 86400000 < 86400000)
    (by omega : 0 ≤ CalendarFields.wallMillis other zone % 86400000 ∧
      CalendarFields.wallMillis other zone % 86400000 < 86400000)
    instant.nanoOfMilli_lt other.nanoOfMilli_lt
  have offsets : encoder.offsetText instant.millis = encoder.offsetText other.millis := by
    simp only [offsetText, sameZone, offset]
  have text := (date.append (time.append (.refl (encoder.offsetText other.millis)))).order
  rw [write_of_constant madeFrom listed soundAfter constant whole history
      (inside.unheld formed nano).1,
    write_of_constant madeFrom listed soundAfter constant whole otherHistory
      (otherInside.unheld formed otherNano).1, offsets, text, Ordering.then_eq,
    fractionOf_emod_day, fractionOf_emod_day, CalendarFields.wallDay, CalendarFields.wallDay,
    compare_readings few _ _ instant.nanoOfMilli_lt other.nanoOfMilli_lt]
  subst sameZone
  -- Both readings are those of the instants, moved by the one offset of the zone.
  rw [reading_eq_truncated few nano formed inside (offset _),
    reading_eq_truncated few otherNano formed otherInside (offset _), compare_add_right]

/-- The last nanosecond before 1970 is written before the first one after it, in one imperial era. -/
theorem compare_write_1970 :
    ∃ encoder after, ofLayout Layout.default (.fixed (-34200000)) (some 9) FormatCache.imperial =
        .ok encoder after ∧
      compare (Text.bytes (encoder.write (encoder.keptAfter [.epoch]) ⟨-1, 999999999⟩).1)
        (Text.bytes (encoder.write (encoder.keptAfter []) ⟨0, 0⟩).1) = .lt := by
  obtain ⟨encoder, after, made, ordered⟩ := compare_write
    (show Layout.default ∈ Layout.all by decide) (by decide)
    (.inr ⟨-34200000, rfl, by decide⟩) (by decide) (some 9) FormatCache.sound_imperial
  refine ⟨encoder, after, made, ?_⟩
  have fraction : encoder.fractionDigits = 9 :=
    (ofLayout_ok FormatCache.sound_imperial made).2.2.fraction
  -- Nanoseconds are not cut off, and the former instant has one less of them.
  rw [ordered [.epoch] [] ⟨-1, 999999999⟩ ⟨0, 0⟩ (by decide) (by decide) (by decide +kernel)
    (by decide +kernel) (fun _ => by decide +kernel), fraction]
  decide +kernel

/-- The first of May 2019 began an era, whose first year is written before year 31 of the era that ended. -/
theorem compare_write_newEra :
    ∃ encoder after, Layout.default ∈ Layout.all ∧ Layout.default.yearFirst = true ∧
      FormatCache.imperial.Sound ∧
      ofLayout Layout.default .utc none FormatCache.imperial = .ok encoder after ∧
      CalendarFields.FourDigitYear (.ofMillis 1556582400000) .utc ∧
      CalendarFields.FourDigitYear (.ofMillis 1556668800000) .utc ∧
      compare (Text.bytes (encoder.write .never (.ofMillis 1556582400000)).1)
        (Text.bytes (encoder.write .never (.ofMillis 1556668800000)).1) = .gt ∧
      compare ((Instant.ofMillis 1556582400000).truncated encoder.fractionDigits)
        ((Instant.ofMillis 1556668800000).truncated encoder.fractionDigits) = .lt := by
  refine ⟨_, _, by decide, by decide, FormatCache.sound_imperial, rfl, ?_⟩
  decide +kernel

end Encoder

end DatePattern
