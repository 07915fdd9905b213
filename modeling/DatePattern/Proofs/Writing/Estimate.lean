import DatePattern.Proofs.Pattern.Compiled
import DatePattern.Proofs.Reading.Legible
import DatePattern.Proofs.Text.Positions
import DatePattern.Proofs.Timestamp.Sorted
import Mathlib.Data.List.Forall2

/-!
Estimated lengths: a text is as long as was set aside for it, apart from single bytes of a few tokens.

Five bytes are set aside for an offset with a colon, which takes six. Two digits are set aside for milliseconds and days
of the year, which may have three, and four for a week year, which may have five where the year has four.
-/

namespace DatePattern

/-- A number that is not negative takes as many bytes as it has digits. -/
theorem Digits.byteLength_padded (n width : Nat) :
    Text.byteLength (padded n width) = max width (count n) := by
  -- Digits of ASCII are one byte each.
  rw [Text.byteLength_digits fun _ => isAsciiDigit_padded, length_padded]

/-- Two digits take two bytes. -/
theorem Digits.byteLength_two (n : Nat) : Text.byteLength (two n) = 2 := by
  -- Two last digits are written, each of one byte.
  rw [two, Text.byteLength_digits fun _ => isAsciiDigit_last, length_last]

/-- An offset below one hundred hours is as long as its form. -/
theorem OffsetForm.byteLength_render (form : OffsetForm) {offset : Int}
    (small : offset.natAbs < 360000000) : Text.byteLength (form.render offset) = form.length := by
  -- The sign is one byte and hours are two, which are followed by nothing, two digits or a colon
  -- and two.
  have hours : offset.natAbs / 3600000 < 100 := by omega
  have signed : (if offset < 0 then '-' else '+').utf8Size = 1 := by split <;> rfl
  have colon : ':'.utf8Size = 1 := rfl
  have padded := Digits.padded_two hours
  cases form <;>
    simp only [render, padded, Text.byteLength_append, Text.byteLength_cons, Text.byteLength_nil,
      Digits.byteLength_two, signed, colon, length]

/-- The years of an instant whose local year has one to four digits, in every era. -/
theorem CalendarFields.FourDigitYear.years {instant : Instant} {zone : Zone}
    (inside : FourDigitYear instant zone) {calendar : Calendar} (weeks : calendar.weeks.Valid) :
    (0 ≤ (ofInstant instant zone calendar).year ∧
        (ofInstant instant zone calendar).year ≤ 9999) ∧
      0 ≤ (ofInstant instant zone calendar).weekYear ∧
        (ofInstant instant zone calendar).weekYear ≤ 10000 := by
  -- Years of the Lord are kept in the Gregorian calendar, and made smaller in the imperial one.
  obtain ⟨year, atMost⟩ := inside
  obtain ⟨-, near, near', -, -⟩ := WeekRules.firstWeek_add_weekOfYear weeks
    (Date.newYear_year_le (wallDay instant zone)) (Date.lt_newYear_year_succ (wallDay instant zone))
  rw [year_ofInstant, weekYear_ofInstant, Calendar.eraYears]
  cases calendar.system with
  | gregorian =>
    have positive : 0 < (Date.ofDay (wallDay instant zone)).year := year
    simp only [positive, if_true]
    omega
  | imperial =>
    -- An era has begun by the year of the day, so that counting in it makes no year negative.
    cases begun : imperialStartYear? (imperialEra (wallDay instant zone)) with
    | none =>
      simp only
      omega
    | some start =>
      have bounds := imperialStartYear?_bounds begun
      have reached := imperialStartYear?_le begun
      simp only
      omega

/-- A piece of text takes one byte more than was set aside for it if it overruns, and no more bytes otherwise. -/
structure Text.Estimated (piece : List Char) (estimate : Nat) (excess : Prop) : Prop where
  /-- What overruns does so by a single byte. -/
  exceeded : excess → byteLength piece = estimate + 1
  /-- Nothing else is longer than estimated. -/
  kept : ¬excess → byteLength piece ≤ estimate

/-- A piece that is never longer than estimated does not overrun. -/
theorem Text.estimated_of_le {piece : List Char} {estimate : Nat} {excess : Prop} (never : ¬excess)
    (short : byteLength piece ≤ estimate) : Estimated piece estimate excess :=
  ⟨fun impossible => absurd impossible never, fun _ => short⟩

/-- Equivalent conditions of overrunning may stand for each other. -/
theorem Text.Estimated.congr {piece : List Char} {estimate : Nat} {excess excess' : Prop}
    (estimated : Estimated piece estimate excess) (same : excess' ↔ excess) :
    Estimated piece estimate excess' :=
  ⟨fun overrun => estimated.exceeded (same.mp overrun), fun kept => estimated.kept (mt same.mpr kept)⟩

namespace NumberRule

open Text

/-- Of values below one thousand, those of three digits overrun a rule for two. -/
theorem estimated_select (field : Field) {width : Nat} (positive : 0 < width) {value : Int}
    (range : 0 ≤ value ∧ value < 1000) :
    Estimated ((select field width).render value) (select field width).estimate
      (width = 2 ∧ 100 ≤ value) := by
  obtain ⟨n, rfl⟩ := Int.eq_ofNat_of_zero_le range.1
  have few : Digits.count n ≤ 3 :=
    (Digits.count_le_iff (by decide) (by decide)).mpr (show n < 1000 by omega)
  have two : Digits.count n ≤ 2 ↔ n < 100 := Digits.count_le_iff (by decide) (by decide)
  -- Four digits are set aside at the width of one, and as many as the width from three on.
  unfold select
  split
  next =>
    refine estimated_of_le (by omega) ?_
    rw [render, Digits.byteLength_padded, estimate]
    omega
  next =>
    -- Two digits are the one width at which a third digit is not reckoned with.
    by_cases small : n < 100
    · refine estimated_of_le (by omega) ?_
      rw [render, if_pos (by omega), Int.toNat_natCast, Digits.byteLength_two, estimate]
    · refine ⟨fun _ => ?_, by omega⟩
      rw [render, if_neg (by omega), Digits.byteLength_padded, estimate]
      omega
  next notOne notTwo =>
    rw [imp_false] at notOne notTwo
    refine estimated_of_le (by omega) ?_
    rw [render, Digits.byteLength_padded, estimate]
    omega

/-- A value of two digits overruns no rule. -/
theorem byteLength_select_le (field : Field) {width : Nat} (positive : 0 < width) {value : Int}
    (range : 0 ≤ value ∧ value < 100) :
    byteLength ((select field width).render value) ≤ (select field width).estimate :=
  -- A value below one hundred does not meet the condition of overrunning.
  (estimated_select field positive ⟨range.1, by omega⟩).kept (by omega)

/-- A year of five digits overruns a rule for four. -/
theorem estimated_year (width : Nat) {value : Int} (range : 0 ≤ value ∧ value ≤ 10000) :
    Estimated ((WriteRule.yearRule width).render value) (WriteRule.yearRule width).estimate
      (width ≠ 2 ∧ width ≤ 4 ∧ 9999 < value) := by
  -- Four digits are set aside at least, or two where the century is left out.
  obtain ⟨n, rfl⟩ := Int.eq_ofNat_of_zero_le range.1
  have few : Digits.count n ≤ 5 :=
    (Digits.count_le_iff (by decide) (by decide)).mpr (show n < 100000 by omega)
  have four : Digits.count n ≤ 4 ↔ n < 10000 := Digits.count_le_iff (by decide) (by decide)
  unfold WriteRule.yearRule
  split
  next short =>
    -- The century is left out, however many digits it has.
    refine estimated_of_le (by omega) ?_
    rw [render, Digits.byteLength_two, estimate]
  next long =>
    -- At any other width the year is padded to four digits or more.
    have padded : select .year (max width 4) = .padded .year (max width 4) := by
      unfold select
      split <;> first | omega | rfl
    rw [padded, render, estimate]
    refine ⟨fun excess => ?_, fun kept => ?_⟩ <;> rw [Digits.byteLength_padded] <;> omega

end NumberRule

namespace WriteRule

open Text

variable {fields : CalendarFields}

/-- A name is no longer than the longest one, and a value without a name is written as nothing. -/
theorem byteLength_text_le (field : Field) (names : List String) (base : Int) :
    byteLength ((text field names base).write fields) ≤ (text field names base).estimate := by
  -- The estimate is the greatest of all lengths, the one of the name included.
  have longest : ∀ name ∈ names, byteLength name.toList ≤ (text field names base).estimate := by
    intro name listed
    rw [estimate, List.foldl_max]
    have among := List.le_max?_getD_of_mem (k := 0)
      (List.mem_map_of_mem (f := fun name : String => byteLength name.toList) listed)
    omega
  simp only [write]
  split
  · exact Nat.zero_le _
  -- A value beyond the names is written as nothing.
  · cases found : names[(fields.get field - base).toNat]? with
    | none => exact Nat.zero_le _
    | some name => exact longest name (List.mem_of_getElem? found)

/-- A month is no longer than the longest name of one, or than two digits. -/
theorem byteLength_month_le (symbols : Symbols) (width : Nat)
    (range : 0 ≤ fields.month ∧ fields.month ≤ 11) :
    byteLength ((monthRule symbols width).write fields) ≤ (monthRule symbols width).estimate := by
  -- By its width a month is a long name, a short name, two digits or a plain number.
  unfold monthRule
  split
  · exact byteLength_text_le _ _ _
  split
  · exact byteLength_text_le _ _ _
  split
  · rw [write_twoDigitMonth (by omega), Digits.byteLength_two]
    exact le_rfl
  -- A plain number takes two digits, though four bytes are set aside.
  · obtain ⟨n, whole⟩ := Int.eq_ofNat_of_zero_le (show 0 ≤ fields.month + 1 by omega)
    have few : Digits.count n ≤ 2 :=
      (Digits.count_le_iff (by decide) (by decide)).mpr (show n < 100 by omega)
    rw [write, NumberRule.write, NumberRule.valueIn, NumberRule.render, whole,
      Digits.byteLength_padded]
    exact (show max 1 (Digits.count n) ≤ 4 by omega)

/-- A field below one thousand overruns two digits where it has three. -/
theorem estimated_plain (field : Field) {width : Nat} (positive : 0 < width)
    (range : 0 ≤ fields.get field ∧ fields.get field < 1000) :
    Estimated ((number (.select field width)).write fields)
      (number (.select field width)).estimate (width = 2 ∧ 100 ≤ fields.get field) := by
  -- The rule writes the value of the field as it is.
  rw [write, NumberRule.write, NumberRule.valueIn_select]
  exact NumberRule.estimated_select field positive range

/-- The name of a zone is no longer than the longer one of both kinds of time. -/
theorem byteLength_zoneName_le (standard daylight : String) :
    byteLength ((zoneName standard daylight).write fields) ≤
      (zoneName standard daylight).estimate := by
  -- The estimate is the maximum of both names, one of which is written.
  simp only [write, estimate]
  split <;> omega

/-- An offset with a colon is one byte longer than estimated, and one without is not. -/
theorem estimated_zoneNumber (colon : Bool)
    (offset : (fields.zoneOffset + fields.dstOffset).natAbs < 360000000) :
    Estimated ((zoneNumber colon).write fields) (zoneNumber colon).estimate (colon = true) := by
  -- Both are estimated at five bytes, which is the length without a colon.
  have written := fun form => OffsetForm.byteLength_render form offset
  cases colon with
  | false => exact estimated_of_le (by decide) (written .hoursMinutes).le
  | true => exact ⟨fun _ => written .hoursColonMinutes, fun impossible => absurd rfl impossible⟩

/-- An offset or Z is no longer than its form. -/
theorem byteLength_isoZone_le (form : OffsetForm)
    (offset : (fields.zoneOffset + fields.dstOffset).natAbs < 360000000) :
    byteLength ((isoZone form).write fields) ≤ (isoZone form).estimate := by
  -- Z is a single byte, and an offset is as long as its form.
  simp only [write, estimate, OffsetForm.renderZulu]
  split
  · cases form <;> decide
  · exact (form.byteLength_render offset).le

/-- A fraction has as many digits as its width. -/
theorem byteLength_fraction_le {digits : Nat} (positive : 0 < digits) (few : digits ≤ 9) :
    byteLength ((fraction digits).write fields) ≤ (fraction digits).estimate := by
  -- Each digit is one byte, and there are as many digits as places.
  rw [write_fraction fields positive few, byteLength_digits fun _ => Digits.isAsciiDigit_last,
    Digits.length_last, estimate]

end WriteRule

namespace Token

open Text

/-- The tokens that write one byte more than estimated for some fields. -/
def Overruns (fields : CalendarFields) : Token → Prop
  | .literal _ => False
  | .letters letter width =>
    letter = 'Z' ∧ 3 ≤ width ∨
    letter = 'S' ∧ width = 2 ∧ 100 ≤ fields.millisecond ∨
    letter = 'D' ∧ width = 2 ∧ 100 ≤ fields.dayOfYear ∨
    letter = 'Y' ∧ width ≠ 2 ∧ width ≤ 4 ∧ 9999 < fields.weekYear

instance (fields : CalendarFields) : (token : Token) → Decidable (token.Overruns fields)
  | .literal _ => inferInstanceAs (Decidable False)
  | .letters _ _ => inferInstanceAs (Decidable (_ ∨ _))

variable {zone : Zone} {locale : Locale} {symbols : Symbols} {fields : CalendarFields}

/-- The letters that may write more than estimated. -/
def overrunning : List Char := ['Z', 'S', 'D', 'Y']

/-- The piece of any other letter is no longer than estimated. -/
theorem byteLength_write_le {letter : Char} {width : Nat} {rule : WriteRule}
    (other : letter ∉ overrunning) (positive : 0 < width)
    (made : WriteRule.MadeFor zone locale symbols (.letters letter width) rule)
    (ranges : fields.InRange) (year : 0 ≤ fields.year ∧ fields.year ≤ 9999)
    (offset : (fields.zoneOffset + fields.dstOffset).natAbs < 360000000) :
    byteLength (rule.write fields) ≤ rule.estimate := by
  -- The letters are taken one by one as they are listed in the rules, which the named cases count.
  obtain ⟨before, after, made⟩ := made
  obtain ⟨months, weeks, monthWeeks, days, -, weekdays, repeats, -, halfHours, hours, minutes,
    seconds, -⟩ := ranges
  have plain : ∀ field, 0 ≤ fields.get field ∧ fields.get field < 100 →
      byteLength ((WriteRule.number (.select field width)).write fields) ≤
        (WriteRule.number (.select field width)).estimate :=
    fun field range => (WriteRule.estimated_plain field positive (by omega)).kept (by omega)
  simp only [WriteRule.ofToken, WriteRule.ofLetter] at made
  split at made
  -- The letters Y, S, D and Z are the ones left out.
  case h_3 | h_10 | h_13 | h_22 => exact absurd (by decide) other
  -- G, E and a are names.
  case h_1 | h_11 | h_17 =>
    cases made
    exact WriteRule.byteLength_text_le _ _ _
  -- Most of the others are small numbers: d, H, m, s, F, w, W and K as they are, and h, u and k after a change.
  case h_5 | h_7 | h_8 | h_9 | h_14 | h_15 | h_16 | h_19 =>
    cases made
    exact plain _ (by simp only [CalendarFields.get]; omega)
  case h_6 | h_12 | h_18 =>
    cases made
    refine NumberRule.byteLength_select_le _ positive ?_
    simp only [NumberRule.valueIn]
    split <;> omega
  case h_2 =>
    cases made
    have estimated := NumberRule.estimated_year width
      (show 0 ≤ fields.year ∧ fields.year ≤ 10000 by omega)
    have kept := estimated.kept (by omega)
    rwa [← NumberRule.valueIn_year fields width] at kept
  case h_4 =>
    cases made
    exact WriteRule.byteLength_month_le symbols width months
  -- The offsets of the letter X, the names of zones and fractions have their own estimates.
  case h_20 =>
    split at made <;> cases made <;> exact WriteRule.byteLength_isoZone_le _ offset
  case h_21 =>
    cases made
    exact WriteRule.byteLength_zoneName_le _ _
  case h_23 =>
    split at made
    · cases made
    · cases made
      exact WriteRule.byteLength_fraction_le positive (by omega)
  case h_24 => cases made

/-- The piece of a token is one byte longer than estimated where the token overruns, and no longer elsewhere. -/
theorem estimated_write {token : Token} {rule : WriteRule} (wide : token.HasWidth)
    (made : WriteRule.MadeFor zone locale symbols token rule) (ranges : fields.InRange)
    (year : 0 ≤ fields.year ∧ fields.year ≤ 9999)
    (weekYear : 0 ≤ fields.weekYear ∧ fields.weekYear ≤ 10000)
    (offset : (fields.zoneOffset + fields.dstOffset).natAbs < 360000000) :
    Estimated (rule.write fields) rule.estimate (token.Overruns fields) := by
  cases token with
  | literal verbatim =>
    obtain ⟨before, after, made⟩ := made
    cases made
    exact estimated_of_le not_false le_rfl
  | letters letter width =>
    have positive := wide letter width rfl
    by_cases listed : letter ∈ overrunning
    · -- Each of the four letters has a condition of its own.
      obtain ⟨before, after, made⟩ := made
      simp only [overrunning, List.mem_cons, List.not_mem_nil, or_false] at listed
      rcases listed with rfl | rfl | rfl | rfl
      · simp only [WriteRule.ofToken, WriteRule.ofLetter] at made
        split at made
        next =>
          cases made
          exact (WriteRule.estimated_zoneNumber false offset).congr (by simp [Overruns])
        next =>
          cases made
          exact estimated_of_le (by simp [Overruns]) (WriteRule.byteLength_isoZone_le _ offset)
        next notOne notTwo =>
          rw [imp_false] at notOne notTwo
          cases made
          exact (WriteRule.estimated_zoneNumber true offset).congr (by simp [Overruns]; omega)
      · cases made
        exact (WriteRule.estimated_plain .millisecond positive
          ⟨ranges.millisecond.1, Int.lt_add_one_of_le ranges.millisecond.2⟩).congr
            (by simp [Overruns, CalendarFields.get])
      · cases made
        exact (WriteRule.estimated_plain .dayOfYear positive
          ⟨Int.le_trans (by decide) ranges.dayOfYear.1,
            Int.lt_of_le_of_lt ranges.dayOfYear.2 (by decide)⟩).congr
            (by simp [Overruns, CalendarFields.get])
      · cases made
        exact (NumberRule.estimated_year width weekYear).congr (by simp [Overruns])
    · refine estimated_of_le ?_ (byteLength_write_le listed positive made ranges year offset)
      simp only [overrunning, List.mem_cons, List.not_mem_nil, or_false, not_or] at listed
      simp [Overruns, listed]

/-- A text is longer than estimated by one byte at most for each token that overruns. -/
theorem byteLength_flatMap_le {tokens : List Token} {rules : List WriteRule}
    (estimated : List.Forall₂ (fun token rule =>
      Estimated (rule.write fields) rule.estimate (token.Overruns fields)) tokens rules)
    (start : Nat) :
    start + byteLength (rules.flatMap (·.write fields)) ≤
      rules.foldl (· + ·.estimate) start + tokens.countP (·.Overruns fields) := by
  -- The estimates of the rules are added from the left.
  induction estimated generalizing start with
  | nil => exact le_rfl
  | @cons token rule tokens rules first _ ih =>
    have rest := ih (start + rule.estimate)
    rw [List.flatMap_cons, byteLength_append, List.foldl_cons, List.countP_cons]
    by_cases excess : token.Overruns fields
    · have longer := first.exceeded excess
      rw [if_pos (by simpa using excess)]
      omega
    · have short := first.kept excess
      rw [if_neg (by simpa using excess)]
      omega

end Token

/-- The weeks of all locales known by themselves are counted by days that there are. -/
theorem Symbols.weeks_ofLocale (locale : Locale) : (ofLocale locale).calendar.weeks.Valid := by
  -- The symbols of each language are looked at, and those of American English stand for all others.
  unfold ofLocale
  split
  · decide
  · split <;> first | decide | (split <;> decide)

namespace Format

/--
Every piece of a text is as long as estimated at most, or else one byte longer, and then its token overruns.

The text as a whole is longer than estimated by at most one byte for each token that overruns, and no longer than
estimated where there is none.
-/
theorem write_estimated {pattern : String} {zone : Zone} {locale : Locale}
    {centuryStart : Option Instant} {before after : Registry} {format : Format}
    (made : compile pattern zone locale centuryStart before = .ok format after)
    (weeks : (before.localeData.symbols locale).calendar.weeks.Valid) {instant : Instant}
    (inside : CalendarFields.FourDigitYear instant zone)
    (offset : (zone.offsetAt instant.millis).natAbs < 360000000) :
    ∃ tokens, Token.ofPattern pattern = .ok tokens ∧
      List.Forall₂ (fun token rule => Text.Estimated (rule.write (format.fields instant))
        rule.estimate (token.Overruns (format.fields instant))) tokens format.rules ∧
      Text.byteLength (format.write instant) ≤
        format.estimate + tokens.countP (·.Overruns (format.fields instant)) := by
  obtain ⟨tokens, scanned, rules, -⟩ := rules_and_steps made
  obtain ⟨-, -, -, -, -, rfl, -, calendar⟩ := compile_ok made
  rw [← calendar] at weeks
  have ranges := CalendarFields.inRange_ofInstant instant format.zone weeks
  obtain ⟨year, weekYear⟩ := inside.years weeks
  -- Token by token the piece is held against the estimate of its rule.
  have estimated : List.Forall₂ (fun token rule =>
      Text.Estimated (rule.write (format.fields instant)) rule.estimate
        (token.Overruns (format.fields instant))) tokens format.rules :=
    ((List.forall₂_and_left _ _).mpr ⟨Token.hasWidth_ofPattern scanned, rules⟩).imp
      fun _ _ ⟨wide, ruled⟩ => Token.estimated_write wide ruled ranges year weekYear offset
  have whole := Token.byteLength_flatMap_le estimated 0
  rw [Nat.zero_add] at whole
  exact ⟨tokens, scanned, estimated, whole⟩

/-- An offset with a colon takes six bytes, of which five were set aside. -/
theorem write_estimated_colon :
    ∃ format after, compile "ZZZ" .utc .americanEnglish none FormatCache.builtin.registry =
        .ok format after ∧
      (FormatCache.builtin.registry.localeData.symbols .americanEnglish).calendar.weeks.Valid ∧
      CalendarFields.FourDigitYear ⟨0, 0⟩ .utc ∧ (Zone.utc.offsetAt 0).natAbs < 360000000 ∧
      format.estimate = 5 ∧ Text.byteLength (format.write ⟨0, 0⟩) = 6 := by
  have weeks := Symbols.weeks_ofLocale .americanEnglish
  obtain ⟨format, after, made, rules⟩ : ∃ format after, compile "ZZZ" .utc .americanEnglish none
      FormatCache.builtin.registry = .ok format after ∧ format.rules = [.zoneNumber true] :=
    ⟨_, _, rfl, rfl⟩
  have inside : CalendarFields.FourDigitYear ⟨0, 0⟩ .utc := by decide
  -- There is one token with one rule, which overruns by a single byte if it does.
  obtain ⟨tokens, scanned, estimated, -⟩ := write_estimated made weeks inside (by decide)
  cases (rfl : Token.ofPattern "ZZZ" = .ok [.letters 'Z' 3]).symm.trans scanned
  rw [rules] at estimated
  cases estimated with
  | cons offset _ =>
    have excess : (Token.letters 'Z' 3).Overruns (format.fields ⟨0, 0⟩) := .inl ⟨rfl, le_rfl⟩
    refine ⟨format, after, made, weeks, inside, by decide, by rw [estimate, rules]; rfl, ?_⟩
    rw [write, rules]
    exact (congrArg Text.byteLength (List.append_nil _)).trans (offset.exceeded excess)

end Format

end DatePattern
