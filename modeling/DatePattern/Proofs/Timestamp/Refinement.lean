import DatePattern.Proofs.Timestamp.Fresh
import DatePattern.Proofs.Timestamp.Layouts

/-!
Encoders refine compiled formats: in a zone of one offset both write the same text, after any run.

They may only differ in the fraction of the second, where the clock is held at an end of the range.
-/

namespace DatePattern

/-- A token of the date is plain, and has a meaning. -/
theorem Token.plain_of_isDate {token : Token} (dated : token.isDate = true) :
    token.Plain ∧ token.isMeant = true := by
  cases token with
  | literal verbatim => exact ⟨trivial, rfl⟩
  | letters letter width =>
    -- The date is written by its year, month and day, which take any width.
    simp only [isDate, Bool.or_eq_true, beq_iff_eq] at dated
    rcases dated with (rfl | rfl) | rfl
    · exact ⟨(by decide : 'y' ≠ 'z'), rfl⟩
    · exact ⟨(by decide : 'M' ≠ 'z'), rfl⟩
    · exact ⟨(by decide : 'd' ≠ 'z'), rfl⟩

namespace Layout

/-- The rules of a separator, if there is one. -/
def separatorRules (c : Option Char) : List WriteRule := c.toList.map fun c => .literal [c]

/-- The rules of the time and the offset, where the fraction has a rule of its own. -/
def timeRules (layout : Layout) (fraction : WriteRule) : List WriteRule :=
  [.number (.twoDigit .hourOfDay)] ++ separatorRules layout.timeSeparator ++
    [.number (.twoDigit .minute)] ++ separatorRules layout.timeSeparator ++
    [.number (.twoDigit .second)] ++ separatorRules layout.fractionSeparator ++ [fraction] ++
    layout.offsetForm.toList.map .isoZone

/-- The letters of the clock are plain, have a meaning and need no matcher. -/
theorem clockLetters_plain :
    ∀ token ∈ clockLetters, token.Plain ∧ token.isMeant = true ∧ token.isMatched = false := by
  -- The letters are listed one by one.
  decide

/-- The rules of the time are made for its tokens. -/
theorem timeRules_madeFor (layout : Layout) {fraction : Token} {fractionRule : WriteRule}
    {zone : Zone} {locale : Locale} {symbols : Symbols} (registry : Registry)
    (made : WriteRule.MadeFor zone locale symbols fraction fractionRule) :
    List.Forall₂ (WriteRule.MadeFor zone locale symbols) (layout.timeTokens fraction)
      (layout.timeRules fractionRule) := by
  have single : ∀ {token rule}, WriteRule.ofToken zone locale symbols token registry =
      .ok rule registry → List.Forall₂ (WriteRule.MadeFor zone locale symbols) [token] [rule] :=
    fun one => .cons ⟨registry, registry, one⟩ .nil
  have separators : ∀ c : Option Char, List.Forall₂ (WriteRule.MadeFor zone locale symbols)
      (separator c) (separatorRules c) := by
    intro c
    cases c with
    | none => exact .nil
    | some c => exact single rfl
  -- Tokens and rules are put together part by part, in the same order.
  simp only [timeTokens, timeRules]
  refine List.rel_append (List.rel_append (List.rel_append (List.rel_append (List.rel_append
    (List.rel_append (List.rel_append (single rfl) (separators _)) (single rfl)) (separators _))
      (single rfl)) (separators _)) (.cons made .nil)) ?_
  -- What remains is the offset, which is one token or none.
  cases layout.offsetForm with
  | none => exact .nil
  | some form =>
    cases form with
    | hours => exact single rfl
    | hoursMinutes => exact single rfl
    | hoursColonMinutes => exact single rfl

/-- The text of the rules of a time, in terms of the clock. -/
theorem flatMap_timeRules (layout : Layout) (fraction : WriteRule) (instant : Instant)
    (zone : Zone) (calendar : Calendar) :
    (layout.timeRules fraction).flatMap (·.write (.ofInstant instant zone calendar)) =
      let time := CalendarFields.wallMillis instant zone % 86400000
      Digits.padded (time / 3600000) 2 ++ (layout.timeSeparator.toList ++
        (Digits.two (time / 60000 % 60).toNat ++ (layout.timeSeparator.toList ++
          (Digits.two (time / 1000 % 60).toNat ++ (layout.fractionSeparator.toList ++
            (fraction.write (.ofInstant instant zone calendar) ++
              ((layout.offsetForm.map (·.renderZulu (zone.offsetAt instant.millis))).getD
                []))))))) := by
  have separators : ∀ c : Option Char, (separatorRules c).flatMap
      (·.write (.ofInstant instant zone calendar)) = c.toList := by
    intro c
    cases c <;> rfl
  have offsets : (layout.offsetForm.toList.map WriteRule.isoZone).flatMap
      (·.write (.ofInstant instant zone calendar)) =
        (layout.offsetForm.map (·.renderZulu (zone.offsetAt instant.millis))).getD [] := by
    cases layout.offsetForm with
    | none => rfl
    | some form =>
      simp only [Option.toList_some, List.map_cons, List.map_nil, List.flatMap_cons,
        List.flatMap_nil, List.append_nil, Option.map_some, Option.getD_some, WriteRule.write,
        CalendarFields.offset_ofInstant]
  -- Hours, minutes and seconds all have two digits.
  have hour := WriteRule.write_twoDigit (.ofInstant instant zone calendar) .hourOfDay
    (by simp only [CalendarFields.get, CalendarFields.hourOfDay_ofInstant]; omega)
  have minute := WriteRule.write_twoDigit (.ofInstant instant zone calendar) .minute
    (by simp only [CalendarFields.get, CalendarFields.minute_ofInstant]; omega)
  have second := WriteRule.write_twoDigit (.ofInstant instant zone calendar) .second
    (by simp only [CalendarFields.get, CalendarFields.second_ofInstant]; omega)
  have small : (CalendarFields.wallMillis instant zone % 86400000 / 3600000).toNat < 100 := by
    omega
  have padded := Digits.padded_two small
  rw [show (((CalendarFields.wallMillis instant zone % 86400000 / 3600000).toNat : Nat) : Int) =
    CalendarFields.wallMillis instant zone % 86400000 / 3600000 by omega] at padded
  -- The pieces are brought into one shape, in which the text of the clock is given.
  simp only [timeRules, List.flatMap_append, List.flatMap_cons, List.flatMap_nil, List.append_nil,
    separators, offsets, hour, minute, second, List.append_assoc, padded]
  rfl

end Layout

/-- Two texts that are alike but for an offset of zero, which the second writes as Z. -/
def OffsetForm.AlikeButZulu (form : Option OffsetForm) (offset : Int)
    (text zulu : List Char) : Prop :=
  ∃ body, text = body ++ (form.map (·.render offset)).getD [] ∧
    zulu = body ++ (form.map (·.renderZulu offset)).getD []

/-- Texts that begin with the same date are alike when their times are equal. -/
theorem OffsetForm.alikeButZulu_iff {form : Option OffsetForm} {offset : Int}
    {date time time' : List Char} :
    AlikeButZulu form offset (date ++ (time ++ (form.map (·.render offset)).getD []))
        (date ++ (time' ++ (form.map (·.renderZulu offset)).getD [])) ↔ time = time' := by
  constructor
  · rintro ⟨body, text, zulu⟩
    -- The same offset ends both texts, and the same date begins them.
    rw [← List.append_assoc] at text zulu
    have first := List.append_cancel_right text
    have second := List.append_cancel_right zulu
    exact List.append_cancel_left (first.trans second.symm)
  · rintro rfl
    exact ⟨date ++ time, by rw [List.append_assoc], by rw [List.append_assoc]⟩

namespace Encoder

variable {encoder : Encoder}

/-- In a zone of one offset any day that has a moment tells the time that the zone shows. -/
theorem wallMillis_of_constant (constant : encoder.zone = .utc ∨
      ∃ offset, encoder.zone = .fixed offset) {first millis : Int} (fits : Count.Fits millis)
    (contained : (encoder.dayMadeFor (some first)).Contains millis ∨ first = millis) :
    encoder.wallMillis (encoder.dayMadeFor (some first)) millis =
      Count.clamp (millis + encoder.zone.offsetAt millis) % 86400000 := by
  -- A day that is not aligned reduces the clock itself.
  cases aligned : (encoder.dayMadeFor (some first)).aligned with
  | false => exact wallMillis_of_unaligned aligned millis
  | true =>
    have inside : (encoder.dayMadeFor (some first)).Contains millis := by
      rcases contained with contained | rfl
      · exact contained
      · exact Day.contains_of_aligned aligned
    have same := fun moment => Zone.offsetAt_of_constant constant moment millis
    obtain ⟨unheld, sameDay, begun⟩ := Day.localDay_of_contains constant fits inside
    refine wallMillis_of_once (fun _ => Day.tells_of_aligned aligned) inside ?_ unheld ?_
    · -- The offset never changes.
      intro change _ _ _ _ _ changes
      exact absurd ((same _).trans (same _).symm) changes
    · -- The day began on the same local day, so that no midnight lies in between.
      have before := inside.1
      rw [dayMadeFor, Day.today_ofMillis] at before
      rw [← sameDay, Zone.localDay, Count.clamp_of_fits unheld] at begun
      rw [Day.shownAtMidnight, same, dayMadeFor, Day.today_ofMillis, Zone.localDay,
        Count.clamp_of_fits unheld]
      omega

/-- In a zone of whole seconds a date is written for a moment as for any other of its day. -/
theorem dateDay_of_constant {zone : Zone} {dateFormat : Option Format}
    (constant : zone = .utc ∨ ∃ offset, zone = .fixed offset)
    (whole : ∀ moment, zone.offsetAt moment % 1000 = 0) {first millis : Int}
    (firstFits : Count.Fits first) (fits : Count.Fits millis)
    (late : Count.least + 808 ≤ millis)
    (contained : (Day.ofMillis zone dateFormat first).Contains millis) :
    Day.dateDay zone first = zone.localDay millis := by
  obtain ⟨unheld, sameDay, -⟩ := Day.localDay_of_contains constant fits contained
  have moved := Instant.millis_ofMillis firstFits
  have same := fun moment => Zone.offsetAt_of_constant constant moment millis
  -- A moment that is not held at the least count keeps its milliseconds, and its local day with
  -- them.
  by_cases firstLate : Count.least + 808 ≤ first
  · rw [Day.dateDay, moved.2.2 firstLate, sameDay]
  · -- The instant of such a moment is at most in the first whole second of the range.
    have wholeHere := whole millis
    rw [Zone.localDay, Zone.localDay, same first, Count.clamp_of_fits unheld] at sameDay
    rw [Day.dateDay, Zone.localDay, Zone.localDay, same (Instant.ofMillis first).millis,
      Count.clamp_of_fits unheld]
    generalize zone.offsetAt millis = offset at *
    generalize (Instant.ofMillis first).millis = moment at *
    have before := Count.clamp_mono (show first + offset ≤ moment + offset by omega)
    have held := Count.clamp_cases (moment + offset)
    generalize Count.clamp (first + offset) = begun at *
    generalize Count.clamp (moment + offset) = clock at *
    simp only [Count.Fits, Count.least, Count.greatest] at *
    obtain ⟨seconds, rfl⟩ : ∃ seconds, offset = 1000 * seconds := ⟨offset / 1000, by omega⟩
    omega

/-- The date of an instant as the format of the date writes it, if there is one. -/
def dateText (encoder : Encoder) (instant : Instant) : List Char :=
  match encoder.dateFormat with
  | none => []
  | some format => format.write instant

/-- The moment of an instant whose seconds can be counted in milliseconds is not held at the ends. -/
theorem late_of_second {instant : Instant} (second : Count.Fits (instant.second * 1000)) :
    Count.least + 808 ≤ instant.millis := by
  -- Eight hundred and eight milliseconds past the least count, the first whole second begins.
  have held := Count.clamp_cases (instant.second * 1000 + (instant.nano / 1000000 : Nat))
  simp only [Instant.millis, Count.clamp_of_fits second]
  generalize Count.clamp (instant.second * 1000 + (instant.nano / 1000000 : Nat)) = millis at *
  simp only [Count.Fits, Count.least, Count.greatest] at *
  omega

/-- After any run an encoder in a zone of one offset writes the date and the time of the instant. -/
theorem write_of_constant {layout : Layout} {zone : Zone} {digits : Option Nat}
    {cache : FormatCache} (made : encoder.MadeFrom layout zone digits cache)
    (listed : layout ∈ Layout.all) (sound : cache.Sound)
    (constant : zone = .utc ∨ ∃ offset, zone = .fixed offset)
    (whole : ∀ moment, zone.offsetAt moment % 1000 = 0) (history : List Instant)
    {instant : Instant} (second : Count.Fits (instant.second * 1000)) :
    (encoder.write (encoder.keptAfter history) instant).1 =
      encoder.dateText instant ++
        (encoder.writeTime (CalendarFields.wallMillis instant zone % 86400000)
          instant.nanoOfMilli ++ encoder.offsetText instant.millis) := by
  have fits := instant.fits_millis
  have late := late_of_second second
  obtain rfl := made.sameZone
  -- The day in use was made for some moment, which may be the moment itself.
  obtain ⟨first, firstFits, used, inside⟩ := encoder.dayFor_keptAfter history fits
  have date : encoder.writeDate (encoder.dayMadeFor (some first)) instant.millis =
      encoder.dateText instant := by
    simp only [dateText]
    cases dateIs : encoder.dateFormat with
    | none => simp only [writeDate, dateIs]
    | some format =>
      obtain ⟨_, tokens, -, -, dateOnly, -, compiled, zoneIs, -⟩ :=
        made.compiledFrom listed sound dateIs
      have written : ∀ moment, Day.dateDay encoder.zone moment =
          encoder.zone.localDay instant.millis →
            format.write (.ofMillis moment) = format.write instant := fun moment day =>
        Format.write_of_wallDay compiled dateOnly (by rw [zoneIs]; exact day)
      have own : Day.dateDay encoder.zone instant.millis =
          encoder.zone.localDay instant.millis := by
        rw [Day.dateDay, (Instant.millis_ofMillis fits).2.2 late]
      simp only
      -- A kept date was written for the moment of the day, another one is written for the
      -- instant.
      cases kept : (encoder.dayMadeFor (some first)).date with
      | none =>
        simp only [writeDate, dateIs, kept, Option.getD_none]
        exact written _ own
      | some chars =>
        rw [writeDate_of_kept dateIs kept]
        rcases inside with contained | rfl
        · exact written _ (dateDay_of_constant constant whole firstFits fits late contained)
        · exact written _ own
  have written : (encoder.write (encoder.keptAfter history) instant).1 =
      encoder.textBy (encoder.dayFor (encoder.keptAfter history) instant.millis) instant :=
    encoder.write_eq _ _
  rw [written, used, textBy, date, wallMillis_of_constant constant fits inside]
  rfl

/-- An accepted pattern makes the encoder of a layout from the cache. -/
theorem find?_ok {pattern : String} {zoneId : Option String} {cache after : FormatCache}
    (accepted : find? (some pattern) zoneId cache = (some encoder, after)) :
    ∃ layout zone digits,
      ((Layout.find? pattern).map fun layout => (layout, none)).or
        ((Layout.findNanos? pattern).map fun (layout, digits) => (layout, some digits)) =
          some (layout, digits) ∧
      ofLayout layout zone digits cache = .ok encoder after := by
  -- A pattern that is no layout, or has no format for its date, is not accepted.
  simp only [find?] at accepted
  split at accepted
  · cases accepted
  · rename_i layout digits found
    split at accepted
    · rename_i made
      cases accepted
      exact ⟨layout, _, digits, found, made⟩
    · cases accepted

/-- The layout of an encoder without a format for the date has no date. -/
theorem MadeFrom.noDate {layout : Layout} {zone : Zone} {digits : Option Nat}
    {cache : FormatCache} (made : encoder.MadeFrom layout zone digits cache)
    (dateIs : encoder.dateFormat = none) : layout.dateTokens = [] := by
  have dated := made.date
  cases patternIs : layout.datePattern with
  | none => simp only [Layout.dateTokens, patternIs]
  | some pattern =>
    -- A date has a format, which is kept in the cache.
    rw [patternIs, dateIs] at dated
    obtain ⟨_, impossible, _⟩ := dated
    cases impossible

/-- The date and the time that a compiled format writes for a pattern of a layout. -/
theorem compiled_write {layout : Layout} {zone : Zone} {digits : Option Nat}
    {cache : FormatCache} (made : encoder.MadeFrom layout zone digits cache)
    (listed : layout ∈ Layout.all) (sound : cache.Sound) {fraction : Token}
    {fractionRule : WriteRule} (plain : fraction.Plain) {format : Format}
    (fractionMade : WriteRule.MadeFor format.zone format.locale
      (cache.registry.localeData.symbols format.locale) fraction fractionRule)
    (compiled : format.CompiledFrom (layout.dateTokens ++ layout.timeTokens fraction)
      cache.registry.localeData) (zoneIs : format.zone = zone)
    (localeIs : format.locale = cache.registry.defaults.locale) (instant : Instant) :
    format.write instant = encoder.dateText instant ++
      (layout.timeRules fractionRule).flatMap
        (·.write (.ofInstant instant zone format.calendar)) := by
  have timeMade := layout.timeRules_madeFor cache.registry fractionMade
  have timePlain : ∀ token ∈ layout.timeTokens fraction, token.Plain := by
    intro token among
    rcases Layout.mem_timeTokens among with rfl | ⟨c, rfl⟩ | letters
    · exact plain
    · trivial
    · exact (Layout.clockLetters_plain token letters).1
  have calendar := compiled.calendar
  cases dateIs : encoder.dateFormat with
  | none =>
    rw [made.noDate dateIs, List.nil_append] at compiled
    have rules := WriteRule.rules_unique timePlain compiled.rules timeMade
    simp only [Format.write, Format.fields, rules, dateText, dateIs, List.nil_append, zoneIs]
  | some date =>
    obtain ⟨pattern, tokens, patternIs, scanned, dateOnly, -, dateCompiled, dateZone, dateLocale⟩ :=
      made.compiledFrom listed sound dateIs
    have datePlain : ∀ token ∈ tokens, token.Plain := fun token among =>
      (Token.plain_of_isDate (List.all_eq_true.mp dateOnly token among)).1
    rw [Layout.dateTokens_eq patternIs scanned] at compiled
    have dateRules := dateCompiled.rules
    rw [dateZone, dateLocale, ← zoneIs, ← localeIs] at dateRules
    -- Both formats have the same rules for the date.
    have rules := WriteRule.rules_unique
      (fun token among => (List.mem_append.mp among).elim (datePlain token) (timePlain token))
      compiled.rules (List.rel_append dateRules timeMade)
    simp only [Format.write, Format.fields, rules, dateText, dateIs, List.flatMap_append, zoneIs,
      dateZone, calendar, dateCompiled.calendar, localeIs, dateLocale]

/-- A time with its offset is alike exactly when the fractions are written alike. -/
theorem alike_iff_fraction {layout : Layout} (sameLayout : encoder.layout = layout)
    (date : List Char) (instant : Instant) (calendar : Calendar) (fractionRule : WriteRule) :
    OffsetForm.AlikeButZulu encoder.layout.offsetForm (encoder.zone.offsetAt instant.millis)
        (date ++ (encoder.writeTime (CalendarFields.wallMillis instant encoder.zone % 86400000)
          instant.nanoOfMilli ++ encoder.offsetText instant.millis))
        (date ++ (layout.timeRules fractionRule).flatMap
          (·.write (.ofInstant instant encoder.zone calendar))) ↔
      Digits.padded (encoder.fractionOf (CalendarFields.wallMillis instant encoder.zone)
          instant.nanoOfMilli : Nat) encoder.fractionDigits =
        fractionRule.write (.ofInstant instant encoder.zone calendar) := by
  subst sameLayout
  have offsets : encoder.offsetText instant.millis = (encoder.layout.offsetForm.map
      (·.render (encoder.zone.offsetAt instant.millis))).getD [] := by
    simp only [offsetText]
    cases encoder.layout.offsetForm <;> rfl
  rw [offsets, Layout.flatMap_timeRules,
    writeTime_eq (Int.emod_nonneg _ (by decide)) instant.nanoOfMilli_lt, fractionOf_emod_day]
  -- The offset is split off the end of the general text as well.
  simp only [← List.append_assoc]
  simp only [List.append_assoc date]
  rw [OffsetForm.alikeButZulu_iff]
  simp only [List.append_assoc, List.append_cancel_left_eq]

/-- The tokens of a layout all have a meaning. -/
theorem layout_meant {layout : Layout} (listed : layout ∈ Layout.all) {fraction : Token}
    (meant : fraction.isMeant = true) :
    ∀ token ∈ layout.dateTokens ++ layout.timeTokens fraction, token.isMeant = true := by
  intro token among
  rcases List.mem_append.mp among with date | time
  · cases patternIs : layout.datePattern with
    | none =>
      rw [Layout.dateTokens, patternIs] at date
      cases date
    | some pattern =>
      obtain ⟨tokens, scanned, dateOnly, -⟩ := Layout.datePattern_tokens listed patternIs
      rw [Layout.dateTokens_eq patternIs scanned] at date
      exact (Token.plain_of_isDate (List.all_eq_true.mp dateOnly token date)).2
  · -- Separators are literal text, and the letters of the clock have widths that they may have.
    rcases Layout.mem_timeTokens time with rfl | ⟨c, rfl⟩ | letters
    · exact meant
    · rfl
    · exact (Layout.clockLetters_plain token letters).2.1

/-- The tokens of a layout have read steps in every registry set up as the one its encoder was made from. -/
theorem MadeFrom.readable {layout : Layout} {zone : Zone} {digits : Option Nat}
    {cache : FormatCache} (made : encoder.MadeFrom layout zone digits cache)
    (listed : layout ∈ Layout.all) (sound : cache.Sound) {fraction : Token}
    (meant : fraction.isMeant = true) (unmatched : fraction.isMatched = false) :
    ∀ token ∈ layout.dateTokens ++ layout.timeTokens fraction,
      Compiling.Succeeds (·.Like cache.registry)
        (ReadStep.ofToken cache.registry.defaults.locale token) := by
  -- A token that needs no matcher has a read step anywhere.
  have plain : ∀ token : Token, token.isMeant = true → token.isMatched = false →
      Compiling.Succeeds (·.Like cache.registry)
        (ReadStep.ofToken cache.registry.defaults.locale token) :=
    fun token meant unmatched => ReadStep.succeeds_ofToken meant fun matched => by
      rw [unmatched] at matched
      cases matched
  intro token among
  rcases List.mem_append.mp among with inDate | time
  · have dated := made.date
    cases patternIs : layout.datePattern with
    | none =>
      rw [Layout.dateTokens, patternIs] at inDate
      cases inDate
    | some pattern =>
      -- The date of the encoder has compiled already, and its format is kept.
      rw [patternIs] at dated
      obtain ⟨format, -, kept⟩ := dated
      obtain ⟨tokens, scanned, -, -⟩ := Layout.datePattern_tokens listed patternIs
      rw [Layout.dateTokens_eq patternIs scanned] at inDate
      obtain ⟨before, after, like, compiled⟩ := sound.compiled _ _ kept
      exact Format.readable_of_compiled like scanned compiled token inDate
  · rcases Layout.mem_timeTokens time with rfl | ⟨c, rfl⟩ | letters
    · exact plain _ meant unmatched
    · exact plain _ rfl rfl
    · exact plain _ (Layout.clockLetters_plain token letters).2.1
        (Layout.clockLetters_plain token letters).2.2

/-- A layout whose date is written without names has an encoder, in every zone and from every sound cache. -/
theorem ofLayout_succeeds {layout : Layout} (listed : layout ∈ Layout.all)
    (unmatched : ∀ token ∈ layout.dateTokens, token.isMatched = false) (zone : Zone)
    (digits : Option Nat) {cache : FormatCache} (sound : cache.Sound) :
    ∃ encoder after, ofLayout layout zone digits cache = .ok encoder after := by
  unfold ofLayout
  -- Without a date the cache is not asked, and an encoder is always made.
  cases dated : layout.datePattern with
  | none => exact ⟨_, _, bind_eq_ok.mpr ⟨none, cache, rfl, rfl⟩⟩
  | some pattern =>
    -- The tokens of the date are among those of the whole layout, which all have a meaning.
    obtain ⟨tokens, scanned, -, -⟩ := Layout.datePattern_tokens listed dated
    rw [Layout.dateTokens_eq dated scanned] at unmatched
    have meant : ∀ token ∈ tokens, token.isMeant = true := by
      rw [← Layout.dateTokens_eq dated scanned]
      intro token among
      exact layout_meant listed (show (Token.letters 'S' 3).isMeant = true from rfl) token
        (List.mem_append_left _ among)
    obtain ⟨format, after, given⟩ := FormatCache.format_succeeds sound scanned meant (some zone)
      none fun token among => ReadStep.succeeds_ofToken (meant token among) fun matched => by
        rw [unmatched token among] at matched
        cases matched
    refine ⟨_, after, bind_eq_ok.mpr ⟨some format, after, ?_, rfl⟩⟩
    rw [map_eq_pure_bind]
    exact bind_eq_ok.mpr ⟨format, after, given, rfl⟩

/--
In a zone of one offset, in whole seconds, an encoder writes what the compiled format of its pattern writes.

This holds after any run, up to the Z of a zero offset, for every pattern with milliseconds. A pattern with letters n
is written alike exactly when the clock still shows the leading digits of the nanoseconds.
-/
theorem write_alikeButZulu_iff {pattern : String} {zoneId : Option String}
    {cache after : FormatCache}
    (accepted : find? (some pattern) zoneId cache = (some encoder, after))
    (notName : ∀ layout ∈ Layout.all, layout.name ≠ pattern)
    (fewNanos : (Layout.splitNanos? pattern.toList).all (fun split => split.2.1 ≤ 9) = true)
    (sound : cache.Sound)
    (constant : encoder.zone = .utc ∨
      ∃ offset, encoder.zone = .fixed offset ∧ offset % 1000 = 0)
    (history : List Instant) {instant : Instant}
    (second : Count.Fits (instant.second * 1000)) (nano : instant.nano < 1000000000)
    {registry : Registry} (extended : after.registry.Extends registry) :
    ∃ format last,
      Format.compile pattern encoder.zone registry.defaults.locale none registry =
        .ok format last ∧
      (OffsetForm.AlikeButZulu encoder.layout.offsetForm (encoder.zone.offsetAt instant.millis)
          (encoder.write (encoder.keptAfter history) instant).1 (format.write instant) ↔
        ('n' ∈ pattern.toList →
          encoder.fractionOf (CalendarFields.wallMillis instant encoder.zone)
              instant.nanoOfMilli =
            instant.nano / Digits.power (9 - encoder.fractionDigits))) := by
  -- The encoder was made from a layout, of which the pattern has the tokens.
  obtain ⟨layout, zone, digits, found, made⟩ := find?_ok accepted
  obtain ⟨soundAfter, -, madeFrom⟩ := ofLayout_ok sound made
  obtain ⟨listed, fraction, tokens, letters⟩ :=
    Layout.hasTokens_of_accepted found notName fewNanos
  have digitsAre := madeFrom.fraction
  have sameLayout := madeFrom.sameLayout
  obtain rfl := madeFrom.sameZone
  have whole : ∀ moment, encoder.zone.offsetAt moment % 1000 = 0 := by
    intro moment
    rcases constant with utc | ⟨offset, fixed, whole⟩
    · simp only [utc, Zone.offsetAt, Zone.offsetsAt]
      rfl
    · simpa only [fixed, Zone.offsetAt, Zone.offsetsAt, Offsets.total, Int.add_zero] using whole
  replace constant : encoder.zone = .utc ∨ ∃ offset, encoder.zone = .fixed offset :=
    constant.imp_right (Exists.imp fun _ => And.left)
  -- The same tokens are those of the general format, which is made since each has a meaning.
  have scanned : Token.ofPattern pattern =
      .ok (layout.dateTokens ++ layout.timeTokens fraction) := by
    obtain ⟨marks, scan, marked⟩ := Option.map_eq_some_iff.mp tokens
    simp only [Token.ofPattern, scan, marked]
  -- The letters of a fraction need no matcher, and there are few enough of them.
  have meant : fraction.isMeant = true ∧ fraction.isMatched = false := by
    rcases letters with ⟨rfl, -⟩ | ⟨rfl, -⟩
    · exact ⟨rfl, rfl⟩
    · refine ⟨?_, rfl⟩
      simp only [Token.isMeant, decide_eq_true_eq]
      omega
  obtain ⟨format, last, compiled⟩ := Format.compile_succeeds Registry.Like.stable scanned
    (layout_meant listed meant.1) encoder.zone
    (madeFrom.readable listed soundAfter meant.1 meant.2) none registry
    ⟨extended.faithful soundAfter.faithful, extended.toSetUpAs⟩
  rw [← extended.defaults] at compiled
  refine ⟨format, last, compiled, ?_⟩
  obtain ⟨-, zoneIs, localeIs, others, again, compiledFrom⟩ :=
    Format.compiledFrom (extended.faithful soundAfter.faithful) compiled
  obtain rfl : layout.dateTokens ++ layout.timeTokens fraction = others := by
    rw [scanned] at again
    exact Except.ok.inj again
  rw [extended.localeData] at compiledFrom
  rw [extended.defaults] at localeIs
  -- In one offset the history does not matter, and all but the fraction is written alike.
  rw [write_of_constant madeFrom listed soundAfter constant whole history second]
  rcases letters with ⟨rfl, noNanos, three⟩ | ⟨rfl, hasNanos⟩
  · -- Milliseconds are those of the clock on both sides.
    have ruled : WriteRule.MadeFor format.zone format.locale
        (after.registry.localeData.symbols format.locale) (.letters 'S' 3)
        (.number (.padded .millisecond 3)) := ⟨registry, registry, rfl⟩
    rw [compiled_write madeFrom listed soundAfter (show (Token.letters 'S' 3).Plain by decide)
      ruled compiledFrom zoneIs localeIs, alike_iff_fraction sameLayout]
    refine ⟨fun _ hasNanos => absurd hasNanos noNanos, fun _ => ?_⟩
    rw [three] at digitsAre
    have millis : (encoder.fractionOf (CalendarFields.wallMillis instant encoder.zone)
        instant.nanoOfMilli : Int) =
          (CalendarFields.ofInstant instant encoder.zone format.calendar).millisecond := by
      have nanos := instant.nanoOfMilli_lt
      rw [CalendarFields.millisecond_ofInstant, fractionOf, digitsAre,
        show Digits.power (9 - 3) = 1000000 from rfl]
      omega
    rw [millis, digitsAre]
    rfl
  · -- Letters n are the digits of the nanoseconds, which the clock need not show.
    have few : encoder.fractionDigits ≤ 9 := by omega
    rw [← digitsAre] at compiledFrom
    have ruled : WriteRule.MadeFor format.zone format.locale
        (after.registry.localeData.symbols format.locale) (.letters 'n' encoder.fractionDigits)
        (.fraction encoder.fractionDigits) :=
      ⟨registry, registry, congrFun (if_neg (Nat.not_lt.mpr few)) registry⟩
    rw [compiled_write madeFrom listed soundAfter
      (show (Token.letters 'n' encoder.fractionDigits).Plain from (by decide : 'n' ≠ 'z'))
      ruled compiledFrom zoneIs localeIs, alike_iff_fraction sameLayout]
    have written : (WriteRule.fraction encoder.fractionDigits).write
        (.ofInstant instant encoder.zone format.calendar) =
          Digits.padded (instant.nano / Digits.power (9 - encoder.fractionDigits) : Nat)
            encoder.fractionDigits := by
      simp only [WriteRule.write, CalendarFields.nanoOfSecond_ofInstant]
      rw [show max 0 (min (instant.nano : Int) 999999999) = instant.nano by omega]
      rfl
    rw [written]
    constructor
    · -- Both numbers have at most nine digits, so that equal texts are equal numbers.
      intro same _
      have twenty : 1000000000 < Digits.power 20 := by decide
      have nanos := instant.nanoOfMilli_lt
      have small : encoder.fractionOf (CalendarFields.wallMillis instant encoder.zone)
          instant.nanoOfMilli < 1000000000 :=
        Nat.lt_of_le_of_lt (Nat.div_le_self _ _) (by omega)
      have small' : instant.nano / Digits.power (9 - encoder.fractionDigits) < 1000000000 :=
        Nat.lt_of_le_of_lt (Nat.div_le_self _ _) nano
      generalize instant.nano / Digits.power (9 - encoder.fractionDigits) = told at *
      have equal := Digits.padded_inj (by omega) (by omega) same
      omega
    · intro told
      rw [told hasNanos]

/-- In the last second that can be counted in milliseconds the encoder shows other nanoseconds. -/
theorem write_ne_compiled_lastSecond :
    ∃ encoder after, find? (some "HH:mm:ss,nnnnnnnnn") (some "UTC") FormatCache.builtin =
        (some encoder, after) ∧
      ∃ format last, Format.compile "HH:mm:ss,nnnnnnnnn" encoder.zone .americanEnglish none
          after.registry = .ok format last ∧
        ¬OffsetForm.AlikeButZulu encoder.layout.offsetForm 0
          (encoder.write (encoder.keptAfter [.epoch]) ⟨9223372036854775, 999999999⟩).1
          (format.write ⟨9223372036854775, 999999999⟩) := by
  have sound : FormatCache.builtin.Sound := FormatCache.sound_builtin
  refine ⟨_, _, rfl, ?_⟩
  obtain ⟨format, last, compiled, alike⟩ := write_alikeButZulu_iff
    (show find? (some "HH:mm:ss,nnnnnnnnn") (some "UTC") FormatCache.builtin = (some _, _) from rfl)
    (by decide) (by decide) sound (.inl rfl) [.epoch]
    (show Count.Fits ((⟨9223372036854775, 999999999⟩ : Instant).second * 1000) by decide)
    (by decide) (.refl _)
  refine ⟨format, last, compiled, fun same => ?_⟩
  -- By the general theorem they would be alike only if the clock still showed these nanoseconds.
  exact absurd (alike.mp same (by decide)) (by decide)

/-- A clock that is not held at an end of the range shows the leading digits of the nanoseconds. -/
theorem fraction_of_unheld {instant : Instant} (nano : instant.nano < 1000000000)
    (whole : encoder.zone.offsetAt instant.millis % 1000 = 0)
    (second : Count.Fits (instant.second * 1000))
    (unheld : Count.Fits (instant.second * 1000 + (instant.nano / 1000000 : Nat)))
    (clock : Count.Fits (instant.millis + encoder.zone.offsetAt instant.millis)) :
    encoder.fractionOf (CalendarFields.wallMillis instant encoder.zone) instant.nanoOfMilli =
      instant.nano / Digits.power (9 - encoder.fractionDigits) := by
  have millis : instant.millis = instant.second * 1000 + (instant.nano / 1000000 : Nat) := by
    rw [Instant.millis, Count.clamp_of_fits second, Count.clamp_of_fits unheld]
  rw [fractionOf, CalendarFields.wallMillis, Count.clamp_of_fits clock, Instant.nanoOfMilli]
  -- The milliseconds and the nanoseconds past them make up the nanoseconds again.
  congr 1
  omega

end Encoder

end DatePattern
