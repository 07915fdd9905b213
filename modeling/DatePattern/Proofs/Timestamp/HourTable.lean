import DatePattern.Proofs.Timestamp.Hours
import DatePattern.Proofs.Timestamp.Refinement

/-!
The hour table of a day: with one change of the clocks it tells the time as the compiled format does.

Where the change falls does not matter. Either it falls between two hours of the day, and the table has the offset of
each of them, or it falls inside one, and the time is told by the offset of the instant itself.
-/

namespace DatePattern.Encoder

variable {encoder : Encoder}

/-- The milliseconds of a civil instant are not held at either end of the range. -/
theorem unheld_of_civil {instant : Instant} (civil : instant.InCivilRange)
    (nano : instant.nano < 1000000000) :
    Count.Fits (instant.second * 1000) ∧
      Count.Fits (instant.second * 1000 + (instant.nano / 1000000 : Nat)) ∧
      Instant.firstCivilSecond * 1000 ≤ instant.millis ∧
      instant.millis ≤ Instant.lastCivilSecond * 1000 + 999 := by
  -- The civil range lies well inside the range of counts, also in milliseconds.
  obtain ⟨early, late⟩ := civil
  have second : Count.Fits (instant.second * 1000) := by
    simp only [Instant.firstCivilSecond, Instant.lastCivilSecond] at early late
    exact Count.fits_of_natAbs_le (by omega)
  have sum : Count.Fits (instant.second * 1000 + (instant.nano / 1000000 : Nat)) := by
    simp only [Instant.firstCivilSecond, Instant.lastCivilSecond] at early late
    exact Count.fits_of_natAbs_le (by omega)
  refine ⟨second, sum, ?_⟩
  rw [Instant.millis, Count.clamp_of_fits second, Count.clamp_of_fits sum]
  omega

/-- The clocks of a civil instant, and those at the midnight of its day, are not held either. -/
theorem clock_of_civil {zone : Zone} (formed : zone.WellFormed) {dateFormat : Option Format}
    {instant : Instant} (civil : instant.InCivilRange) (nano : instant.nano < 1000000000)
    (own : (Day.ofMillis zone dateFormat instant.millis).Contains instant.millis) :
    Count.Fits (instant.millis + zone.offsetAt instant.millis) ∧
      zone.localDay (Day.ofMillis zone dateFormat instant.millis).today =
        (Day.ofMillis zone dateFormat instant.millis).shownAtMidnight zone := by
  obtain ⟨-, -, early, late⟩ := unheld_of_civil civil nano
  -- The midnight is at most three days before the instant, and offsets have 32 bits.
  have midnight : (Day.ofMillis zone dateFormat instant.millis).Contains
      (Day.ofMillis zone dateFormat instant.millis).today :=
    ⟨Int.le_refl _, Int.lt_of_le_of_lt own.1 own.2⟩
  have near := Day.near_of_contains formed midnight own
  have before := own.1
  have offset := Zone.offsetAt_bounds formed instant.millis
  have offset' := Zone.offsetAt_bounds formed
    (Day.ofMillis zone dateFormat instant.millis).today
  simp only [Instant.firstCivilSecond, Instant.lastCivilSecond] at early late
  refine ⟨?_, ?_⟩
  · exact Count.fits_of_natAbs_le (by omega)
  · rw [Zone.localDay, Day.shownAtMidnight, Count.clamp_of_fits]
    exact Count.fits_of_natAbs_le (by omega)

/-- The digits of an encoder for a layout are those of the layout. -/
theorem MadeFrom.fraction_eq {layout : Layout} {zone : Zone} {cache : FormatCache}
    (made : encoder.MadeFrom layout zone none cache) (listed : layout ∈ Layout.all) :
    encoder.fractionDigits = layout.fractionDigits := by
  have fraction := made.fraction
  rw [Option.getD_none] at fraction
  -- A layout has three, six or nine of them.
  rcases (Layout.regular layout listed).fraction with few | few | few <;> omega

/-- The token of the fraction has a meaning, which no registry has a part in. -/
theorem fractionToken_meant {layout : Layout} (listed : layout ∈ Layout.all) :
    layout.fractionToken.Plain ∧ layout.fractionToken.isMeant = true ∧
      layout.fractionToken.isMatched = false := by
  have few := (Layout.regular layout listed).fraction
  unfold Layout.fractionToken
  -- Three digits are milliseconds, and any other count of them is a fraction.
  by_cases three : layout.fractionDigits = 3
  · rw [if_pos three]
    exact ⟨(by decide : 'S' ≠ 'z'), rfl, rfl⟩
  · rw [if_neg three]
    refine ⟨(by decide : 'n' ≠ 'z'), ?_, rfl⟩
    simp only [Token.isMeant, decide_eq_true_eq]
    omega

/-- The token of the fraction compiles to a rule that writes the fraction of the clock. -/
theorem exists_fractionRule {layout : Layout} (listed : layout ∈ Layout.all)
    (digits : encoder.fractionDigits = layout.fractionDigits) {instant : Instant}
    (civil : instant.InCivilRange) (nano : instant.nano < 1000000000)
    (whole : encoder.zone.offsetAt instant.millis % 1000 = 0)
    (clock : Count.Fits (instant.millis + encoder.zone.offsetAt instant.millis))
    (zone : Zone) (locale : Locale) (symbols : Symbols) (calendar : Calendar)
    (registry : Registry) :
    ∃ rule, WriteRule.MadeFor zone locale symbols layout.fractionToken rule ∧
      Digits.padded (encoder.fractionOf (CalendarFields.wallMillis instant encoder.zone)
          instant.nanoOfMilli : Nat) encoder.fractionDigits =
        rule.write (.ofInstant instant encoder.zone calendar) := by
  have few := (Layout.regular layout listed).fraction
  unfold Layout.fractionToken
  by_cases three : layout.fractionDigits = 3
  · -- Milliseconds are those of the clock.
    rw [if_pos three]
    refine ⟨.number (.padded .millisecond 3), ⟨registry, registry, rfl⟩, ?_⟩
    have millis : (encoder.fractionOf (CalendarFields.wallMillis instant encoder.zone)
        instant.nanoOfMilli : Int) =
          (CalendarFields.ofInstant instant encoder.zone calendar).millisecond := by
      have nanos := instant.nanoOfMilli_lt
      rw [CalendarFields.millisecond_ofInstant, fractionOf, digits, three,
        show Digits.power (9 - 3) = 1000000 from rfl]
      omega
    rw [millis, digits, three]
    rfl
  · -- Letters n are the leading digits of the nanoseconds, which the clock shows as well.
    rw [if_neg three]
    obtain ⟨second, sum, -, -⟩ := unheld_of_civil civil nano
    refine ⟨.fraction layout.fractionDigits, ⟨registry, registry, ?_⟩, ?_⟩
    · exact congrFun (if_neg (by omega)) registry
    · rw [fraction_of_unheld nano whole second sum clock, digits]
      simp only [WriteRule.write, CalendarFields.nanoOfSecond_ofInstant]
      rw [show max 0 (min (instant.nano : Int) 999999999) = instant.nano by omega]
      rfl

/-- The day made for an instant writes the date of that instant. -/
theorem writeDate_eq_dateText {layout : Layout} {zone : Zone} {digits : Option Nat}
    {cache : FormatCache} (made : encoder.MadeFrom layout zone digits cache)
    (listed : layout ∈ Layout.all) (sound : cache.Sound) {instant : Instant}
    (second : Count.Fits (instant.second * 1000)) :
    encoder.writeDate (encoder.dayMadeFor (some instant.millis)) instant.millis =
      encoder.dateText instant := by
  -- Kept or not, the date is the one written for the millisecond of the instant.
  unfold dateText
  cases dateIs : encoder.dateFormat with
  | none => simp only [writeDate, dateIs]
  | some format =>
    obtain ⟨_, tokens, -, -, dateOnly, -, compiled, -, -⟩ := made.compiledFrom listed sound dateIs
    rw [writeDate_own dateIs]
    refine Format.write_of_wallDay compiled dateOnly ?_
    unfold CalendarFields.wallDay CalendarFields.wallMillis
    rw [(Instant.millis_ofMillis instant.fits_millis).2.2 (late_of_second second)]

/--
Where the clocks change at most once in a day, the encoder writes what the compiled format of its layout writes.

The day is the one that is made for the instant, whether it is new or was kept. It must have the instant, and begin on
the date of the instant. The texts may only differ in the Z of a zero offset.
-/
theorem write_alikeButZulu_of_once {layout : Layout} {zone : Zone} {cache before : FormatCache}
    (listed : layout ∈ Layout.all) (formed : zone.WellFormed)
    (whole : ∀ moment, zone.offsetAt moment % 1000 = 0) (sound : cache.Sound)
    (made : ofLayout layout zone none cache = .ok encoder before) {kept : Day} {instant : Instant}
    (civil : instant.InCivilRange) (nano : instant.nano < 1000000000)
    (used : encoder.dayFor kept instant.millis =
      .ofMillis zone encoder.dateFormat instant.millis)
    (own : (Day.ofMillis zone encoder.dateFormat instant.millis).Contains instant.millis)
    (sameDate : zone.localDay (Day.ofMillis zone encoder.dateFormat instant.millis).today =
      zone.localDay instant.millis)
    (once : zone.ChangesOnce (Day.ofMillis zone encoder.dateFormat instant.millis).today
      (Day.ofMillis zone encoder.dateFormat instant.millis).tomorrow)
    {registry : Registry} (extended : before.registry.Extends registry) :
    ∃ format last,
      Format.compile layout.pattern zone registry.defaults.locale none registry =
        .ok format last ∧
      OffsetForm.AlikeButZulu layout.offsetForm (zone.offsetAt instant.millis)
        (encoder.write kept instant).1 (format.write instant) := by
  obtain ⟨soundBefore, -, madeFrom⟩ := ofLayout_ok sound made
  have sameLayout := madeFrom.sameLayout
  obtain rfl := madeFrom.sameZone
  have digits := madeFrom.fraction_eq listed
  obtain ⟨clock, shown⟩ := clock_of_civil formed civil nano own
  -- The pattern of the layout has tokens with a meaning, so that its format is compiled.
  have scanned : Token.ofPattern layout.pattern =
      .ok (layout.dateTokens ++ layout.timeTokens layout.fractionToken) := by
    obtain ⟨marks, scan, marked⟩ :=
      Option.map_eq_some_iff.mp (Layout.regular layout listed).tokens
    simp only [Token.ofPattern, scan, marked]
  obtain ⟨plain, meant, unmatched⟩ := fractionToken_meant listed
  obtain ⟨format, last, compiled⟩ := Format.compile_succeeds Registry.Like.stable scanned
    (layout_meant listed meant) encoder.zone
    (madeFrom.readable listed soundBefore meant unmatched) none registry
    ⟨extended.faithful soundBefore.faithful, extended.toSetUpAs⟩
  rw [← extended.defaults] at compiled
  refine ⟨format, last, compiled, ?_⟩
  obtain ⟨-, zoneIs, localeIs, others, again, compiledFrom⟩ :=
    Format.compiledFrom (extended.faithful soundBefore.faithful) compiled
  obtain rfl : layout.dateTokens ++ layout.timeTokens layout.fractionToken = others := by
    rw [scanned] at again
    exact Except.ok.inj again
  rw [extended.localeData] at compiledFrom
  rw [extended.defaults] at localeIs
  -- The encoder writes the date, the time of day that the zone shows, and the offset.
  have reading : encoder.wallMillis (.ofMillis encoder.zone encoder.dateFormat instant.millis)
      instant.millis = CalendarFields.wallMillis instant encoder.zone % 86400000 :=
    wallMillis_of_once Day.tells_of_aligned own once clock (shown.symm.trans sameDate)
  have text : (encoder.write kept instant).1 = encoder.dateText instant ++
      (encoder.writeTime (CalendarFields.wallMillis instant encoder.zone % 86400000)
        instant.nanoOfMilli ++ encoder.offsetText instant.millis) := by
    have written : (encoder.write kept instant).1 =
        encoder.textBy (encoder.dayFor kept instant.millis) instant := encoder.write_eq _ _
    rw [written, used, textBy, reading]
    congr 1
    exact writeDate_eq_dateText madeFrom listed soundBefore (unheld_of_civil civil nano).1
  -- The compiled format writes them too, and its fraction is the same.
  obtain ⟨rule, ruled, fraction⟩ := exists_fractionRule listed digits civil nano (whole _) clock
    format.zone format.locale (before.registry.localeData.symbols format.locale) format.calendar
    registry
  have alike := (alike_iff_fraction sameLayout (encoder.dateText instant) instant format.calendar
    rule).mpr fraction
  rw [sameLayout] at alike
  rw [text, compiled_write madeFrom listed soundBefore plain ruled compiledFrom zoneIs localeIs]
  exact alike

/-- The clocks of Lord Howe Island around the seventh of April 2024, when they went back by half an hour. -/
private def lordHowe2024 : Region :=
  ⟨"Australia/Lord_Howe", ⟨37800, 1800⟩, [⟨1712415600, ⟨37800, 0⟩⟩]⟩

/-- A quarter of an hour after the clocks went back inside the second hour, both write the same text. -/
theorem write_alikeButZulu_lordHowe :
    ∃ encoder before, Layout.default ∈ Layout.all ∧ (Zone.region lordHowe2024).WellFormed ∧
      FormatCache.builtin.Sound ∧
      ofLayout Layout.default (.region lordHowe2024) none FormatCache.builtin =
        .ok encoder before ∧
      ∃ format last,
        Format.compile Layout.default.pattern (.region lordHowe2024)
          before.registry.defaults.locale none before.registry = .ok format last ∧
        OffsetForm.AlikeButZulu Layout.default.offsetForm
          ((Zone.region lordHowe2024).offsetAt (Instant.ofMillis 1712416500000).millis)
          (encoder.write .never (.ofMillis 1712416500000)).1
          (format.write (.ofMillis 1712416500000)) := by
  have sound : FormatCache.builtin.Sound := FormatCache.sound_builtin
  have listed : Layout.default ∈ Layout.all := by decide
  have formed : (Zone.region lordHowe2024).WellFormed := by decide
  refine ⟨_, _, listed, formed, sound, rfl, ?_⟩
  refine write_alikeButZulu_of_once listed formed (Region.offsetAt_whole _) sound rfl
    (by decide) (by decide) (if_neg (Day.not_contains_never _)) (by decide +kernel)
    (by decide +kernel) ?_ (.refl _)
  -- One change is listed, wherever the midnights lie.
  apply Region.changesOnce_of_listed
  intro first listed second listed' _ _ _ _
  rw [List.mem_singleton.mp listed, List.mem_singleton.mp listed']

end DatePattern.Encoder
