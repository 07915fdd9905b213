import DatePattern.Proofs.Timestamp.Hours
import DatePattern.Proofs.Timestamp.WrittenDate
import DatePattern.Proofs.Timestamp.WrittenTime

/-!
Kept days: when an encoder that has written other instants writes what a new one would write.

A kept day is trusted for every moment between its midnights. Where the clocks are set back across midnight, or
skip it, some of those moments have another date, and the encoder then writes the date of its kept day.
-/

namespace DatePattern.Encoder

variable {encoder : Encoder}

/-- The days made for two moments of one local day tell the time alike. -/
theorem wallMillis_of_localDay (formed : encoder.zone.WellFormed) (settled : encoder.zone.Settled)
    {first millis : Int} (own : (encoder.dayMadeFor (some first)).Contains first)
    (contained : (encoder.dayMadeFor (some first)).Contains millis)
    (same : encoder.zone.localDay millis = encoder.zone.localDay first) :
    encoder.wallMillis (encoder.dayMadeFor (some first)) millis =
      encoder.wallMillis (encoder.dayMadeFor (some millis)) millis := by
  have today := Day.midnight_congr formed settled (.inl rfl) same
  have tomorrow := Day.midnight_congr formed settled (.inr rfl) same
  simp only [dayMadeFor, Day.contains_ofMillis] at own contained
  have enclosed : ¬(first < Day.midnight encoder.zone first 0 ∨
      Day.midnight encoder.zone first 1 ≤ first) := by omega
  have enclosed' : ¬(millis < Day.midnight encoder.zone first 0 ∨
      Day.midnight encoder.zone first 1 ≤ millis) := by omega
  -- Both days are made from the same midnights.
  simp only [dayMadeFor, Day.ofMillis, today, tomorrow, enclosed, enclosed', if_false, wallMillis]

/-- Readings of a moment by different days differ by whole seconds, where no clock is held. -/
theorem wallMillis_seconds (first : Int) {millis : Int}
    (clock : Count.Fits (millis + encoder.zone.offsetAt millis)) :
    encoder.wallMillis (encoder.dayMadeFor (some first)) millis % 1000 =
      (millis + encoder.zone.offsetAt millis) % 1000 := by
  cases aligned : (encoder.dayMadeFor (some first)).aligned with
  | false =>
    rw [wallMillis_of_unaligned aligned, Count.clamp_of_fits clock]
    omega
  | true =>
    -- The offset that is told by is one of the zone, and all of those leave the same milliseconds.
    have tells := Day.tells_of_aligned aligned
    obtain ⟨moment, told⟩ := tells.exists_offsetAt millis
    have seconds := encoder.zone.offsetAt_seconds moment millis
    rw [show Day.ofMillis encoder.zone encoder.dateFormat first =
      encoder.dayMadeFor (some first) from rfl] at told tells
    rw [wallMillis_of_tells tells aligned, told]
    omega

/-- A reading goes on for a few days at most, on a day that has the moment if it is aligned. -/
theorem wallMillis_small (formed : encoder.zone.WellFormed) {first millis : Int}
    (contained : (encoder.dayMadeFor (some first)).aligned = true →
      (encoder.dayMadeFor (some first)).Contains millis) :
    (encoder.wallMillis (encoder.dayMadeFor (some first)) millis).natAbs < 1000000000 := by
  cases aligned : (encoder.dayMadeFor (some first)).aligned with
  | false =>
    rw [wallMillis_of_unaligned aligned]
    omega
  | true =>
    have tells := Day.tells_of_aligned aligned
    obtain ⟨moment, told⟩ := tells.exists_offsetAt millis
    have inside := contained aligned
    -- The moment is not far from the beginning of the day, nor is its offset from the one there.
    have begun : (encoder.dayMadeFor (some first)).Contains
        (encoder.dayMadeFor (some first)).today := by
      simp only [Day.Contains] at inside ⊢
      omega
    have near := Day.near_of_contains formed begun inside
    have offsets := Zone.offsetAt_near formed moment (encoder.dayMadeFor (some first)).today
    rw [show Day.ofMillis encoder.zone encoder.dateFormat first =
      encoder.dayMadeFor (some first) from rfl] at told tells
    rw [wallMillis_of_tells tells aligned, told, Day.shownAtMidnight]
    simp only [Day.Contains] at inside
    omega

/-- The date that a kept day writes for a moment is the date of the moment for which it was made. -/
theorem writeDate_of_kept {format : Format} {first : Int} {kept : List Char}
    (dated : encoder.dateFormat = some format)
    (date : (encoder.dayMadeFor (some first)).date = some kept) (millis : Int) :
    encoder.writeDate (encoder.dayMadeFor (some first)) millis = format.write (.ofMillis first) := by
  simp only [writeDate, dated, date, Option.getD_some]
  simp only [dayMadeFor, Day.ofMillis, dated] at date
  -- A date is kept only of a day that encloses its moment, and only if it is short enough.
  split at date
  · cases date
  · simp only at date
    split at date
    · exact (Option.some.inj date).symm
    · cases date

/-- A day made for a moment writes the date of that moment, kept or not. -/
theorem writeDate_own {format : Format} (dated : encoder.dateFormat = some format) (millis : Int) :
    encoder.writeDate (encoder.dayMadeFor (some millis)) millis =
      format.write (.ofMillis millis) := by
  -- A date that is not kept is written again, for the same moment.
  cases date : (encoder.dayMadeFor (some millis)).date with
  | some kept => exact writeDate_of_kept dated date millis
  | none => simp only [writeDate, dated, date, Option.getD_none]

/-- The offset after the time, in the form of the layout. -/
def offsetText (encoder : Encoder) (millis : Int) : List Char :=
  match encoder.layout.offsetForm with
  | none => []
  | some form => form.render (encoder.zone.offsetAt millis)

/-- The text of an instant by the record of some day. -/
def textBy (encoder : Encoder) (day : Day) (instant : Instant) : List Char :=
  encoder.writeDate day instant.millis ++
    (encoder.writeTime (encoder.wallMillis day instant.millis) instant.nanoOfMilli ++
      encoder.offsetText instant.millis)

/-- An instant is written by the record of the kept day if it has that instant, else by its own. -/
theorem write_eq (encoder : Encoder) (kept : Day) (instant : Instant) :
    (encoder.write kept instant).1 =
      encoder.textBy (if kept.Contains instant.millis then kept
        else encoder.dayMadeFor (some instant.millis)) instant := by
  simp only [textBy, ← List.append_assoc]
  rfl

/-- A day made for a moment keeps a date, which is written for every moment of the day. -/
def KeepsDate (encoder : Encoder) (first : Int) : Prop :=
  encoder.dateFormat.isSome ∧ (encoder.dayMadeFor (some first)).date.isSome

/--
Whether a day made for one moment gives another moment of it what a new day would.

If the date is kept, it must be the date of that moment too. Otherwise both days must read the same time of day.
-/
structure Serves (encoder : Encoder) (first millis : Int) : Prop where
  /-- A kept date is the date of the moment. -/
  date : encoder.KeepsDate first →
    Day.dateDay encoder.zone millis = Day.dateDay encoder.zone first
  /-- A time that follows no kept date is the time that a new day tells. -/
  time : ¬encoder.KeepsDate first →
    encoder.wallMillis (encoder.dayMadeFor (some first)) millis =
      encoder.wallMillis (encoder.dayMadeFor (some millis)) millis

/-- The format of the date was compiled for tokens of the date, in the zone of the encoder. -/
theorem MadeFrom.compiledFrom {layout : Layout} {zone : Zone} {digits : Option Nat}
    {cache : FormatCache} (made : encoder.MadeFrom layout zone digits cache)
    (listed : layout ∈ Layout.all) (sound : cache.Sound) {format : Format}
    (dateIs : encoder.dateFormat = some format) :
    ∃ pattern tokens, layout.datePattern = some pattern ∧
      Token.ofPattern pattern = .ok tokens ∧ tokens.all Token.isDate = true ∧
      Token.tellsDay tokens = true ∧ format.CompiledFrom tokens cache.registry.localeData ∧
      format.zone = zone ∧ format.locale = cache.registry.defaults.locale := by
  -- An encoder without a date of its own has no format for one.
  have dated := made.date
  cases patternIs : layout.datePattern with
  | none =>
    rw [patternIs, dateIs] at dated
    cases dated
  | some pattern =>
    rw [patternIs, dateIs] at dated
    obtain ⟨_, same, kept⟩ := dated
    cases same
    obtain ⟨tokens, scanned, dateOnly, tells⟩ := Layout.datePattern_tokens listed patternIs
    obtain ⟨before, after, ⟨faithful, alike⟩, compiled⟩ := sound.compiled _ _ kept
    obtain ⟨-, zoneIs, localeIs, others, again, made⟩ := Format.compiledFrom faithful compiled
    -- The format was compiled from the same text, which has these tokens and no others.
    have sameTokens : others = tokens := by
      rw [show Token.ofPattern pattern = .ok others from again] at scanned
      exact Except.ok.inj scanned
    rw [sameTokens, alike.localeData] at made
    exact ⟨pattern, tokens, rfl, scanned, dateOnly, tells, made, zoneIs, localeIs⟩

/-- A kept day writes the text of a new day exactly when it serves for the moment. -/
theorem textBy_eq_iff {layout : Layout} {zone : Zone} {digits : Option Nat} {cache : FormatCache}
    (listed : layout ∈ Layout.all) (formed : zone.WellFormed) (settled : zone.Settled)
    (sound : cache.Sound) (made : encoder.MadeFrom layout zone digits cache)
    {first : Int} (firstFits : Count.Fits first)
    (own : (encoder.dayMadeFor (some first)).Contains first) {instant : Instant}
    (contained : (encoder.dayMadeFor (some first)).Contains instant.millis) :
    encoder.textBy (encoder.dayMadeFor (some first)) instant =
        encoder.textBy (encoder.dayMadeFor (some instant.millis)) instant ↔
      encoder.Serves first instant.millis := by
  have fits := instant.fits_millis
  have nanos := instant.nanoOfMilli_lt
  have fraction := made.fraction
  obtain rfl := made.sameZone
  have digitsBounds : 1 ≤ encoder.fractionDigits ∧ encoder.fractionDigits ≤ 9 := by omega
  -- Both readings are close to their days and differ by whole seconds, and so their times tell them.
  have clock := Day.fits_of_contains formed settled fits own contained
  have small := wallMillis_small formed fun _ => contained
  have small' : (encoder.wallMillis (encoder.dayMadeFor (some instant.millis))
      instant.millis).natAbs < 1000000000 := wallMillis_small formed Day.contains_of_aligned
  have seconds := (wallMillis_seconds first clock).trans
    (wallMillis_seconds instant.millis clock).symm
  have times : encoder.writeTime (encoder.wallMillis (encoder.dayMadeFor (some first))
        instant.millis) instant.nanoOfMilli =
      encoder.writeTime (encoder.wallMillis (encoder.dayMadeFor (some instant.millis))
        instant.millis) instant.nanoOfMilli ↔ _ :=
    ⟨writeTime_inj digitsBounds.1 digitsBounds.2 nanos small small' seconds,
      fun alike => by rw [alike]⟩
  cases dateIs : encoder.dateFormat with
  | none =>
    -- Without a date the texts differ in their times alone.
    have noDate : ∀ day, encoder.writeDate day instant.millis = [] := by
      intro day
      simp only [writeDate, dateIs]
    have noneKept : ¬encoder.KeepsDate first := by simp [KeepsDate, dateIs]
    simp only [textBy, noDate, List.nil_append, List.append_cancel_right_eq, times]
    exact ⟨fun alike => ⟨fun kept => absurd kept noneKept, fun _ => alike⟩,
      fun serves => serves.time noneKept⟩
  | some format =>
    cases date : (encoder.dayMadeFor (some first)).date with
    | none =>
      -- A date that is not kept is written anew, as it would be for a new day.
      have anew : encoder.writeDate (encoder.dayMadeFor (some first)) instant.millis =
          encoder.writeDate (encoder.dayMadeFor (some instant.millis)) instant.millis := by
        rw [writeDate_own dateIs]
        simp only [writeDate, dateIs, date, Option.getD_none]
      have noneKept : ¬encoder.KeepsDate first := by simp [KeepsDate, date]
      simp only [textBy, anew, List.append_cancel_left_eq, List.append_cancel_right_eq, times]
      exact ⟨fun alike => ⟨fun kept => absurd kept noneKept, fun _ => alike⟩,
        fun serves => serves.time noneKept⟩
    | some kept =>
      obtain ⟨_, tokens, -, -, dateOnly, tells, compiled, zoneIs, -⟩ :=
        made.compiledFrom listed sound dateIs
      have near := Day.dateDay_near formed firstFits fits own contained
      have isKept : encoder.KeepsDate first := by simp [KeepsDate, dateIs, date]
      simp only [textBy, writeDate_of_kept dateIs date, writeDate_own dateIs]
      constructor
      · intro same
        have day := Format.dateDay_of_write compiled tells (by rwa [zoneIs]) same
        rw [zoneIs] at day
        exact ⟨fun _ => day, fun notKept => absurd isKept notKept⟩
      · intro serves
        -- One date is one local day here, and so one record of it.
        have day := serves.date isKept
        have localDay := Day.localDay_of_dateDay formed settled firstFits fits own contained day
        rw [wallMillis_of_localDay formed settled own contained localDay,
          Format.write_of_wallDay compiled dateOnly
            (show CalendarFields.wallDay (.ofMillis first) format.zone =
              CalendarFields.wallDay (.ofMillis instant.millis) format.zone by
                rw [zoneIs]; exact day.symm)]

/-- Moments of one local day serve each other, but for the first moments of the range. -/
theorem serves_of_localDay (formed : encoder.zone.WellFormed) (settled : encoder.zone.Settled)
    {first millis : Int} (own : (encoder.dayMadeFor (some first)).Contains first)
    (contained : (encoder.dayMadeFor (some first)).Contains millis)
    (fits : Count.Fits millis) (firstFits : Count.Fits first)
    (late : Count.least + 808 ≤ millis) (firstLate : Count.least + 808 ≤ first)
    (same : encoder.zone.localDay millis = encoder.zone.localDay first) :
    encoder.Serves first millis where
  -- Both the date and the reading come from the local day.
  date _ := by
    rw [Day.dateDay, Day.dateDay, (Instant.millis_ofMillis fits).2.2 late,
      (Instant.millis_ofMillis firstFits).2.2 firstLate, same]
  time _ := by rw [wallMillis_of_localDay formed settled own contained same]

/--
An encoder that has written other instants writes what a new one writes, exactly when its kept day serves.

The new one is made from any later state of the same cache.
-/
theorem write_eq_fresh_iff {layout : Layout} {zone : Zone} {digits : Option Nat}
    {cache before later after : FormatCache} {fresh : Encoder} (listed : layout ∈ Layout.all)
    (formed : zone.WellFormed) (settled : zone.Settled) (sound : cache.Sound)
    (made : ofLayout layout zone digits cache = .ok encoder before)
    (extended : before.Extends later)
    (again : ofLayout layout zone digits later = .ok fresh after)
    (history : List Instant) (instant : Instant) :
    (encoder.write (encoder.keptAfter history) instant).1 = (fresh.write .never instant).1 ↔
      ∀ first, encoder.madeAfter history = some first →
        (encoder.dayMadeFor (some first)).Contains instant.millis →
          encoder.Serves first instant.millis := by
  obtain ⟨soundBefore, -, madeFrom⟩ := ofLayout_ok sound made
  obtain rfl := ofLayout_again madeFrom extended again
  obtain ⟨keptIs, holds⟩ := keptAfter_eq fresh history
  rw [write_eq, write_eq, if_neg (Day.not_contains_never _), keptIs]
  cases madeIs : fresh.madeAfter history with
  | none =>
    -- Nothing is kept yet.
    rw [if_neg (show ¬(fresh.dayMadeFor none).Contains instant.millis from
      Day.not_contains_never _)]
    simp
  | some first =>
    obtain ⟨firstFits, own⟩ := holds first madeIs
    by_cases contained : (fresh.dayMadeFor (some first)).Contains instant.millis
    · rw [if_pos contained, textBy_eq_iff listed formed settled soundBefore madeFrom firstFits own
        contained]
      constructor
      · rintro serves _ same -
        cases same
        exact serves
      · intro every
        exact every first rfl contained
    · rw [if_neg contained]
      constructor
      · rintro - _ same inside
        cases same
        exact absurd inside contained
      · exact fun _ => rfl

/-- The clocks of St. John's around the first of November 2009, when they went back at 00:01. -/
private def stJohns2009 : Region :=
  ⟨"America/St_Johns", ⟨-12600, 3600⟩, [⟨1257042660, ⟨-12600, 0⟩⟩]⟩

/-- Half a minute after the clocks went back to the day before, the kept day has the wrong date. -/
theorem write_ne_fresh_stJohns :
    ∃ encoder before, Layout.default ∈ Layout.all ∧ (Zone.region stJohns2009).WellFormed ∧
      (Zone.region stJohns2009).Settled ∧ FormatCache.builtin.Sound ∧
      ofLayout Layout.default (.region stJohns2009) none FormatCache.builtin = .ok encoder before ∧
      (encoder.write (encoder.keptAfter [.ofMillis 1257042630000]) (.ofMillis 1257042690000)).1 ≠
        (encoder.write .never (.ofMillis 1257042690000)).1 := by
  have sound : FormatCache.builtin.Sound := FormatCache.sound_builtin
  have listed : Layout.default ∈ Layout.all := by decide
  have formed : (Zone.region stJohns2009).WellFormed := by decide
  have settled : (Zone.region stJohns2009).Settled := by decide
  refine ⟨_, _, listed, formed, settled, sound, rfl, ?_⟩
  intro same
  -- The day was made half a minute after midnight, on the first of November.
  have serves := (write_eq_fresh_iff listed formed settled sound rfl (.refl _) rfl
    [.ofMillis 1257042630000] (.ofMillis 1257042690000)).mp same 1257042630000
    (by decide +kernel) (by decide +kernel)
  exact absurd (serves.date ⟨rfl, by decide +kernel⟩) (by decide +kernel)

end DatePattern.Encoder
