import DatePattern.Proofs.Cache
import DatePattern.Proofs.Reading.Resolved

/-! Writing an instant and reading the text back, with one format. -/

namespace DatePattern.Format

/-- An instant whose text in a format can be read piece by piece. -/
structure Legible (format : Format) (symbols : Symbols) (tokens : List Token)
    (instant : Instant) : Prop where
  /-- The nanoseconds are less than a second. -/
  nano : instant.nano < 1000000000
  /-- The instant is well inside the range of milliseconds. -/
  inside : Count.DayInside instant.millis
  /-- The wall clock is well inside it too. -/
  wallInside : Count.DayInside (CalendarFields.exactWall instant format.zone)
  /-- The offset is a whole number of seconds. -/
  whole : format.zone.offsetAt instant.millis % 1000 = 0
  /-- Every piece of the text can be read where it stands. -/
  pieces : Token.AllLegible symbols (format.fields instant) tokens
    (format.rules.map (·.write (format.fields instant)))

instance (format : Format) (symbols : Symbols) (tokens : List Token) (instant : Instant) :
    Decidable (format.Legible symbols tokens instant) :=
  decidable_of_iff
    (instant.nano < 1000000000 ∧ Count.DayInside instant.millis ∧
      Count.DayInside (CalendarFields.exactWall instant format.zone) ∧
      format.zone.offsetAt instant.millis % 1000 = 0 ∧
      Token.AllLegible symbols (format.fields instant) tokens
        (format.rules.map (·.write (format.fields instant))))
    ⟨fun ⟨nano, inside, wallInside, whole, pieces⟩ => ⟨nano, inside, wallInside, whole, pieces⟩,
      fun ⟨nano, inside, wallInside, whole, pieces⟩ => ⟨nano, inside, wallInside, whole, pieces⟩⟩

/-- An instant that the pieces of its text tell apart from any other, up to its local time. -/
structure Unambiguous (format : Format) (tokens : List Token) (instant : Instant) : Prop where
  /-- The era is written, or is the one that is meant without any. -/
  era : Token.HasLetter 'G' tokens ∨
    (format.fields instant).era = format.calendar.system.presumedEra
  /-- Years of the imperial calendar are written without a sign. -/
  year : format.calendar.system = .imperial → 0 ≤ (format.fields instant).year ∧
    (Token.HasLetter 'Y' tokens → 0 ≤ (format.fields instant).weekYear)
  /-- The forms in which the offset is written express it. -/
  offset : ∀ token ∈ tokens, ∀ form ∈ token.offsetForm?,
    form.Expresses (format.zone.offsetAt instant.millis)
  /-- Without a written offset, the wall clock of a region is one of the civil range. -/
  civil : Token.writesOffset tokens = false → ∀ place, format.zone = .region place →
    Zone.clampCivil (CalendarFields.exactWall instant format.zone) =
      CalendarFields.exactWall instant format.zone

/-- The fields of a legible and unambiguous instant are written in full. -/
theorem Legible.writable {format : Format} {symbols : Symbols} {tokens : List Token}
    {instant : Instant} (legible : format.Legible symbols tokens instant)
    (unambiguous : format.Unambiguous tokens instant) (weeks : format.calendar.weeks.Valid) :
    (format.fields instant).Writable tokens := by
  have small := CalendarFields.year_small instant weeks legible.wallInside
  have nano := legible.nano
  -- The years of the Christian eras never have a sign.
  have years : 0 ≤ (format.fields instant).year ∧
      (Token.HasLetter 'Y' tokens → 0 ≤ (format.fields instant).weekYear) := by
    cases system : format.calendar.system with
    | gregorian =>
      have christian := CalendarFields.year_nonneg instant format.zone weeks system
      exact ⟨christian.1, fun _ => christian.2⟩
    | imperial => exact unambiguous.year system
  simp only [fields] at years ⊢
  refine ⟨CalendarFields.inRange_ofInstant instant format.zone weeks, ?_, ?_, ?_,
    unambiguous.offset⟩
  · intro written
    omega
  · rintro ⟨token, listed, written⟩
    -- Only the letter Y stands for the week year.
    have has : Token.HasLetter 'Y' tokens := by
      obtain ⟨entry, among, same, has⟩ := Token.exists_letter (by decide)
        (Token.writes_of_numberField? listed written)
      have only : ∀ entry ∈ Token.plainFields ++ Token.shiftedFields ++ Token.nameFields,
          entry.2 = .weekYear → entry.1 = 'Y' := by decide
      rwa [only entry among same] at has
    have weekYear := years.2 has
    omega
  · rw [CalendarFields.nanoOfSecond_ofInstant]
    omega

/-- A text that is read to its end into some fields denotes what they resolve to. -/
theorem readAt_of_readSteps {reader : Reader} {text : String} {findings : List Finding}
    {instant : Instant} (read : reader.readSteps reader.steps text.toList = (findings, .ok []))
    (resolved : (Collected.empty.addAll findings).resolve? reader.zone reader.calendar =
      some instant) :
    reader.readAt text ⟨0, none⟩ = (some instant, ⟨Text.byteLength text.toList, none⟩) := by
  -- The text is read from its beginning, and no text is left at the end.
  have start : Text.from? text.toList 0 = some text.toList := by
    cases text.toList <;> rfl
  simp only [Reader.readAt, Reader.readInto, start, read, resolved, Text.byteLength_nil,
    Nat.sub_zero, Nat.zero_add]

/--
The text of a legible instant is read to its end, and denotes the instant up to the places written.

Without an offset in the text, it is the first instant at which the clocks of the zone look like that.
-/
theorem readAt_render {pattern : String} {zone : Zone} {locale : Locale}
    {centuryStart : Option Instant} {before after : Registry} {format : Format}
    {tokens : List Token} {instant : Instant} (faithful : before.Faithful)
    (compiled : compile pattern zone locale centuryStart before = .ok format after)
    (scanned : Token.ofPattern pattern = .ok tokens)
    (reversible : ∀ token ∈ tokens, token.isReversible = true) (complete : Token.Complete tokens)
    (formed : zone.WellFormed) (settled : zone.Settled)
    (weeks : (before.localeData.symbols locale).calendar.weeks.Valid)
    (legible : format.Legible (before.localeData.symbols locale) tokens instant)
    (unambiguous : format.Unambiguous tokens instant) :
    ∃ first : Instant,
      (Token.writesOffset tokens = true ∨ zone.ShowsFirst instant instant → first = instant) ∧
      (Token.writesOffset tokens = false → zone.ShowsFirst instant first) ∧
      format.reader.readAt (format.render instant) ⟨0, none⟩ =
        (some (first.cutOff (Token.places tokens)),
          ⟨Text.byteLength (format.write instant), none⟩) := by
  obtain ⟨-, rfl, rfl, known, same, made⟩ := compiledFrom faithful compiled
  cases scanned.symm.trans same
  obtain ⟨calendar, rules, ⟨steps, bounded, readable⟩, readerZone, readerCalendar⟩ := made
  rw [← calendar] at weeks
  -- Each piece of the text tells its field, and the fields together resolve to the instant.
  obtain ⟨founds, read, tell⟩ := format.reader.readSteps_write rules readable reversible
    (Token.hasWidth_ofPattern scanned) (legible.writable unambiguous weeks) legible.pieces
  rw [← bounded] at read
  have text : (format.render instant).toList = format.write instant := String.toList_ofList
  obtain ⟨first, exactly, shown, resolved⟩ := (Collected.knows_addAll tell complete).resolve
    complete formed settled weeks legible.whole legible.nano legible.inside legible.wallInside
    unambiguous.era unambiguous.civil
  refine ⟨first, ?_, shown, ?_⟩
  · -- An instant that is itself the first with its reading is read back without an offset as well.
    rintro (written | own)
    · exact exactly written
    · cases written : Token.writesOffset tokens with
      | true => exact exactly written
      | false => exact (shown written).eq_self own legible.nano legible.inside
  · rw [← text]
    refine readAt_of_readSteps (by rw [text]; exact read) ?_
    rw [readerZone, readerCalendar]
    exact resolved

/-- A Monday afternoon in Kolkata is read back from names, numbers in a row and its offset. -/
theorem readAt_render_mondayAfternoon :
    let registry := FormatCache.builtin.registry
    let instant : Instant := ⟨1714983307, 123456789⟩
    ∃ format after tokens,
      compile "EEEE, GG yyyyMMddKKmmss.nnnna XXX" (.fixed 19800000) .americanEnglish none
        registry = .ok format after ∧
      Token.ofPattern "EEEE, GG yyyyMMddKKmmss.nnnna XXX" = .ok tokens ∧
      Token.Complete tokens ∧
      format.Legible (registry.localeData.symbols .americanEnglish) tokens instant ∧
      format.Unambiguous tokens instant ∧
      format.reader.readAt (format.render instant) ⟨0, none⟩ =
        (some ⟨1714983307, 123400000⟩, ⟨39, none⟩) := by
  intro registry instant
  -- The format and the tokens are evaluated once, and known by what is needed of them.
  obtain ⟨format, after, tokens, compiled, scanned, reversible, complete, era, offset, written,
      places, legible, length⟩ :
      ∃ format after tokens,
        compile "EEEE, GG yyyyMMddKKmmss.nnnna XXX" (.fixed 19800000) .americanEnglish none
          registry = .ok format after ∧
        Token.ofPattern "EEEE, GG yyyyMMddKKmmss.nnnna XXX" = .ok tokens ∧
        (∀ token ∈ tokens, token.isReversible = true) ∧ Token.Complete tokens ∧
        Token.HasLetter 'G' tokens ∧ (∀ token ∈ tokens, ∀ form ∈ token.offsetForm?,
          form.Expresses 19800000) ∧ Token.writesOffset tokens = true ∧
        Token.places tokens = 4 ∧
        format.Legible (registry.localeData.symbols .americanEnglish) tokens instant ∧
        Text.byteLength (format.write instant) = 39 :=
    ⟨_, _, _, rfl, rfl, by decide +kernel, by decide +kernel, by decide +kernel,
      by decide +kernel, by decide +kernel, by decide +kernel, by decide +kernel,
      by decide +kernel⟩
  have faithful : registry.Faithful := Registry.faithful_new rfl rfl
  obtain ⟨-, zone, locale, _, _, made⟩ := compiledFrom faithful compiled
  have christian : format.calendar.system = .gregorian := by
    rw [made.calendar, locale]
    rfl
  have unambiguous : format.Unambiguous tokens instant := by
    refine ⟨.inl era, ?_, by rw [zone]; exact offset, ?_⟩
    · rw [christian]
      intro impossible
      cases impossible
    · rw [zone]
      intro _ place impossible
      cases impossible
  obtain ⟨first, exactly, -, read⟩ := readAt_render faithful compiled scanned reversible complete
    (by decide) trivial (by decide) legible unambiguous
  have cut : instant.cutOff 4 = ⟨1714983307, 123400000⟩ := by decide +kernel
  refine ⟨format, after, tokens, compiled, scanned, complete, legible, unambiguous, ?_⟩
  rw [read, exactly (.inl written), places, length, cut]

/-- A legible text of an instant that is not read back as the instant up to the places written. -/
def Misread (pattern : String) (zone : Zone) (locale : Locale) (instant : Instant) : Prop :=
  ∃ format after tokens,
    compile pattern zone locale none FormatCache.builtin.registry = .ok format after ∧
    Token.ofPattern pattern = .ok tokens ∧
    (∀ token ∈ tokens, token.isReversible = true) ∧ Token.Complete tokens ∧
    zone.WellFormed ∧ zone.Settled ∧
    format.Legible (FormatCache.builtin.registry.localeData.symbols locale) tokens instant ∧
    (format.reader.readAt (format.render instant) ⟨0, none⟩).1 ≠
      some (instant.cutOff (Token.places tokens))

/-- The clocks of New York around the third of November 2024, when they went back at two. -/
private def newYork2024 : Region :=
  ⟨"America/New_York", ⟨-18000, 3600⟩, [⟨1730613600, ⟨-18000, 0⟩⟩]⟩

/--
Legible texts may be ambiguous, and are then not read back.

Years before Christ look like others without their era, half hours are not written by every form,
offsets of a day or more are not read, half an hour comes twice when the clocks go back, the
civil range ends, and years of the imperial calendar may have a sign.
-/
theorem misread_of_ambiguous :
    Misread "yyyy-MM-dd HH:mm:ss" .utc .americanEnglish ⟨-62198755200, 0⟩ ∧
    Misread "yyyy-MM-dd HH:mm:ssX" (.fixed 19800000) .americanEnglish ⟨1730615400, 0⟩ ∧
    Misread "yyyy-MM-dd HH:mm:ssX" (.fixed 90000000) .americanEnglish ⟨1730615400, 0⟩ ∧
    Misread "yyyy-MM-dd HH:mm:ss" (.region newYork2024) .americanEnglish ⟨1730615400, 0⟩ ∧
    Misread "yyyy-MM-dd HH:mm:ss" (.region newYork2024) .americanEnglish ⟨9000000000000, 0⟩ ∧
    Misread "GG yyyy-MM-dd HH:mm:ss" .utc ⟨"ja", "JP", "JP"⟩ ⟨-62198755200, 0⟩ := by
  refine ⟨?_, ?_, ?_, ?_, ?_, ?_⟩
  -- Each format is made and each text is read by evaluation.
  all_goals exact ⟨_, _, _, rfl, rfl, by decide +kernel, by decide +kernel, by decide +kernel,
    by decide +kernel, by decide +kernel, by decide +kernel⟩

end DatePattern.Format
