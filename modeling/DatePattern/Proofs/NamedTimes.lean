import DatePattern.Proofs.Names.ZoneTable
import DatePattern.Proofs.Pattern.Runs
import DatePattern.Proofs.Reading.Timestamp
import DatePattern.Proofs.Registry.KeptNames
import DatePattern.Proofs.RoundTrip

/-!
Times with the name of their zone: a name that the table lists first for the zone tells the offset again.

The name tells standard time from daylight saving time, so that a time is read back even in an hour that comes twice.
-/

namespace DatePattern

/-- A text that is a name and nothing else is read as the first entry that lists it. -/
theorem Reader.readSteps_wholeName (reader : Reader) {regions : List Region}
    {table : List ZoneNames} {name : List Char} (plain : ZoneMatcher.Unnumbered name)
    (alike : Text.CaseAlike (table.flatMap (ZoneNames.given regions)) name) {meant : NamedZone}
    (first : table.findSome? (·.listing? regions (Text.lowercase name)) = some meant)
    (width : Nat) :
    reader.readSteps [⟨.zone (.ofTable regions table), width, 0⟩] name =
      (reader.zoneFindings (.named meant), .ok []) := by
  -- There is one step, and its name is all that there is to read.
  refine readSteps_cons_eq_ok.mpr ⟨_, [], [], ?_, rfl, (List.append_nil _).symm⟩
  simp only [readStep, ZoneMatcher.match?_wholeName plain alike first]

/-- The names of an entry are among its columns. -/
theorem ZoneNames.name_mem_columns (entry : ZoneNames) (daylight long : Bool) :
    ∃ column ∈ entry.columns, (entry.name daylight long).toList = column.1 := by
  -- There are two widths of two kinds, and a column for each.
  cases daylight <;> cases long <;> simp [name, columns]

/-- A name of one entry of an ASCII table matches the names of the table letter by letter. -/
theorem ZoneNames.caseAlike_name (regions : List Region) {table : List ZoneNames}
    (ascii : ∀ entry ∈ table, ∀ column ∈ entry.columns, ∀ c ∈ column.1, c.toNat < 0x80)
    {entry : ZoneNames} (listed : entry ∈ table) (daylight long : Bool) :
    Text.CaseAlike (table.flatMap (given regions)) (entry.name daylight long).toList := by
  -- In ASCII every case of a letter has one character, so no name matches more than it says.
  refine Text.CaseAlike.of_ascii ?_ ?_
  · intro name among
    obtain ⟨other, inTable, given⟩ := List.mem_flatMap.mp among
    unfold ZoneNames.given at given
    split at given
    · obtain ⟨column, inEntry, rfl⟩ := List.mem_map.mp (List.mem_filter.mp given).1
      exact ascii other inTable column inEntry
    · cases given
  · obtain ⟨column, inEntry, same⟩ := entry.name_mem_columns daylight long
    rw [same]
    exact ascii entry listed column inEntry

namespace Format

/-- A date, a time of day up to the milliseconds, and the name of the zone in a width. -/
def namedPattern (width : Nat) : String :=
  String.ofList ("yyyy-MM-dd HH:mm:ss,SSS ".toList ++ List.replicate width 'z')

/-- The date and the time are tokens by themselves, and no letter stands at their end. -/
theorem timestamp_marks : ∃ marks,
    Mark.scan? false "yyyy-MM-dd HH:mm:ss,SSS ".toList = some (marks ++ [.text ' ']) ∧
      Token.ofMarks (marks ++ [.text ' ']) = Token.timestamp := by
  -- The marks are spelled out, and scanned once and for all.
  refine ⟨"yyyy-MM-dd HH:mm:ss,SSS".toList.map fun c =>
    if Text.isAsciiLetter c then .letter c else .text c, ?_, ?_⟩ <;> decide +kernel

/-- The marks of the pattern are those of the date and the time, and the letters of the zone. -/
theorem scan?_namedPattern {marks : List Mark}
    (scanned : Mark.scan? false "yyyy-MM-dd HH:mm:ss,SSS ".toList = some marks) {width : Nat}
    (positive : 0 < width) : Mark.scan? false (namedPattern width).toList =
      some (marks ++ (List.replicate width (.letter 'z') ++ [])) := by
  -- The letters of the zone do not end a quote, so both parts are scanned by themselves.
  have noQuote : (List.replicate width 'z').head? ≠ some '\x27' := by
    obtain ⟨less, rfl⟩ := Nat.exists_eq_add_one.mpr positive
    rw [List.replicate_succ]
    exact nofun
  have isLetter : Text.isAsciiLetter 'z' = true := by decide
  have run := Mark.scan?_replicate isLetter width []
  rw [List.append_nil] at run
  unfold namedPattern
  rw [String.toList_ofList, Mark.scan?_append scanned noQuote, run]
  rfl

/-- The pattern has the tokens of the date and the time, and one for the name. -/
theorem ofPattern_namedPattern {width : Nat} (positive : 0 < width) :
    Token.ofPattern (namedPattern width) = .ok (Token.timestamp ++ [.letters 'z' width]) := by
  -- The letters of the name begin a new token, since a blank stands before them.
  obtain ⟨marks, scanned, made⟩ := timestamp_marks
  have last : (marks ++ [Mark.text ' ']).getLast? ≠ some (.letter 'z') := by
    rw [List.getLast?_concat]
    decide
  simp only [Token.ofPattern, scan?_namedPattern scanned positive]
  rw [Token.ofMarks_run positive last (by decide), made]
  rfl

/-- A format that writes the names of an entry after the time, and looks names up in a table. -/
structure Named (format : Format) (zone : Zone) (entry : ZoneNames) (regions : List Region)
    (table : List ZoneNames) (long : Bool) (reference : Int) : Prop where
  /-- Instants are written in the zone. -/
  zone : format.zone = zone
  /-- The date and the time are written, and the name in standard time or in daylight saving time. -/
  rules : format.rules = Token.timestampRules ++
    [.zoneName (entry.name false long) (entry.name true long)]
  /-- The date and the time are read, and the zone by a name of the table. -/
  steps : ∃ width, format.reader.steps = Token.timestampSteps ++
    [⟨.zone (.ofTable regions table), width, 0⟩]
  /-- Texts are read in the calendar of the format. -/
  readerCalendar : format.reader.calendar = format.calendar
  /-- Names are understood around the moment at which the format was made. -/
  reference : format.reader.reference = reference

/-- The steps of the pattern read the date and the time, and the zone by the matcher of the locale. -/
theorem mapM_named {before after : Registry} {locale : Locale} {matcher : ZoneMatcher}
    (looked : Registry.zoneMatcher locale before = .ok matcher after) (width : Nat) :
    (Token.timestamp ++ [Token.letters 'z' width]).mapM (ReadStep.ofToken locale) before =
      .ok (Token.timestampSteps ++ [⟨.zone matcher, width, 0⟩]) after := by
  -- Numbers and marks ask nothing of the registry, so that it comes to the last token as it is.
  have front : Token.timestamp.mapM (ReadStep.ofToken locale) before =
      .ok Token.timestampSteps before := rfl
  have back : [Token.letters 'z' width].mapM (ReadStep.ofToken locale) before =
      .ok [⟨.zone matcher, width, 0⟩] after := by
    have ruled := ReadRule.zoneRule_eq_ok.mpr ⟨matcher, looked, rfl⟩
    rw [List.mapM_cons]
    exact bind_eq_ok.mpr ⟨_, after, bind_eq_ok.mpr ⟨_, after, ruled, rfl⟩, rfl⟩
  rw [List.mapM_append]
  exact bind_eq_ok.mpr ⟨_, before, front, bind_eq_ok.mpr ⟨_, after, back, rfl⟩⟩

/-- The pattern compiles to a format of the names that the table has for the zone. -/
theorem compile_namedPattern {registry : Registry} (kept : registry.NamesKept) {width : Nat}
    (positive : 0 < width) (zone : Zone) {locale : Locale} {matcher : ZoneMatcher}
    (built : registry.buildZones locale = .ok matcher) (centuryStart : Option Instant)
    {entry : ZoneNames}
    (found : (registry.localeData.zoneNames locale).find? (·.id == zone.id) = some entry) :
    ∃ format after, compile (namedPattern width) zone locale centuryStart registry =
        .ok format after ∧
      format.calendar = (registry.localeData.symbols locale).calendar ∧
      format.Named zone entry registry.regions (registry.localeData.zoneNames locale) (4 ≤ width)
        registry.now := by
  -- The two names are asked for first, and then the matcher.
  let long : Bool := 4 ≤ width
  let standardKey : ZoneNameKey := ⟨zone, false, long, locale⟩
  let daylightKey : ZoneNameKey := ⟨zone, true, long, locale⟩
  let middle := ((registry.zoneName standardKey).2.zoneName daylightKey).2
  have standard : (registry.zoneName standardKey).1 = entry.name false long :=
    kept.zoneName_of_entry found
  have keptThen := (kept.zoneName standardKey).2
  have daylight : ((registry.zoneName standardKey).2.zoneName daylightKey).1 =
      entry.name true long := keptThen.zoneName_of_entry found
  have keptLast : middle.NamesKept := (keptThen.zoneName daylightKey).2
  have written : writeRules (Token.timestamp ++ [.letters 'z' width]) zone locale
      (registry.localeData.symbols locale) registry =
        .ok (Token.timestampRules ++ [.zoneName (entry.name false long) (entry.name true long)])
          middle := by
    rw [← standard, ← daylight]
    rfl
  -- Names of zones change nothing that a matcher is built from.
  obtain ⟨after, looked, -⟩ := keptLast.zoneMatcher locale
  rw [show middle.buildZones locale = .ok matcher from built] at looked
  have stepped := mapM_named (looked : Registry.zoneMatcher locale middle = .ok matcher after) width
  rw [Registry.eq_of_buildZones built] at stepped
  unfold compile
  rw [ofPattern_namedPattern positive]
  exact ⟨_, after, bind_eq_ok.mpr ⟨_, registry, rfl, bind_eq_ok.mpr ⟨registry, registry, rfl,
      bind_eq_ok.mpr ⟨_, middle, written, bind_eq_ok.mpr ⟨_, after,
        bind_eq_ok.mpr ⟨middle, middle, rfl, bind_eq_ok.mpr ⟨_, after, stepped, rfl⟩⟩, rfl⟩⟩⟩⟩,
    rfl, rfl, rfl, ⟨width, rfl⟩, rfl, rfl⟩

/-- The name of the kind of time is written after the date and the time of day. -/
theorem Named.write_eq {format : Format} {zone : Zone} {entry : ZoneNames}
    {regions : List Region} {table : List ZoneNames} {long : Bool} {reference : Int}
    (named : format.Named zone entry regions table long reference) (instant : Instant) :
    format.write instant = Token.timestampRules.flatMap (·.write (format.fields instant)) ++
      (entry.name ((zone.offsetsAt instant.millis).daylight ≠ 0) long).toList := by
  -- The name in daylight saving time is written just where something is added to the offset.
  have daylight : (format.fields instant).dstOffset = (zone.offsetsAt instant.millis).daylight := by
    rw [← named.zone]
    rfl
  rw [write, named.rules, List.flatMap_append, List.flatMap_singleton, WriteRule.write, daylight]
  -- Which of the two names is meant depends on what daylight saving adds.
  by_cases none : (zone.offsetsAt instant.millis).daylight = 0 <;> simp [none]

/-- An instant whose offset is told by the name that an entry has for it around a moment. -/
structure TellsOffset (entry : ZoneNames) (place : Region) (regions : List Region)
    (table : List ZoneNames) (long : Bool) (reference : Int) (instant : Instant) : Prop where
  /-- The standard offset is the same around the moment. -/
  standard : ((Zone.region place).offsetsAt instant.millis).standard =
    ((Zone.region place).offsetsAt reference).standard
  /-- Daylight saving adds nothing, or what it adds around the moment. -/
  daylight : ((Zone.region place).offsetsAt instant.millis).daylight = 0 ∨
    ((Zone.region place).offsetsAt instant.millis).daylight =
      (Zone.region place).daylightSaving reference
  /-- The name begins neither with a sign nor with GMT. -/
  plain : ZoneMatcher.Unnumbered (entry.name
    (((Zone.region place).offsetsAt instant.millis).daylight ≠ 0) long).toList
  /-- The table lists the name first for the zone, and for the kind of time. -/
  first : table.findSome? (·.listing? regions (Text.lowercase (entry.name
      (((Zone.region place).offsetsAt instant.millis).daylight ≠ 0) long).toList)) =
    some ⟨.region place, ((Zone.region place).offsetsAt instant.millis).daylight ≠ 0⟩

/-- The name stands for the offsets of the instant. -/
theorem TellsOffset.offsets {entry : ZoneNames} {place : Region} {regions : List Region}
    {table : List ZoneNames} {long : Bool} {reference : Int} {instant : Instant}
    (tells : TellsOffset entry place regions table long reference instant) :
    (NamedZone.mk (.region place)
      (((Zone.region place).offsetsAt instant.millis).daylight ≠ 0)).offsets reference =
        (Zone.region place).offsetsAt instant.millis := by
  obtain ⟨standard, daylight, -, -⟩ := tells
  -- Of the region only its two offsets at the instant matter.
  revert standard daylight
  generalize (Zone.region place).offsetsAt instant.millis = offsets
  intro standard daylight
  obtain ⟨own, saving⟩ := offsets
  simp only [NamedZone.offsets] at standard daylight ⊢
  rw [← standard]
  by_cases none : saving = 0
  · simp [none]
  · have adds := daylight.resolve_left none
    simp [none, ← adds]

/--
A time with the name of its zone is read back, up to the milliseconds.

Of two instants at which the clocks look the same, the name tells which one is meant.
-/
theorem readAt_render_named {registry : Registry} (kept : registry.NamesKept) {width : Nat}
    (positive : 0 < width) {place : Region} (formed : place.WellFormed) {locale : Locale}
    (builds : ∃ matcher, registry.buildZones locale = .ok matcher) (centuryStart : Option Instant)
    (christian : (registry.localeData.symbols locale).calendar.system = .gregorian)
    (ascii : ∀ other ∈ registry.localeData.zoneNames locale, ∀ column ∈ other.columns,
      ∀ c ∈ column.1, c.toNat < 0x80)
    {entry : ZoneNames}
    (found : (registry.localeData.zoneNames locale).find? (·.id == place.name) = some entry)
    {instant : Instant} (nano : instant.nano < 1000000000) (civil : instant.InCivilRange)
    (year : 1 ≤ (Date.ofDay (CalendarFields.wallDay instant (.region place))).year)
    (tells : TellsOffset entry place registry.regions (registry.localeData.zoneNames locale)
      (4 ≤ width) registry.now instant) :
    ∃ format after, compile (namedPattern width) (.region place) locale centuryStart registry =
        .ok format after ∧
      format.reader.readAt (format.render instant) ⟨0, none⟩ =
        (some (.ofMillis instant.millis), ⟨Text.byteLength (format.write instant), none⟩) := by
  obtain ⟨matcher, built⟩ := builds
  obtain ⟨format, after, compiled, calendar, named⟩ :=
    compile_namedPattern kept positive (.region place) built centuryStart found
  refine ⟨format, after, compiled, ?_⟩
  let offsets := (Zone.region place).offsetsAt instant.millis
  let name := (entry.name (offsets.daylight ≠ 0) (4 ≤ width)).toList
  have text : (format.render instant).toList = format.write instant := String.toList_ofList
  have fieldsAre : format.fields instant = .ofInstant instant (.region place) format.calendar := by
    rw [fields, named.zone]
  have system : format.calendar.system = .gregorian := by rw [calendar, christian]
  -- The date and the time are read first, and the name is what is left.
  obtain ⟨findings, read, resolved⟩ := format.reader.exists_timestamp_offsets formed system nano
    civil year rfl name
  -- The name is listed first in the table, so that it stands for the entry and for its kind of
  -- time.
  have alike := ZoneNames.caseAlike_name registry.regions ascii
    (List.mem_of_find?_eq_some found) (offsets.daylight ≠ 0) (4 ≤ width)
  obtain ⟨last, steps⟩ := named.steps
  have readName := format.reader.readSteps_wholeName tells.plain alike tells.first last
  have readAll : format.reader.readSteps format.reader.steps (format.render instant).toList =
      (findings ++ [.value .dstOffset offsets.daylight, .value .zoneOffset offsets.standard],
        .ok []) := by
    rw [text, named.write_eq, fieldsAre, steps]
    refine Reader.readSteps_append_eq_ok.mpr ⟨_, _, _, read, readName, ?_⟩
    rw [Reader.zoneFindings, named.reference, tells.offsets]
  rw [← text]
  exact readAt_of_readSteps readAll (by rw [named.readerCalendar]; exact resolved _)

/-- Both times at which the clocks of Tokyo showed half past midnight are told apart by their names. -/
theorem readAt_render_named_tokyo1951 :
    let entry : ZoneNames :=
      ⟨"Asia/Tokyo", "Japan Standard Time", "JST", "Japan Daylight Time", "JDT"⟩
    let place := History.tokyo.region
    let registry : Registry :=
      { defaults := ⟨.utc, .americanEnglish, 80⟩
        localeData := ⟨Symbols.ofLocale, fun _ => none, fun _ => [entry]⟩
        regions := [place]
        now := -600000000000 }
    registry.NamesKept ∧ place.WellFormed ∧
      (∃ matcher, registry.buildZones .americanEnglish = .ok matcher) ∧
      (registry.localeData.symbols .americanEnglish).calendar.system = .gregorian ∧
      (∀ other ∈ [entry], ∀ column ∈ other.columns, ∀ c ∈ column.1, c.toNat < 0x80) ∧
      [entry].find? (·.id == place.name) = some entry ∧
      ∀ instant ∈ [(⟨-577963800, 123456789⟩ : Instant), ⟨-577960200, 123456789⟩],
        instant.InCivilRange ∧
        1 ≤ (Date.ofDay (CalendarFields.wallDay instant (.region place))).year ∧
        TellsOffset entry place [place] [entry] false registry.now instant ∧
        ∃ format after, compile (namedPattern 1) (.region place) .americanEnglish none registry =
            .ok format after ∧
          format.reader.readAt (format.render instant) ⟨0, none⟩ =
            (some (.ofMillis instant.millis), ⟨Text.byteLength (format.write instant), none⟩) := by
  intro entry place registry
  have kept : registry.NamesKept := Registry.namesKept_fresh registry
  have formed : place.WellFormed := by decide +kernel
  have builds : ∃ matcher, registry.buildZones .americanEnglish = .ok matcher := ⟨_, rfl⟩
  have christian : (registry.localeData.symbols .americanEnglish).calendar.system = .gregorian :=
    rfl
  have ascii : ∀ other ∈ [entry], ∀ column ∈ other.columns, ∀ c ∈ column.1, c.toNat < 0x80 := by
    have all : [entry].all (fun other => other.columns.all fun column =>
        column.1.all fun c => c.toNat < 0x80) = true := by decide +kernel
    simpa only [List.all_eq_true, decide_eq_true_eq] using all
  have found : [entry].find? (·.id == place.name) = some entry := rfl
  -- Around the moment of the registry the clocks were put forward by an hour in summer.
  have standard : ((Zone.region place).offsetsAt registry.now).standard = 32400000 := by
    decide +kernel
  have added : (Zone.region place).daylightSaving registry.now = 3600000 := by decide +kernel
  have told : ∀ {instant : Instant} {saving : Int},
      (Zone.region place).offsetsAt instant.millis = ⟨32400000, saving⟩ →
        saving = 0 ∨ saving = 3600000 →
          TellsOffset entry place [place] [entry] false registry.now instant := by
    intro instant saving shown kind
    constructor
    case standard => rw [shown, standard]
    case daylight =>
      rw [shown, added]
      exact kind
    all_goals
      rw [shown]
      rcases kind with rfl | rfl
    all_goals decide +kernel
  refine ⟨kept, formed, builds, christian, ascii, found, ?_⟩
  intro instant listed
  have listed : instant = ⟨-577963800, 123456789⟩ ∨ instant = ⟨-577960200, 123456789⟩ := by
    simpa using listed
  -- The first of the two is in summer time, and an hour later the clocks show the same time again.
  rcases listed with rfl | rfl
  · have civil : (Instant.mk (-577963800) 123456789).InCivilRange := by decide
    have year : 1 ≤ (Date.ofDay (CalendarFields.wallDay ⟨-577963800, 123456789⟩
      (.region place))).year := by decide +kernel
    have shown : (Zone.region place).offsetsAt (Instant.mk (-577963800) 123456789).millis =
        ⟨32400000, 3600000⟩ := by decide +kernel
    have summer := told shown (.inr rfl)
    exact ⟨civil, year, summer, readAt_render_named kept Nat.one_pos formed builds none christian
      ascii found (by decide) civil year summer⟩
  · have civil : (Instant.mk (-577960200) 123456789).InCivilRange := by decide
    have year : 1 ≤ (Date.ofDay (CalendarFields.wallDay ⟨-577960200, 123456789⟩
      (.region place))).year := by decide +kernel
    have shown : (Zone.region place).offsetsAt (Instant.mk (-577960200) 123456789).millis =
        ⟨32400000, 0⟩ := by decide +kernel
    have winter := told shown (.inl rfl)
    exact ⟨civil, year, winter, readAt_render_named kept Nat.one_pos formed builds none christian
      ascii found (by decide) civil year winter⟩

end Format

end DatePattern
