import DatePattern.Proofs.Calendar.Lenient
import DatePattern.Proofs.Compile
import DatePattern.Proofs.Names.ZoneMatcher
import DatePattern.Proofs.Reading.Checked
import DatePattern.Proofs.Registry.MadeFrom
import DatePattern.Proofs.Text.Digits
import DatePattern.Proofs.Text.Taken

/-!
Readable fields: whatever a text holds, the fields collected from it are ones that resolve exactly or not at all.

A step finds only what its rule can read, and so do all steps in a row, whether the last of them succeeds or not. The
rules of a compiled format are such rules, as its names and its window come from tables and defaults that can be held.
The main statement is `Format.resolve?_readInto`.
-/

namespace DatePattern

/-- A rule all of whose findings can be read, where the names of zones are understood around a moment. -/
def ReadRule.CanRead (reference : Int) : ReadRule → Prop
  | .number field _ => field ≠ .nanoOfSecond
  | .text matcher => ∀ name value, matcher.names.meaning? name = some value →
      matcher.field.CanRead value
  | .zone matcher => ∀ name named, matcher.names.meaning? name = some named →
      Field.zoneOffset.CanRead (named.offsets reference).standard ∧
        Field.dstOffset.CanRead (named.offsets reference).daylight
  | .fraction | .literal _ | .isoZone _ => True

namespace Reader

/-- The thirty-ninth power of two, which is half as far away as the last years that resolve. -/
def farthestWindow : Nat := 549755813888

/-- A reader all of whose rules find what can be read, and whose window of years is not too far away. -/
structure CanRead (reader : Reader) : Prop where
  /-- The window of two-digit years lies where years resolve. -/
  window : reader.windowStart.natAbs ≤ farthestWindow
  /-- Every rule finds what can be read. -/
  steps : ∀ step ∈ reader.steps, step.rule.CanRead reader.reference

variable {reader : Reader}

/-- A year of two digits is placed in the hundred years that begin with the window. -/
theorem placeYear_bounds (reader : Reader) {year : Int} (low : 0 ≤ year) (high : year < 100) :
    reader.windowStart ≤ reader.placeYear year ∧
      reader.placeYear year < reader.windowStart + 100 := by
  -- The year goes into the century of the window, or into the next one if the window begins later.
  simp only [placeYear]
  split <;> omega

/-- A number that is read gives a field a value that it can have. -/
theorem canRead_modify? (window : reader.windowStart.natAbs ≤ farthestWindow) {field : Field}
    (whole : field ≠ .nanoOfSecond) {number value : Int} (low : 0 ≤ number)
    (fits : Count.Fits number) {modifier : Modifier}
    (modified : reader.modify? number modifier = some value) : field.CanRead value := by
  have high := fits.2
  simp only [Count.greatest] at high
  simp only [farthestWindow] at window
  -- It is enough that the value is not far below zero and fits.
  suffices bounds : -1099511627776 ≤ value ∧ value ≤ 9223372036854775807 from
    ⟨bounds.1, bounds.2, fun same => absurd same whole⟩
  cases modifier with
  | none =>
    obtain rfl := Option.some.inj modified
    omega
  | month =>
    obtain ⟨-, rfl⟩ := Count.within?_eq_some_iff.mp modified
    omega
  | abbreviatedYear =>
    obtain rfl := Option.some.inj modified
    by_cases short : number < 100
    · have placed := placeYear_bounds reader low short
      rw [if_pos short]
      omega
    · rw [if_neg short]
      omega
  | twelveHour =>
    obtain rfl := Option.some.inj modified
    split <;> omega
  | twentyFourHour =>
    obtain rfl := Option.some.inj modified
    split <;> omega
  | dayInWeek =>
    simp only [modify?] at modified
    by_cases sunday : number = 7
    · rw [if_pos sunday] at modified
      obtain rfl := Option.some.inj modified
      omega
    · rw [if_neg sunday] at modified
      obtain ⟨inside, rfl⟩ := Count.within?_eq_some_iff.mp modified
      exact ⟨by omega, inside.2⟩

/-- The nanoseconds of a run of digits are less than a second. -/
theorem nanosOf_bounds {digits : List Char} (ascii : ∀ c ∈ digits, Text.isAsciiDigit c = true) :
    0 ≤ nanosOf digits ∧ nanosOf digits < 1000000000 := by
  -- Those that count are nine at most, and zeros stand for the others.
  have kept : Digits.value (digits.take 9) < Digits.power (digits.take 9).length :=
    Digits.value_lt_power fun c listed => ascii c (List.mem_of_mem_take listed)
  have nine : Digits.power (digits.take 9).length * Digits.power (9 - (digits.take 9).length) =
      1000000000 := Digits.power_mul_power_sub (List.length_take_le 9 digits)
  have below := Nat.mul_lt_mul_of_pos_right kept (Digits.power_pos (9 - (digits.take 9).length))
  rw [nine] at below
  simp only [nanosOf]
  omega

/-- Whatever a step finds can be read. -/
theorem canRead_readStep {step : ReadStep} (rule : step.rule.CanRead reader.reference)
    (window : reader.windowStart.natAbs ≤ farthestWindow) {text rest : List Char}
    {found : List Finding} (read : reader.readStep step text = .ok (found, rest)) :
    ∀ finding ∈ found, finding.CanRead := by
  have ends := reader.ends_readStep step text
  rw [read] at ends
  generalize step.rule = own at rule ends
  -- A step finds one value, the offsets of a name, a zone, or nothing.
  cases ends with
  | number run _ fits modified =>
    obtain ⟨inside, rfl⟩ := Count.within?_eq_some_iff.mp fits
    have canRead := canRead_modify? window rule (Int.natCast_nonneg _) inside modified
    exact List.forall_mem_singleton.mpr canRead
  | fraction run =>
    have bounds := nanosOf_bounds (digitRun_spec run).ascii
    exact List.forall_mem_singleton.mpr
      ⟨Int.le_trans (by decide) bounds.1, Int.le_trans (Int.le_of_lt bounds.2) (by decide),
        fun _ => bounds⟩
  | literal => exact nofun
  | @text _ value taken _ matched =>
    exact List.forall_mem_singleton.mpr (rule taken value (TextMatcher.meaning_of_match? matched))
  | @zone _ mention taken _ matched =>
    cases mention with
    | offset zone => exact List.forall_mem_singleton.mpr trivial
    | named named =>
      obtain ⟨standard, daylight⟩ := rule taken named (ZoneMatcher.meaning_of_match? matched)
      exact List.forall_mem_cons.mpr ⟨daylight, List.forall_mem_singleton.mpr standard⟩
  | isoZone => exact List.forall_mem_singleton.mpr trivial

/-- Whatever steps find can be read, even where one of them fails. -/
theorem canRead_readSteps {steps : List ReadStep}
    (rules : ∀ step ∈ steps, step.rule.CanRead reader.reference)
    (window : reader.windowStart.natAbs ≤ farthestWindow) (text : List Char) :
    ∀ finding ∈ (reader.readSteps steps text).1, finding.CanRead := by
  -- What the first step finds stands before what the others find in the rest of the text.
  induction steps generalizing text with
  | nil =>
    intro finding none
    cases none
  | cons step steps ih =>
    rw [readSteps]
    cases read : reader.readStep step text with
    | error skipped =>
      intro finding none
      cases none
    | ok outcome =>
      obtain ⟨found, rest⟩ := outcome
      have first := canRead_readStep (rules step List.mem_cons_self) window read
      have later := ih (fun other listed => rules other (List.mem_cons_of_mem _ listed)) rest
      exact List.forall_mem_append.mpr ⟨first, later⟩

/-- Reading keeps the fields that are collected readable, whether it succeeds or not. -/
theorem readable_readInto (canRead : reader.CanRead) (text : String) (position : Position)
    {collected : Collected} (readable : collected.Readable) :
    (reader.readInto text position collected).2.2.Readable := by
  rw [readInto]
  cases Text.from? text.toList position.index with
  | none => exact readable
  | some rest =>
    -- What was found before a failure is taken in as well.
    have found := readable.addAll (canRead_readSteps canRead.steps canRead.window rest)
    simp only
    split <;> exact found

end Reader

/-- The names of a field mean values that the field can have. -/
theorem Symbols.canRead_displayNames {symbols : Symbols} (few : symbols.eras.length ≤ Count.greatest)
    {field : Field} {name : String × Int} (listed : name ∈ symbols.displayNames field) :
    field.CanRead name.2 := by
  -- A value is the place of the name in its list, counted from zero or from one.
  have placed : ∃ long index, name.2 = (index : Nat) + firstValue field ∧
      index < (symbols.names field long).length := by
    simp only [displayNames, valuedNames, List.mem_append, List.mem_filter, List.mem_map] at listed
    rcases listed with ⟨⟨⟨text, index⟩, inList, rfl⟩, -⟩ | ⟨⟨⟨text, index⟩, inList, rfl⟩, -⟩
    · exact ⟨true, index, rfl, List.snd_lt_of_mem_zipIdx inList⟩
    · exact ⟨false, index, rfl, List.snd_lt_of_mem_zipIdx inList⟩
  obtain ⟨long, index, valueIs, below⟩ := placed
  -- Only four fields have names, and none of them is the nanoseconds.
  have size : ((symbols.names field long).length : Int) + firstValue field ≤ Count.greatest ∧
      field ≠ .nanoOfSecond := by
    cases field <;> cases long <;> first
      | exact absurd below (Nat.not_lt_zero _)
      | exact ⟨by simpa [names, firstValue] using few, by decide⟩
      | exact ⟨by simp [names, firstValue, Count.greatest], by decide⟩
  have first : 0 ≤ firstValue field := by cases field <;> decide
  refine ⟨?_, by omega, fun same => absurd same size.2⟩
  simp only [Collected.greatestYear]
  omega

/-- Parts of an offset of less than 32 bits. -/
def Offsets.Held (offsets : Offsets) : Prop :=
  offsets.standard.natAbs ≤ 2147483648 ∧ offsets.daylight.natAbs ≤ 2147483648

/-- Parts of an offset that can be held are values that the fields of the offset can have. -/
theorem Offsets.Held.canRead {offsets : Offsets} (held : offsets.Held) :
    Field.zoneOffset.CanRead offsets.standard ∧ Field.dstOffset.CanRead offsets.daylight := by
  -- Numbers of 32 bits lie far inside the range.
  obtain ⟨standard, daylight⟩ := held
  refine ⟨⟨?_, ?_, nofun⟩, ⟨?_, ?_, nofun⟩⟩ <;>
    simp only [Collected.greatestYear, Count.greatest] <;> omega

/-- Daylight saving is that of some moment of the year or nothing, so that it can be held as well. -/
theorem Zone.daylightSaving_small {zone : Zone} (held : ∀ millis, (zone.offsetsAt millis).Held)
    (reference : Int) : (zone.daylightSaving reference).natAbs ≤ 2147483648 := by
  -- The sample that is taken is one of the samples.
  have sampled : ∀ samples : List Int, (∀ sample ∈ samples, sample.natAbs ≤ 2147483648) →
      ((samples.find? (· ≠ 0)).getD 0).natAbs ≤ 2147483648 := by
    intro samples small
    cases found : samples.find? (· ≠ 0) with
    | none => decide
    | some sample => exact small sample (List.mem_of_find?_eq_some found)
  unfold daylightSaving
  split
  · decide
  · decide
  · refine sampled _ fun sample listed => ?_
    obtain ⟨month, -, rfl⟩ := List.mem_map.mp listed
    exact (held _).2

/-- The offsets that a name stands for can be held if all offsets of its zone can. -/
theorem NamedZone.held_offsets {named : NamedZone}
    (held : ∀ millis, (named.zone.offsetsAt millis).Held) (reference : Int) :
    (named.offsets reference).Held := by
  -- A name of standard time stands for no daylight saving at all.
  refine ⟨(held reference).1, ?_⟩
  simp only [offsets]
  split
  · exact Zone.daylightSaving_small held reference
  · decide

/-- A registry whose tables and defaults can be held. -/
structure Registry.Held (source : Registry) : Prop where
  /-- There are not more eras than can be counted. -/
  eras : ∀ locale, (source.localeData.symbols locale).eras.length ≤ Count.greatest
  /-- The offsets of the zones in the tables have 32 bits. -/
  zones : ∀ locale, ∀ place ∈ source.localeData.zoneNames locale, ∀ zone,
    Zone.ofId? source.regions place.id = some zone → ∀ millis, (zone.offsetsAt millis).Held
  /-- The lookback has 32 bits. -/
  lookback : source.defaults.lookback.natAbs ≤ 2147483648

/-- The names of a field in a locale are read as what they mean. -/
theorem Registry.Held.canRead_buildText {source : Registry} (held : source.Held) (reference : Int)
    {field : Field} {locale : Locale} {matcher : TextMatcher}
    (built : source.buildText field locale = .ok matcher) :
    (ReadRule.text matcher).CanRead reference := by
  rw [eq_of_buildText built]
  intro name value meant
  rw [TextMatcher.ofNames, Lexicon.meaning?_ofNames] at meant
  -- A meaning is the value of some name in the table.
  obtain ⟨entry, found, rfl⟩ := Option.map_eq_some_iff.mp meant
  obtain ⟨other, listed, rfl⟩ := List.mem_map.mp (List.mem_of_find?_eq_some found)
  exact Symbols.canRead_displayNames (held.eras locale) listed

/-- The names of zones in a locale are read as the offsets of their zones. -/
theorem Registry.Held.canRead_buildZones {source : Registry} (held : source.Held) (reference : Int)
    {locale : Locale} {matcher : ZoneMatcher} (built : source.buildZones locale = .ok matcher) :
    (ReadRule.zone matcher).CanRead reference := by
  rw [eq_of_buildZones built]
  intro name named meant
  rw [ZoneMatcher.ofTable, Lexicon.meaning?_ofNames] at meant
  -- A meaning is the zone of some place in the table.
  obtain ⟨⟨spelled, listed⟩, found, rfl⟩ := Option.map_eq_some_iff.mp meant
  obtain ⟨place, among, inPlace⟩ := List.mem_flatMap.mp (List.mem_of_find?_eq_some found)
  have zone := (ZoneMatcher.mem_namesOf inPlace).1
  exact (NamedZone.held_offsets (held.zones locale place among _ zone) reference).canRead

/-- The rule of a letter finds what can be read. -/
theorem ReadRule.canRead_ofLetter {before after source : Registry} (held : source.Held)
    (made : before.MadeFrom source) {locale : Locale} {letter : Char} {width : Nat}
    {rule : ReadRule} (ruled : ofLetter locale letter width before = .ok rule after) :
    rule.CanRead source.now := by
  have named : ∀ field, ReadRule.named locale field before = .ok rule after →
      rule.CanRead source.now := by
    -- Whatever the registry has kept, the matcher is one that the source builds.
    intro field ruled
    obtain ⟨matcher, looked, rfl⟩ := named_eq_ok.mp ruled
    exact held.canRead_buildText _ ((made.textMatcher field locale).1.symm.trans (ended_ok looked).1)
  have zoned : ReadRule.zoneRule locale before = .ok rule after → rule.CanRead source.now := by
    intro ruled
    obtain ⟨matcher, looked, rfl⟩ := zoneRule_eq_ok.mp ruled
    exact held.canRead_buildZones _ ((made.zoneMatcher locale).1.symm.trans (ended_ok looked).1)
  simp only [ofLetter] at ruled
  -- No letter gives a number to the nanoseconds, which are read as a fraction.
  split at ruled
  all_goals first
    | exact named _ ruled
    | exact zoned ruled
    | (cases ruled; simp [CanRead])
    | cases ruled
    | (split at ruled <;> first
        | exact named _ ruled
        | exact zoned ruled
        | (cases ruled; simp [CanRead])
        | cases ruled)

/-- The step of a token finds what can be read. -/
theorem ReadStep.canRead_ofToken {before after source : Registry} (held : source.Held)
    (made : before.MadeFrom source) {locale : Locale} {token : Token} {step : ReadStep}
    (stepped : ofToken locale token before = .ok step after) : step.rule.CanRead source.now := by
  -- Literal text finds nothing, and letters are read by their rule.
  cases token with
  | literal text =>
    cases stepped
    trivial
  | letters letter width =>
    obtain ⟨rule, middle, ruled, wrapped⟩ := bind_eq_ok.mp stepped
    obtain ⟨rfl, rfl⟩ := pure_eq_ok.mp wrapped
    exact ReadRule.canRead_ofLetter held made ruled

/-- Holding numbers to their width leaves the rules as they are. -/
theorem ReadStep.rule_of_mem_bounded {steps : List ReadStep} {step : ReadStep}
    (listed : step ∈ bounded steps) : ∃ own ∈ steps, own.rule = step.rule := by
  -- Only the greatest width of a step changes, one step after the other.
  fun_induction bounded steps with
  | case1 first second rest ih =>
    rcases List.mem_cons.mp listed with rfl | later
    · refine ⟨first, List.mem_cons_self, ?_⟩
      split <;> rfl
    · obtain ⟨own, among, same⟩ := ih later
      exact ⟨own, List.mem_cons_of_mem _ among, same⟩
  | case2 steps => exact ⟨step, listed, rfl⟩

/-- Even the last instants that can be counted lie in years of nine digits. -/
theorem CalendarFields.natAbs_year_le (instant : Instant) (zone : Zone) (calendar : Calendar) :
    (ofInstant instant zone calendar).year.natAbs ≤ 600002019 := by
  have fits := Count.fits_clamp (instant.millis + zone.offsetAt instant.millis)
  simp only [Count.Fits, Count.least, Count.greatest] at fits
  have small : (wallDay instant zone).natAbs ≤ 200000000000 := by
    rw [wallDay, wallMillis]
    omega
  -- Counting in an era moves a year by no more than the years up to the last era.
  have civil := Date.year_ofDay_small small
  have counted := calendar.natAbs_countedInEra_le (wallDay instant zone)
    (Date.ofDay (wallDay instant zone)).year (Date.ofDay (wallDay instant zone)).year
  rw [year_ofInstant, Calendar.eraYears_eq]
  simp only
  omega

/-- The window of two-digit years is not too far away, wherever it is asked to begin. -/
theorem Format.windowStart_small {registry : Registry}
    (lookback : registry.defaults.lookback.natAbs ≤ 2147483648) (zone : Zone) (locale : Locale)
    (calendar : Calendar) (centuryStart : Option Instant) :
    (windowStart registry zone locale calendar centuryStart).natAbs ≤ Reader.farthestWindow := by
  -- The window begins in the year of an instant, or a number of years before now.
  simp only [Reader.farthestWindow]
  cases centuryStart with
  | some start =>
    have year := CalendarFields.natAbs_year_le start zone calendar
    rw [windowStart]
    omega
  | none =>
    have year := CalendarFields.natAbs_year_le (.ofMillis registry.now) zone calendar
    rw [windowStart]
    split <;> omega

/-- Each result of items in a row is the result of one of them, from a state that is kept. -/
theorem mem_of_mapM_ok {σ α β : Type} {kind : σ → Prop} {step : α → EStateM PatternError σ β}
    (each : ∀ item, Preserves kind (step item)) {items : List α} {before after : σ}
    {results : List β} (own : kind before) (ran : items.mapM step before = .ok results after) :
    ∀ result ∈ results, ∃ item ∈ items, ∃ middle last, kind middle ∧
      step item middle = .ok result last := by
  -- The first item hands on a state of the kind to the others.
  induction items generalizing before after results with
  | nil =>
    obtain ⟨rfl, -⟩ := pure_eq_ok.mp ran
    exact nofun
  | cons item items ih =>
    rw [List.mapM_cons] at ran
    obtain ⟨first, middle, here, ran⟩ := bind_eq_ok.mp ran
    obtain ⟨others, last, later, ran⟩ := bind_eq_ok.mp ran
    obtain ⟨rfl, -⟩ := pure_eq_ok.mp ran
    have handed := each item before own
    rw [(ended_ok here).2] at handed
    refine List.forall_mem_cons.mpr ⟨⟨item, List.mem_cons_self, before, middle, own, here⟩, ?_⟩
    intro result listed
    obtain ⟨other, among, rest⟩ := ih handed later result listed
    exact ⟨other, List.mem_cons_of_mem _ among, rest⟩

/-- The reading side of a compiled format finds what can be read. -/
theorem Format.canRead_compile {before after source : Registry} (held : source.Held)
    (made : before.MadeFrom source) {pattern : String} {zone : Zone} {locale : Locale}
    {centuryStart : Option Instant} {format : Format}
    (compiled : compile pattern zone locale centuryStart before = .ok format after) :
    format.reader.CanRead := by
  have kept := Registry.keptByUse_madeFrom source
  obtain ⟨tokens, middle, -, written, readable, -⟩ := compile_ok compiled
  unfold writeRules at written
  unfold readerOf at readable
  -- The reading side is made from what the write rules leave.
  have handed := preserves_mapM (WriteRule.preserves_ofToken kept zone locale
    (before.localeData.symbols locale)) tokens before made
  rw [(ended_ok written).2] at handed
  obtain ⟨_, _, here, readable⟩ := bind_eq_ok.mp readable
  cases here
  obtain ⟨steps, last, stepped, readable⟩ := bind_eq_ok.mp readable
  obtain ⟨readerIs, -⟩ := pure_eq_ok.mp readable
  rw [readerIs]
  refine ⟨windowStart_small (by rw [handed.defaults]; exact held.lookback) _ _ _ _, ?_⟩
  intro step listed
  obtain ⟨own, among, same⟩ := ReadStep.rule_of_mem_bounded listed
  obtain ⟨token, -, start, finish, madeThen, ofToken⟩ := mem_of_mapM_ok
    (ReadStep.preserves_ofToken kept locale) handed stepped own among
  rw [← same, handed.now]
  exact ReadStep.canRead_ofToken held madeThen ofToken

/-- What a compiled format reads resolves to the instant that its fields denote exactly, or to nothing. -/
theorem Format.resolve?_readInto {before after source : Registry} (held : source.Held)
    (made : before.MadeFrom source) {pattern : String} {zone : Zone} {locale : Locale}
    {centuryStart : Option Instant} {format : Format}
    (compiled : compile pattern zone locale centuryStart before = .ok format after)
    (text : String) (position : Position) {collected : Collected}
    (read : (format.reader.readInto text position .empty).2.2 = collected) {presumed : Zone}
    (formed : (collected.zone?.getD presumed).WellFormed) (calendar : Calendar) :
    collected.resolve? presumed calendar =
      if collected.Resolvable calendar then
        (collected.exactMillis? presumed calendar).map fun millis =>
          .ofNanos (millis * 1000000 + collected.valueD .nanoOfSecond 0)
      else none := by
  -- Exactness asks for nanoseconds of less than a second only, which readable fields have.
  have readable := Reader.readable_readInto (canRead_compile held made compiled) text position
    Collected.readable_empty
  rw [read] at readable
  exact Collected.resolve?_eq_checked formed readable.nanos_bounds

end DatePattern
