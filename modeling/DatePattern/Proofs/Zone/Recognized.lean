import DatePattern.Proofs.Cache
import DatePattern.Proofs.Names.ZoneMatcher
import DatePattern.Proofs.Zone.Mentions
import DatePattern.Reading.Reader

/-! Recognized zones: what each text stands for that a zone is read from, also where it stands for none. -/

namespace DatePattern

namespace ZoneMatcher

/-- A text is a name of some entry of a table, up to the case of its letters. -/
def Listed (regions : List Region) (table : List ZoneNames) (taken : List Char) : Prop :=
  ∃ entry ∈ table, ∃ name ∈ namesOf regions entry,
    (Text.lowercase name.1).map Text.foldCase = taken.map Text.foldCase

/-- The zone that a name stands for, which is that of the first entry with the name. -/
def FirstListed (regions : List Region) (table : List ZoneNames) (name : List Char)
    (named : NamedZone) : Prop :=
  ∃ before entry after, table = before ++ entry :: after ∧
    Zone.ofId? regions entry.id = some named.zone ∧
    ((namesOf regions entry).find? (Text.lowercase ·.1 == Text.lowercase name)).map (·.2) =
      some named ∧
    ∀ other ∈ before, ∀ listed ∈ namesOf regions other, Text.lowercase listed.1 ≠ Text.lowercase name

/-- What the names of a table take is listed there. -/
theorem listed_of_take? {regions : List Region} {table : List ZoneNames}
    {text taken rest : List Char}
    (found : (ofTable regions table).names.take? text = some (taken, rest)) :
    text = taken ++ rest ∧ Listed regions table taken := by
  -- What is taken is spelled as the key of some name, and keys come from the entries.
  obtain ⟨split, entry, among, same⟩ := Lexicon.take?_eq_some found
  obtain ⟨place, listed, name, here, key⟩ := mem_entries_ofTable among
  exact ⟨split, place, listed, name, here, by rw [key, same]⟩

/-- What a name means in a table is the zone of the first entry with the name. -/
theorem firstListed_of_meaning? {regions : List Region} {table : List ZoneNames} {name : List Char}
    {named : NamedZone} (meant : (ofTable regions table).names.meaning? name = some named) :
    FirstListed regions table name named := by
  -- The first name with the key is the first one of the first entry that has any.
  rw [ofTable, Lexicon.meaning?_ofNames, List.find?_flatMap] at meant
  obtain ⟨⟨spelled, _⟩, first, rfl⟩ := Option.map_eq_some_iff.mp meant
  obtain ⟨before, entry, after, rfl, here, earlier⟩ := List.findSome?_eq_some_iff.mp first
  refine ⟨before, entry, after, rfl, (mem_namesOf (List.mem_of_find?_eq_some here)).1, ?_, ?_⟩
  · rw [here]
    rfl
  · intro other listed name among
    simpa using List.find?_eq_none.mp (earlier other listed) name among

end ZoneMatcher

/-- The texts that a rule takes as an offset, and how they spell it. -/
inductive ReadRule.Spells : ReadRule → (taken : List Char) → (spelled : SpelledOffset) → Prop
  /-- An ISO form takes an offset with its own parts. -/
  | iso {form : OffsetForm} {spelled : SpelledOffset} (fits : spelled.Fits form) :
      Spells (.isoZone form) spelled.text spelled
  /-- A zone may be given by a number. -/
  | number {matcher : ZoneMatcher} {taken : List Char} {spelled : SpelledOffset}
      (numeric : ZoneMatcher.Numeric taken spelled) : Spells (.zone matcher) taken spelled

/-- What is found in a text from which a zone is read with some regions and a table of names, around a moment. -/
inductive ZoneReading (regions : List Region) (table : List ZoneNames) (reference : Int) :
    ReadRule → (taken : List Char) → List Finding → Prop
  /-- The letter Z is UTC. -/
  | zulu {form : OffsetForm} :
      ZoneReading regions table reference (.isoZone form) ['Z'] [.zone .utc]
  /-- An offset is the zone that it is spelled as. -/
  | offset {rule : ReadRule} {taken : List Char} {spelled : SpelledOffset}
      (spells : rule.Spells taken spelled) :
      ZoneReading regions table reference rule taken [.zone (spelled.zone regions)]
  /-- The name GMT is Greenwich. -/
  | greenwich {taken : List Char} (gmt : taken.map Text.lowerAscii = ['g', 'm', 't'])
      (listed : ZoneMatcher.Listed regions table taken) :
      ZoneReading regions table reference (.zone (.ofTable regions table)) taken [.zone .greenwich]
  /-- A name that goes on after GMT is looked up as an identifier, in capitals. -/
  | afterGreenwich {letters more : List Char}
      (gmt : letters.map Text.lowerAscii = ['g', 'm', 't']) (longer : more ≠ [])
      (listed : ZoneMatcher.Listed regions table (letters ++ more)) :
      ZoneReading regions table reference (.zone (.ofTable regions table)) (letters ++ more)
        [.zone (.ofId regions (String.ofList (['G', 'M', 'T'] ++ more.map Text.upperAscii)))]
  /-- A name that begins with a sign is looked up as an identifier after GMT. -/
  | signed {sign : Char} {more : List Char} (signed : sign = '+' ∨ sign = '-')
      (listed : ZoneMatcher.Listed regions table (sign :: more)) :
      ZoneReading regions table reference (.zone (.ofTable regions table)) (sign :: more)
        [.zone (.ofId regions (String.ofList (['G', 'M', 'T'] ++ sign :: more)))]
  /-- Any other name stands for the offsets of the first entry that lists it. -/
  | named {taken : List Char} {named : NamedZone}
      (first : ZoneMatcher.FirstListed regions table taken named) :
      ZoneReading regions table reference (.zone (.ofTable regions table)) taken
        [.value .dstOffset (named.offsets reference).daylight,
          .value .zoneOffset (named.offsets reference).standard]

namespace Reader

variable {reader : Reader} {regions : List Region} {table : List ZoneNames}

/-- The identifier GMT is that of Greenwich, if the region of this name is. -/
theorem ofId_gmt (greenwich : Region.named? regions "GMT" = some Region.greenwich) :
    Zone.ofId regions (String.ofList ['G', 'M', 'T']) = .greenwich := by
  rw [Zone.ofId, Zone.ofId?, String.toList_ofList]
  have kept : Text.trim ['G', 'M', 'T'] = ['G', 'M', 'T'] := by decide
  simp only [kept]
  -- Without a sign it is no custom name, but the name of a region.
  rw [if_neg (by decide), CustomZone.offset?]
  · exact congrArg (fun place => (Option.map Zone.region place).getD .greenwich) greenwich
  · intro _ _ _ _ _ impossible
    cases impossible

/-- A name that begins with GMT is Greenwich, or goes on as an identifier. -/
theorem zoneReading_of_greenwich
    (greenwich : Region.named? regions "GMT" = some Region.greenwich) {letters more : List Char}
    (gmt : letters.map Text.lowerAscii = ['g', 'm', 't'])
    (listed : ZoneMatcher.Listed regions table (letters ++ more)) (reference : Int) :
    ZoneReading regions table reference (.zone (.ofTable regions table)) (letters ++ more)
      [.zone (.ofId regions (String.ofList ((letters ++ more).map Text.upperAscii)))] := by
  rw [List.map_append, ZoneMatcher.map_upperAscii_gmt gmt]
  -- The three letters alone are Greenwich, and more of them are an identifier.
  cases more with
  | nil =>
    rw [List.append_nil] at listed
    rw [List.map_nil, List.append_nil, List.append_nil, ofId_gmt greenwich]
    exact .greenwich gmt listed
  | cons c more => exact .afterGreenwich gmt (List.cons_ne_nil c more) listed

/-- What is found for a display name depends on how the name begins. -/
theorem zoneReading_of_name
    (greenwich : Region.named? reader.regions "GMT" = some Region.greenwich)
    {taken : List Char} {mention : ZoneMention}
    (listed : ZoneMatcher.Listed reader.regions table taken)
    (meant : (ZoneMatcher.ofTable reader.regions table).mention? taken = some mention) :
    ZoneReading reader.regions table reader.reference (.zone (.ofTable reader.regions table)) taken
      (reader.zoneFindings mention) := by
  -- A name has at least one character, as the matcher understands none without.
  cases taken with
  | nil => cases meant
  | cons first more =>
    rw [ZoneMatcher.mention?] at meant
    -- A sign and the letters of GMT are looked for before the names of the table.
    split at meant
    next signed =>
      cases meant
      exact .signed signed listed
    next =>
      split at meant
      next begins =>
        cases meant
        have cut : first :: more = (first :: more).take 3 ++ (first :: more).drop 3 :=
          (List.take_append_drop 3 _).symm
        have gmt := beq_iff_eq.mp begins
        generalize (first :: more).take 3 = letters at cut gmt
        rw [cut] at listed ⊢
        exact zoneReading_of_greenwich greenwich gmt listed reader.reference
      next =>
        obtain ⟨named, found, rfl⟩ := Option.map_eq_some_iff.mp meant
        exact .named (ZoneMatcher.firstListed_of_meaning? found)

/-- Every text that is read as an offset is read, as the zone that it is spelled as. -/
theorem readStep_spelled {step : ReadStep} {taken : List Char} {spelled : SpelledOffset}
    (sameRegions : ∀ matcher, step.rule = .zone matcher → matcher.regions = reader.regions)
    (spells : step.rule.Spells taken spelled) (rest : List Char) :
    reader.readStep step (taken ++ rest) = .ok ([.zone (spelled.zone reader.regions)], rest) := by
  obtain ⟨rule, width, maxWidth⟩ := step
  cases spells with
  | iso fits =>
    have taken := OffsetForm.takeZulu?_eq_some_iff.mpr
      ⟨(rfl : spelled.text ++ rest = spelled.text ++ rest), .inr ⟨spelled, fits, rfl⟩⟩
    -- An offset begins with a sign, so it is not mistaken for the Z of UTC.
    have notZ : spelled.sign ≠ 'Z' := spelled.sign_cases (by decide) (by decide)
    have notZulu : spelled.text ≠ ['Z'] := fun same => notZ (List.cons.inj same).1
    simp only [readStep, taken, isoZone, if_neg notZulu, spelled.ofId_text]
  | @number matcher _ _ numeric =>
    have taken := ZoneMatcher.takeNumeric?_eq_some_iff.mpr
      ⟨(rfl : taken ++ rest = taken ++ rest), spelled, numeric⟩
    simp only [readStep, ZoneMatcher.match?, taken, Option.some_or,
      matcher.mention?_numeric numeric, Option.bind_eq_bind, Option.bind_some, pure, zoneFindings,
      sameRegions matcher rfl]

/-- What is read as a zone is accounted for, and every offset is read, admissible or not.

An offset of more than 23 hours or 59 minutes, or in digits beyond ASCII, has no zone of its own. It is looked up among
the regions, which have none of such a name as a rule, and then stands for Greenwich.
-/
theorem readStep_accounted (reader : Reader)
    (greenwich : Region.named? reader.regions "GMT" = some Region.greenwich)
    (table : List ZoneNames) {step : ReadStep}
    (reads : step.rule = .zone (.ofTable reader.regions table) ∨
      ∃ form, step.rule = .isoZone form) :
    (∀ text found rest, reader.readStep step text = .ok (found, rest) →
      ∃ taken, text = taken ++ rest ∧
        ZoneReading reader.regions table reader.reference step.rule taken found) ∧
    (∀ taken spelled, step.rule.Spells taken spelled → ∀ rest,
      reader.readStep step (taken ++ rest) =
        .ok ([.zone (spelled.zone reader.regions)], rest)) ∧
    ∀ spelled : SpelledOffset,
      Zone.ofId? reader.regions (String.ofList (['G', 'M', 'T'] ++ spelled.text)) =
        if spelled.Admissible then some (.fixed spelled.offset)
        else (Region.named? reader.regions (String.ofList (['G', 'M', 'T'] ++ spelled.text))).map
          .region := by
  -- Both the reader and the matcher of the step look identifiers up in the same regions.
  have sameRegions : ∀ matcher, step.rule = .zone matcher → matcher.regions = reader.regions := by
    intro matcher rule
    rcases reads with same | ⟨form, same⟩
    · rw [same] at rule
      cases rule
      rfl
    · rw [same] at rule
      cases rule
  refine ⟨?_, fun taken spelled spells rest => readStep_spelled sameRegions spells rest,
    fun spelled => spelled.ofId?_text reader.regions⟩
  intro text found rest success
  obtain ⟨rule, width, maxWidth⟩ := step
  rcases reads with rfl | ⟨form, rfl⟩
  · simp only [readStep] at success
    cases matched : (ZoneMatcher.ofTable reader.regions table).match? text with
    | none =>
      rw [matched] at success
      cases success
    | some answer =>
      obtain ⟨mention, taken, later⟩ := answer
      rw [matched] at success
      cases success
      simp only [ZoneMatcher.match?, Option.bind_eq_bind, Option.bind_eq_some_iff, pure,
        Option.some.injEq, Prod.mk.injEq] at matched
      obtain ⟨⟨taken, rest⟩, found, mention, meant, rfl, rfl, rfl⟩ := matched
      -- Numbers are taken before names.
      rcases Option.or_eq_some_iff.mp found with number | ⟨-, name⟩
      · obtain ⟨split, spelled, numeric⟩ := ZoneMatcher.takeNumeric?_eq_some_iff.mp number
        rw [ZoneMatcher.mention?_numeric _ numeric] at meant
        cases meant
        exact ⟨taken, split, .offset (.number numeric)⟩
      · obtain ⟨split, listed⟩ := ZoneMatcher.listed_of_take? name
        exact ⟨taken, split, zoneReading_of_name greenwich listed meant⟩
  · -- An ISO form takes a Z or an offset of its own shape, and nothing else.
    cases taken : form.takeZulu? text with
    | none =>
      simp only [readStep, taken] at success
      cases success
    | some answer =>
      obtain ⟨taken, later⟩ := answer
      obtain ⟨rfl, rfl | ⟨spelled, fits, rfl⟩⟩ := OffsetForm.takeZulu?_eq_some_iff.mp taken
      · simp only [readStep, taken] at success
        cases success
        exact ⟨_, rfl, .zulu⟩
      · have spells : (ReadRule.isoZone form).Spells spelled.text spelled := .iso fits
        rw [readStep_spelled sameRegions spells later] at success
        cases success
        exact ⟨_, rfl, .offset spells⟩

/-- Ninety-nine hours and minutes are no offset, and are read as Greenwich all the same. -/
theorem readStep_accounted_ninetyNine :
    ∃ format after step,
      Format.compile "Z" .utc .americanEnglish none FormatCache.builtin.registry =
        .ok format after ∧
      format.reader.steps = [step] ∧
      Region.named? format.reader.regions "GMT" = some Region.greenwich ∧
      Zone.ofId? format.reader.regions "GMT+9999" = none ∧
      format.reader.readStep step "+9999".toList = .ok ([.zone .greenwich], []) := by
  refine ⟨_, _, _, rfl, rfl, rfl, ?_⟩
  let spelled : SpelledOffset :=
    ⟨'+', ['9', '9'], false, ['9', '9'], .inl rfl, List.all_eq_true.mp (by decide), .inl rfl,
      .inl rfl⟩
  -- They are too many hours, and the sample has no region of that name.
  have inadmissible : ¬spelled.Admissible := by decide
  have unnamed : Region.named? Region.sample (String.ofList (['G', 'M', 'T'] ++ spelled.text)) =
      none := by decide +kernel
  generalize made : (Reader.mk _ _ _ _ _ _ _) = reader
  have regions : reader.regions = Region.sample := by rw [← made]; rfl
  have greenwich : Region.named? reader.regions "GMT" = some Region.greenwich := by
    rw [regions]
    rfl
  have reads : ReadStep.rule ⟨.zone (.ofTable Region.sample ZoneNames.english), 1, 0⟩ =
      .zone (.ofTable reader.regions ZoneNames.english) := by rw [regions]
  obtain ⟨-, read, known⟩ := reader.readStep_accounted greenwich ZoneNames.english (.inl reads)
  refine ⟨?_, ?_⟩
  · have unknown := known spelled
    rw [if_neg inadmissible, regions, unnamed] at unknown
    rw [regions]
    exact unknown
  · have success := read spelled.text spelled (.number (.plain ⟨rfl, rfl, rfl⟩)) []
    rw [SpelledOffset.zone, if_neg inadmissible, SpelledOffset.region, regions, unnamed,
      List.append_nil] at success
    exact success

end Reader

end DatePattern
