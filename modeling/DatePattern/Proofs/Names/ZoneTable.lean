import DatePattern.Proofs.Names.LongestName
import DatePattern.Proofs.Names.ZoneMatcher
import DatePattern.Proofs.Zone.Mentions
import DatePattern.Zone.Americas

/-!
Zone tables: a text that begins with no number is matched by the longest name that it begins with.

The name stands for the zone of the first entry that lists it, and for the kind of time of the first column there.
-/

namespace DatePattern

namespace ZoneNames

variable {regions : List Region}

/-- The zone that an entry is about, unless its identifier names none or is Greenwich in any case. -/
def zone? (regions : List Region) (entry : ZoneNames) : Option Zone :=
  if entry.id.toList.map Text.lowerAscii = ['g', 'm', 't'] then none
  else Zone.ofId? regions entry.id

/-- The names of an entry in the order in which they count, and whether they are of daylight time. -/
def columns (entry : ZoneNames) : List (List Char × Bool) :=
  [(entry.longStandard.toList, false), (entry.longDaylight.toList, true),
    (entry.shortStandard.toList, false), (entry.shortDaylight.toList, true)]

/-- The names by which the zone of an entry is found, which are those that are not empty. -/
def given (regions : List Region) (entry : ZoneNames) : List (List Char) :=
  if (entry.zone? regions).isSome then (entry.columns.map (·.1)).filter (· ≠ []) else []

/-- No name that is given is empty. -/
theorem ne_nil_of_given {entry : ZoneNames} {name : List Char}
    (among : name ∈ entry.given regions) : name ≠ [] := by
  -- Empty names are filtered out.
  unfold given at among
  split at among
  · exact of_decide_eq_true (List.mem_filter.mp among).2
  · cases among

/-- What an entry says of a name in lower case: its zone, and the kind of time of the first such column. -/
def listing? (regions : List Region) (entry : ZoneNames) (key : List Char) :
    Option NamedZone :=
  (entry.zone? regions).bind fun zone =>
    (entry.columns.find? fun column => column.1 ≠ [] ∧ Text.lowercase column.1 = key).map
      fun column => ⟨zone, column.2⟩

/-- An entry lists what the first column with the name says, if it is about a zone. -/
theorem listing?_eq_some_iff {entry : ZoneNames} {key : List Char} {named : NamedZone} :
    entry.listing? regions key = some named ↔ entry.zone? regions = some named.zone ∧
      ∃ name, entry.columns.find? (fun column => column.1 ≠ [] ∧ Text.lowercase column.1 = key) =
        some (name, named.daylight) := by
  -- The zone is looked up first, and the columns after it.
  rw [listing?, Option.bind_eq_some_iff]
  constructor
  · rintro ⟨zone, known, first⟩
    obtain ⟨⟨name, daylight⟩, found, rfl⟩ := Option.map_eq_some_iff.mp first
    exact ⟨known, name, found⟩
  · rintro ⟨known, name, found⟩
    exact ⟨named.zone, known, by rw [found]; rfl⟩

/-- An entry lists nothing under what is in lower case none of the names that it gives. -/
theorem listing?_eq_none_iff {entry : ZoneNames} {key : List Char} :
    entry.listing? regions key = none ↔ ∀ name ∈ entry.given regions, Text.lowercase name ≠ key := by
  unfold listing? given
  -- An entry whose zone is unknown lists nothing, and gives no names.
  cases entry.zone? regions with
  | none => exact ⟨fun _ => nofun, fun _ => rfl⟩
  | some zone =>
    rw [Option.bind_some, Option.map_eq_none_iff, List.find?_eq_none, if_pos Option.isSome_some]
    constructor
    · intro none name given
      obtain ⟨among, nonempty⟩ := List.mem_filter.mp given
      obtain ⟨column, listed, rfl⟩ := List.mem_map.mp among
      exact fun same => none column listed (decide_eq_true ⟨of_decide_eq_true nonempty, same⟩)
    · intro differ column listed hit
      obtain ⟨nonempty, same⟩ := of_decide_eq_true hit
      exact differ column.1
        (List.mem_filter.mpr ⟨List.mem_map_of_mem listed, decide_eq_true nonempty⟩) same

end ZoneNames

namespace ZoneMatcher

variable {regions : List Region}

/-- The names of an entry are those of its columns, if it is about a zone. -/
theorem namesOf_eq (regions : List Region) (entry : ZoneNames) :
    namesOf regions entry = (entry.zone? regions).elim [] fun zone =>
      (entry.columns.filter (·.1 ≠ [])).map fun column => (column.1, ⟨zone, column.2⟩) := by
  -- An entry about no zone has no names on either side.
  unfold namesOf ZoneNames.zone?
  split
  · rfl
  · cases Zone.ofId? regions entry.id with
    | none => rfl
    | some zone =>
      -- Each column is kept or left out by itself.
      have each : ∀ kinds : List (Bool × Bool),
          (kinds.filterMap fun kind =>
            if entry.name kind.2 kind.1 = "" then none
            else some ((entry.name kind.2 kind.1).toList, (⟨zone, kind.2⟩ : NamedZone))) =
          ((kinds.map fun kind => ((entry.name kind.2 kind.1).toList, kind.2)).filter
            (·.1 ≠ [])).map fun column => (column.1, ⟨zone, column.2⟩) := by
        intro kinds
        induction kinds with
        | nil => rfl
        | cons kind kinds ih =>
          obtain ⟨long, daylight⟩ := kind
          by_cases empty : entry.name daylight long = "" <;> simp [empty, ih]
      exact each _

/-- The names of an entry are those that it gives. -/
theorem map_namesOf (regions : List Region) (entry : ZoneNames) :
    (namesOf regions entry).map (·.1) = entry.given regions := by
  -- Names are kept with their zone and kind, which the first components leave out.
  rw [namesOf_eq, ZoneNames.given]
  cases entry.zone? regions with
  | none => rfl
  | some zone =>
    rw [if_pos Option.isSome_some, Option.elim_some, List.filter_map, List.map_map]
    rfl

/-- The first of the names of an entry with a key is the one that the entry lists under it. -/
theorem find?_namesOf (regions : List Region) (entry : ZoneNames) (key : List Char) :
    ((namesOf regions entry).find? (Text.lowercase ·.1 == key)).map (·.2) =
      entry.listing? regions key := by
  -- Each name is put with its kind into one pair, in the order of the columns.
  rw [namesOf_eq, ZoneNames.listing?]
  cases entry.zone? regions with
  | none => rfl
  | some zone =>
    rw [Option.elim_some, List.find?_map, List.find?_filter, Option.map_map, Option.bind_some]
    refine congrArg (Option.map fun column => (⟨zone, column.2⟩ : NamedZone))
      (congrArg (List.find? · entry.columns) (funext fun column => ?_))
    simp

/-- The names of a table are those that its entries give. -/
theorem map_flatMap_namesOf (regions : List Region) (table : List ZoneNames) :
    (table.flatMap (namesOf regions)).map (·.1) = table.flatMap (ZoneNames.given regions) := by
  -- It is so for each of the entries.
  rw [List.map_flatMap]
  exact congrArg (table.flatMap ·) (funext (map_namesOf regions))

/-- The first name with a key is that of the first entry that lists the key. -/
theorem find?_flatMap_namesOf (regions : List Region) (table : List ZoneNames)
    (key : List Char) :
    ((table.flatMap (namesOf regions)).find? (Text.lowercase ·.1 == key)).map (·.2) =
      table.findSome? (·.listing? regions key) := by
  -- The first name of a table is the first one of the first entry that has any.
  rw [List.find?_flatMap, List.map_findSome?]
  exact congrArg (table.findSome? ·) (funext fun entry => find?_namesOf regions entry key)

/-- A text that begins neither with a sign nor with GMT in any case. -/
structure Unnumbered (text : List Char) : Prop where
  /-- The text does not begin with a sign. -/
  unsigned : ∀ c ∈ text.head?, c ≠ '+' ∧ c ≠ '-'
  /-- The text does not begin with GMT. -/
  notGreenwich : startsGreenwich text = false

instance (text : List Char) : Decidable (Unnumbered text) :=
  decidable_of_iff
    ((text.head?.all fun c => c != '+' && c != '-') = true ∧ startsGreenwich text = false) <| by
      constructor
      · rintro ⟨unsigned, notGreenwich⟩
        have signless := (Option.all_eq_true _ _).mp unsigned
        exact ⟨fun c front => by simpa using signless c front, notGreenwich⟩
      · rintro ⟨unsigned, notGreenwich⟩
        exact ⟨(Option.all_eq_true _ _).mpr fun c front => by simpa using unsigned c front,
          notGreenwich⟩

namespace Unnumbered

variable {text taken rest : List Char}

/-- No number is taken from such a text. -/
theorem takeNumeric?_eq_none (plain : Unnumbered text) : takeNumeric? text = none := by
  refine Option.eq_none_iff_forall_ne_some.mpr ?_
  rintro ⟨taken, rest⟩ found
  obtain ⟨rfl, spelled, numeric⟩ := takeNumeric?_eq_some_iff.mp found
  -- A number begins with a sign, or with GMT.
  cases numeric with
  | plain fits =>
    have unsigned := plain.unsigned spelled.sign rfl
    rcases spelled.signed with plus | minus
    · exact unsigned.1 plus
    · exact unsigned.2 minus
  | @greenwich letters _ gmt colon =>
    have three : letters.length = 3 := by simpa using congrArg List.length gmt
    have begins := plain.notGreenwich
    rw [startsGreenwich, List.append_assoc, ← three, List.take_left, gmt] at begins
    cases begins

/-- The front of such a text is looked up as a name. -/
theorem mention?_front (plain : Unnumbered (taken ++ rest)) (nonempty : taken ≠ [])
    (matcher : ZoneMatcher) : matcher.mention? taken = (matcher.names.meaning? taken).map .named := by
  cases taken with
  | nil => exact absurd rfl nonempty
  | cons c taken =>
    have unsigned := plain.unsigned c rfl
    -- The text would begin with GMT as soon as three characters at its front do.
    have notGreenwich : ¬startsGreenwich (c :: taken) = true := by
      intro begins
      have three : 3 ≤ (c :: taken).length := by
        have := congrArg List.length (beq_iff_eq.mp begins)
        simp only [List.length_map, List.length_take, List.length_cons, List.length_nil] at this
        rw [List.length_cons]
        omega
      have whole := plain.notGreenwich
      rw [startsGreenwich, List.take_append_of_le_length three] at whole
      rw [startsGreenwich, whole] at begins
      cases begins
    rw [mention?, if_neg (not_or.mpr unsigned), if_neg notGreenwich]

end Unnumbered

variable {table : List ZoneNames} {text : List Char}

/-- A text without a number is matched by the longest name that it begins with, if there is one. -/
theorem match?_of_unnumbered (plain : Unnumbered text)
    (alike : Text.CaseAlike (table.flatMap (ZoneNames.given regions)) text) :
    (((ofTable regions table).match? text).isSome = true ↔
      ∃ name ∈ table.flatMap (ZoneNames.given regions),
        Text.lowercase name <+: Text.lowercase text) ∧
    ∀ mention taken rest, (ofTable regions table).match? text = some (mention, taken, rest) →
      LongestName (table.flatMap (ZoneNames.given regions)) text taken rest ∧
      ∃ named, mention = .named named ∧
        table.findSome? (·.listing? regions (Text.lowercase taken)) = some named := by
  -- No number is taken, so that the lexicon of the table decides.
  have same := map_flatMap_namesOf regions table
  have listed : (∃ name ∈ table.flatMap (ZoneNames.given regions),
      Text.lowercase name <+: Text.lowercase text) ↔
        ∃ pair ∈ table.flatMap (namesOf regions), Text.lowercase pair.1 <+: Text.lowercase text := by
    rw [← same]
    constructor
    · rintro ⟨name, among, begins⟩
      obtain ⟨pair, inTable, rfl⟩ := List.mem_map.mp among
      exact ⟨pair, inTable, begins⟩
    · rintro ⟨pair, inTable, begins⟩
      exact ⟨pair.1, List.mem_map_of_mem inTable, begins⟩
  have matching : (ofTable regions table).match? text =
      ((Lexicon.ofNames (table.flatMap (namesOf regions))).take? text).bind fun front =>
        ((ofTable regions table).mention? front.1).bind fun mention =>
          some (mention, front.1, front.2) := by
    rw [match?, plain.takeNumeric?_eq_none, Option.none_or]
    rfl
  rw [listed]
  rw [← same] at alike ⊢
  rw [← Lexicon.take?_isSome_iff alike]
  cases found : (Lexicon.ofNames (table.flatMap (namesOf regions))).take? text with
  | none =>
    rw [matching, found]
    refine ⟨Iff.rfl, ?_⟩
    intro _ _ _ impossible
    cases impossible
  | some front =>
    obtain ⟨taken, rest⟩ := front
    have longest := Lexicon.longestName_of_take? alike found
    obtain ⟨_, inList, key⟩ := longest.listed
    obtain ⟨pair, among, rfl⟩ := List.mem_map.mp inList
    obtain ⟨first, named, isFirst, meant⟩ := Lexicon.exists_meaning? ⟨pair, among, key⟩
    -- No name is empty, so that something is taken.
    have nonempty : taken ≠ [] := by
      rintro rfl
      rw [same, List.mem_flatMap] at inList
      obtain ⟨entry, -, given⟩ := inList
      exact ZoneNames.ne_nil_of_given given (Text.lowercase_eq_nil_iff.mp key)
    have front := longest.split
    subst front
    have mentioned := plain.mention?_front nonempty (ofTable regions table)
    have meaning : (ofTable regions table).names.meaning? taken = some named := meant
    rw [meaning] at mentioned
    simp only [matching, found, mentioned, Option.bind_some, Option.map_some]
    refine ⟨Iff.rfl, ?_⟩
    intro mention front later matched
    cases matched
    exact ⟨longest, named, rfl, by rw [← find?_flatMap_namesOf, isFirst]; rfl⟩

/-- A text that is a name without a number, and nothing else, stands for the first entry that lists it. -/
theorem match?_wholeName {named : NamedZone} (plain : Unnumbered text)
    (alike : Text.CaseAlike (table.flatMap (ZoneNames.given regions)) text)
    (first : table.findSome? (·.listing? regions (Text.lowercase text)) = some named) :
    (ofTable regions table).match? text = some (.named named, text, []) := by
  obtain ⟨matched, found⟩ := match?_of_unnumbered plain alike
  -- The entry that lists the text gives it as a name, in some case.
  obtain ⟨name, listed, same⟩ : ∃ name ∈ table.flatMap (ZoneNames.given regions),
      Text.lowercase name = Text.lowercase text := by
    obtain ⟨entry, among, here⟩ := List.exists_of_findSome?_eq_some first
    have gives : ¬∀ name ∈ entry.given regions, Text.lowercase name ≠ Text.lowercase text := by
      rw [← ZoneNames.listing?_eq_none_iff, here]
      exact Option.some_ne_none named
    obtain ⟨name, given, same⟩ : ∃ name ∈ entry.given regions,
        Text.lowercase name = Text.lowercase text := by
      simpa using gives
    exact ⟨name, List.mem_flatMap_of_mem among given, same⟩
  have begins : Text.lowercase name <+: Text.lowercase text := same ▸ List.prefix_refl _
  obtain ⟨⟨mention, taken, rest⟩, success⟩ :=
    Option.isSome_iff_exists.mp (matched.mpr ⟨name, listed, begins⟩)
  obtain ⟨longest, other, rfl, meant⟩ := found mention taken rest success
  -- What is taken is as long as the name in lower case, so that it is all of the text.
  have notShorter := (longest.longest name listed begins).length_le
  have split := longest.split
  rw [same, Text.lowercase, Text.length_lowercaseAfter alike.single, Text.lowercase,
    Text.length_lowercaseAfter fun c among => alike.single c (by rw [split]; simp [among])]
    at notShorter
  have nothing : rest = [] := by
    rw [split, List.length_append] at notShorter
    exact List.length_eq_zero_iff.mp (by omega)
  subst nothing
  rw [List.append_nil] at split
  subst split
  rw [first] at meant
  cases meant
  exact success

/-- A text without a number is matched just if it begins with a name that some entry gives, and then
the longest such name stands for the first entry that lists it. -/
theorem match?_firstListing (plain : Unnumbered text)
    (alike : Text.CaseAlike (table.flatMap (ZoneNames.given regions)) text) :
    (((ofTable regions table).match? text).isSome = true ↔
      ∃ entry ∈ table, ∃ name ∈ entry.given regions, Text.lowercase name <+: Text.lowercase text) ∧
    ∀ mention taken rest, (ofTable regions table).match? text = some (mention, taken, rest) →
      LongestName (table.flatMap (ZoneNames.given regions)) text taken rest ∧
      ∃ named before entry after, mention = .named named ∧ table = before ++ entry :: after ∧
        (∀ other ∈ before, ∀ name ∈ other.given regions,
          Text.lowercase name ≠ Text.lowercase taken) ∧
        entry.zone? regions = some named.zone ∧
        ∃ name, entry.columns.find? (fun column =>
          column.1 ≠ [] ∧ Text.lowercase column.1 = Text.lowercase taken) =
            some (name, named.daylight) := by
  -- What is left is to name the entry that the search through the table comes to first.
  have entries : (∃ entry ∈ table, ∃ name ∈ entry.given regions,
      Text.lowercase name <+: Text.lowercase text) ↔
        ∃ name ∈ table.flatMap (ZoneNames.given regions),
          Text.lowercase name <+: Text.lowercase text := by
    constructor
    · rintro ⟨entry, listed, name, given, begins⟩
      exact ⟨name, List.mem_flatMap_of_mem listed given, begins⟩
    · rintro ⟨name, among, begins⟩
      obtain ⟨entry, listed, given⟩ := List.mem_flatMap.mp among
      exact ⟨entry, listed, name, given, begins⟩
  rw [entries]
  obtain ⟨matched, found⟩ := match?_of_unnumbered plain alike
  refine ⟨matched, ?_⟩
  intro mention taken rest success
  obtain ⟨longest, named, rfl, first⟩ := found mention taken rest success
  -- The entries before the first that lists the name do not give it.
  obtain ⟨before, entry, after, split, here, earlier⟩ := List.findSome?_eq_some_iff.mp first
  obtain ⟨known, column⟩ := ZoneNames.listing?_eq_some_iff.mp here
  exact ⟨longest, named, before, entry, after, rfl, split,
    fun other among => ZoneNames.listing?_eq_none_iff.mp (earlier other among), known, column⟩

/-- Of the known zones that share an abbreviation the first is meant, by the kind of its first column. -/
theorem match?_firstListing_shared :
    let table : List ZoneNames := [
      ⟨"Gondwana/Capital", "Capital Standard Time", "CST", "", ""⟩,
      ⟨"GMT", "Greenwich Mean Time", "CST", "", ""⟩,
      ⟨"America/Chicago", "Central Standard Time", "CST", "", "CST"⟩,
      ⟨"GMT+08:00", "China Standard Time", "CST", "China Daylight Time", "CS"⟩]
    let regions : List Region := [History.chicago.region]
    Unnumbered "cst 2024".toList ∧
      Text.CaseAlike (table.flatMap (ZoneNames.given regions)) "cst 2024".toList ∧
      (ofTable regions table).match? "cst 2024".toList =
        some (.named ⟨.region History.chicago.region, false⟩, "cst".toList, " 2024".toList) ∧
      LongestName (table.flatMap (ZoneNames.given regions)) "cst 2024".toList "cst".toList
        " 2024".toList := by
  -- Two of the entries with the abbreviation are about no zone, and are passed over.
  intro table regions
  have plain : Unnumbered "cst 2024".toList := by decide
  have alike : Text.CaseAlike (table.flatMap (ZoneNames.given regions)) "cst 2024".toList := by
    decide +kernel
  have matched : (ofTable regions table).match? "cst 2024".toList =
      some (.named ⟨.region History.chicago.region, false⟩, "cst".toList, " 2024".toList) := by
    decide +kernel
  exact ⟨plain, alike, matched, ((match?_firstListing plain alike).2 _ _ _ matched).1⟩

end ZoneMatcher

end DatePattern
