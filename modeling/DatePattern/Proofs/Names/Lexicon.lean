import DatePattern.Names.TextMatcher

/-! Laws of lexicons: which name is found at the front of a text, and what it means. -/

namespace DatePattern

namespace Lexicon

variable {α : Type}

/-- Looking a name up among the distinct ones finds the meaning of its first appearance. -/
theorem find?_distinct (names : List (List Char × α)) (key : List Char) :
    (distinct names).find? (·.1 == key) =
      (names.find? (Text.lowercase ·.1 == key)).map fun entry => (key, entry.2) := by
  -- A name that comes again is left out, and other names are not affected by that.
  induction names with
  | nil => rfl
  | cons entry names ih =>
    obtain ⟨name, meaning⟩ := entry
    by_cases same : Text.lowercase name = key
    · simp [distinct, same]
    -- Leaving out one name does not touch the search for another.
    · have others : ∀ pair : List Char × α,
          decide (decide (pair.1 ≠ Text.lowercase name) = true ∧ (pair.1 == key) = true) =
            (pair.1 == key) := by
        intro pair
        by_cases hit : pair.1 = key
        · simp [hit, Ne.symm same]
        · simp [hit]
      simp only [distinct]
      rw [List.find?_cons_of_neg (by simpa using same), List.find?_filter, funext others,
        List.find?_cons_of_neg (by simpa using same), ih]

/-- The distinct names are those of the list in lower case. -/
theorem exists_mem_distinct {names : List (List Char × α)} {key : List Char} :
    (∃ meaning, (key, meaning) ∈ distinct names) ↔ ∃ entry ∈ names, Text.lowercase entry.1 = key := by
  -- Both sides say that looking the name up succeeds.
  have found := congrArg Option.isSome (find?_distinct names key)
  rw [Option.isSome_map, Bool.eq_iff_iff, List.find?_isSome, List.find?_isSome] at found
  constructor
  · rintro ⟨meaning, listed⟩
    obtain ⟨entry, among, same⟩ := found.mp ⟨_, listed, beq_self_eq_true key⟩
    exact ⟨entry, among, by simpa using same⟩
  · rintro ⟨entry, among, same⟩
    obtain ⟨⟨name, meaning⟩, listed, hit⟩ := found.mpr ⟨entry, among, by simpa using same⟩
    simp only [beq_iff_eq] at hit
    exact ⟨meaning, hit ▸ listed⟩

/-- No name is listed twice. -/
theorem pairwise_distinct (names : List (List Char × α)) :
    (distinct names).Pairwise fun first second => first.1 ≠ second.1 := by
  -- Later appearances of a name are filtered out when it is put in front.
  induction names with
  | nil => exact .nil
  | cons entry names ih =>
    refine .cons ?_ (ih.filter _)
    intro other kept same
    rw [List.mem_filter] at kept
    simp [← same] at kept

/-- Putting an entry in its place adds it and nothing else. -/
@[simp] theorem mem_place {entry other : List Char × α} {entries : List (List Char × α)} :
    other ∈ place entry entries ↔ other = entry ∨ other ∈ entries := by
  -- The entry comes before the first one that it precedes, or at the end.
  induction entries with
  | nil => simp [place]
  | cons first rest ih =>
    simp only [place]
    split
    · simp
    · rw [List.mem_cons, ih, List.mem_cons]
      exact or_left_comm

/-- Putting entries in their places keeps exactly them. -/
theorem mem_foldr_place {entry : List Char × α} {entries : List (List Char × α)} :
    entry ∈ entries.foldr place [] ↔ entry ∈ entries := by
  -- They are put in one after the other, the last one first.
  induction entries with
  | nil => rfl
  | cons first rest ih => rw [List.foldr_cons, mem_place, ih, List.mem_cons]

/-- Entries in the order in which longer names come first. -/
def LongestFirst (entries : List (List Char × α)) : Prop :=
  entries.Pairwise fun first second => Text.byteLength second.1 ≤ Text.byteLength first.1

/-- An entry put in its place keeps longer names first. -/
theorem longestFirst_place {entry : List Char × α} {entries : List (List Char × α)}
    (sorted : LongestFirst entries) : LongestFirst (place entry entries) := by
  -- What an entry precedes is not longer, and what precedes it is not shorter.
  induction sorted with
  | nil => exact List.pairwise_singleton _ _
  | @cons first rest shorter sorted ih =>
    by_cases before : tries entry.1 first.1 = true
    · rw [place, if_pos before]
      simp only [tries, Bool.or_eq_true, Bool.and_eq_true, decide_eq_true_eq, beq_iff_eq] at before
      refine .cons ?_ (.cons shorter sorted)
      intro other listed
      rcases List.mem_cons.mp listed with rfl | later
      · omega
      · have := shorter other later
        omega
    · -- The entry goes further down, behind a first one that is not shorter.
      rw [place, if_neg before]
      simp only [tries, Bool.or_eq_true, decide_eq_true_eq, not_or] at before
      refine .cons ?_ ih
      intro other listed
      rcases mem_place.mp listed with rfl | later
      · omega
      · exact shorter other later

/-- All entries are tried with longer names first. -/
theorem longestFirst_foldr_place (entries : List (List Char × α)) :
    LongestFirst (entries.foldr place []) := by
  -- Each entry is put into a list that is in order already.
  induction entries with
  | nil => exact .nil
  | cons first rest ih => exact longestFirst_place ih

/-- An entry put in its place is found by its name, as any other entry is by its own. -/
theorem find?_place {entry : List Char × α} {entries : List (List Char × α)}
    (fresh : ∀ other ∈ entries, other.1 ≠ entry.1) (key : List Char) :
    (place entry entries).find? (·.1 == key) =
      if entry.1 = key then some entry else entries.find? (·.1 == key) := by
  -- No entry before the place has the name, since the name is new.
  induction entries with
  | nil => by_cases same : entry.1 = key <;> simp [place, same]
  | cons first rest ih =>
    have later := ih fun other listed => fresh other (List.mem_cons_of_mem _ listed)
    simp only [place]
    split
    · by_cases same : entry.1 = key <;> simp [same]
    · -- The first entry keeps its place, and is found if it has the name.
      by_cases hit : first.1 = key
      · have differ : entry.1 ≠ key := fun same =>
          fresh first List.mem_cons_self (hit.trans same.symm)
        simp [hit, differ]
      · rw [List.find?_cons_of_neg (by simpa using hit), later,
          List.find?_cons_of_neg (by simpa using hit)]

/-- The order in which entries are tried does not matter for what a name means. -/
theorem find?_foldr_place {entries : List (List Char × α)}
    (different : entries.Pairwise fun first second => first.1 ≠ second.1) (key : List Char) :
    (entries.foldr place []).find? (·.1 == key) = entries.find? (·.1 == key) := by
  -- Each entry is new to the list that it is put into, since no name comes twice.
  induction different with
  | nil => rfl
  | @cons first rest apart _ ih =>
    rw [List.foldr_cons, find?_place, ih]
    · by_cases same : first.1 = key <;> simp [same]
    · exact fun other listed => (apart other (mem_foldr_place.mp listed)).symm

/-- A name in any case means what its first appearance does. -/
theorem meaning?_ofNames (names : List (List Char × α)) (name : List Char) :
    (ofNames names).meaning? name =
      (names.find? (Text.lowercase ·.1 == Text.lowercase name)).map (·.2) := by
  -- The order of the entries and the dropped repetitions both leave the first appearance.
  rw [meaning?, ofNames, find?_foldr_place (pairwise_distinct names), find?_distinct,
    Option.map_map]
  rfl

/-- Of entries with longer names first, the longest one that matches is taken. -/
theorem findSome?_longest {entries : List (List Char × α)} (sorted : LongestFirst entries)
    {key text taken rest : List Char} (listed : ∃ meaning, (key, meaning) ∈ entries)
    (spelled : Text.takeFolded? key text = some (taken, rest))
    (longest : ∀ entry ∈ entries, entry.1 ≠ key → Text.takeFolded? entry.1 text ≠ none →
      Text.byteLength entry.1 < Text.byteLength key) :
    entries.findSome? (fun entry => Text.takeFolded? entry.1 text) = some (taken, rest) := by
  -- An entry before that of the name is not shorter, so that it cannot match.
  induction sorted with
  | nil =>
    obtain ⟨meaning, impossible⟩ := listed
    cases impossible
  | @cons first others shorter sorted ih =>
    by_cases same : first.1 = key
    · rw [List.findSome?_cons, same, spelled]
    · have later : ∃ meaning, (key, meaning) ∈ others := by
        obtain ⟨meaning, among⟩ := listed
        rcases List.mem_cons.mp among with here | there
        · exact absurd (congrArg Prod.fst here).symm same
        · exact ⟨meaning, there⟩
      obtain ⟨meaning, there⟩ := later
      have notShorter := shorter _ there
      have unmatched : Text.takeFolded? first.1 text = none := by
        cases matched : Text.takeFolded? first.1 text with
        | none => rfl
        | some found =>
          have := longest first List.mem_cons_self same (by rw [matched]; exact Option.some_ne_none _)
          simp only at notShorter
          omega
      simp only [List.findSome?_cons, unmatched]
      exact ih ⟨meaning, there⟩ fun entry among =>
        longest entry (List.mem_cons_of_mem _ among)

/-- The longest name that matches a text is taken from its front. -/
theorem take?_ofNames {names : List (List Char × α)} {key text taken rest : List Char}
    (listed : ∃ entry ∈ names, Text.lowercase entry.1 = key)
    (spelled : Text.takeFolded? key text = some (taken, rest))
    (longest : ∀ entry ∈ names, Text.lowercase entry.1 ≠ key →
      Text.takeFolded? (Text.lowercase entry.1) text ≠ none →
        Text.byteLength (Text.lowercase entry.1) < Text.byteLength key) :
    (ofNames names).take? text = some (taken, rest) := by
  obtain ⟨meaning, among⟩ := exists_mem_distinct.mpr listed
  refine findSome?_longest (longestFirst_foldr_place _) ⟨meaning, mem_foldr_place.mpr among⟩
    spelled ?_
  -- Every entry stands for a name of the list.
  intro entry kept differ matched
  obtain ⟨name, inList, same⟩ :=
    exists_mem_distinct.mp ⟨entry.2, mem_foldr_place.mp kept⟩
  rw [← same] at differ matched ⊢
  exact longest name inList differ matched

end Lexicon

/-- A name at the front of a text is recognized as one that means a value. -/
structure Recognized (names : List (String × Int)) (value : Int) (name rest : List Char) :
    Prop where
  /-- The text spells the name in some case. -/
  spelled : Text.takeFolded? (Text.lowercase name) (name ++ rest) = some (name, rest)
  /-- No other name that the text begins with is as long. -/
  longest : ∀ other ∈ names, Text.lowercase other.1.toList ≠ Text.lowercase name →
    Text.takeFolded? (Text.lowercase other.1.toList) (name ++ rest) ≠ none →
      Text.byteLength (Text.lowercase other.1.toList) < Text.byteLength (Text.lowercase name)
  /-- The first appearance of the name means the value. -/
  meaning : (names.find? fun other =>
    Text.lowercase other.1.toList == Text.lowercase name).map (·.2) = some value

instance (names : List (String × Int)) (value : Int) (name rest : List Char) :
    Decidable (Recognized names value name rest) :=
  decidable_of_iff
    (Text.takeFolded? (Text.lowercase name) (name ++ rest) = some (name, rest) ∧
      (∀ other ∈ names, Text.lowercase other.1.toList ≠ Text.lowercase name →
        Text.takeFolded? (Text.lowercase other.1.toList) (name ++ rest) ≠ none →
          Text.byteLength (Text.lowercase other.1.toList) <
            Text.byteLength (Text.lowercase name)) ∧
      (names.find? fun other =>
        Text.lowercase other.1.toList == Text.lowercase name).map (·.2) = some value)
    ⟨fun ⟨spelled, longest, meaning⟩ => ⟨spelled, longest, meaning⟩,
      fun ⟨spelled, longest, meaning⟩ => ⟨spelled, longest, meaning⟩⟩

/-- A recognized name is matched, with its value and the text after it. -/
theorem TextMatcher.match?_ofNames (field : Field) {names : List (String × Int)} {value : Int}
    {name rest : List Char} (recognized : Recognized names value name rest) :
    (ofNames field names).match? (name ++ rest) = some (value, name, rest) := by
  obtain ⟨spelled, longest, meaning⟩ := recognized
  -- The value comes from some name, which lower case makes the same as the text.
  have found : ∃ other ∈ names, Text.lowercase other.1.toList = Text.lowercase name := by
    obtain ⟨other, first, -⟩ := Option.map_eq_some_iff.mp meaning
    exact ⟨other, List.mem_of_find?_eq_some first, by simpa using List.find?_some first⟩
  have taken : (ofNames field names).names.take? (name ++ rest) = some (name, rest) := by
    refine Lexicon.take?_ofNames ?_ spelled ?_
    · obtain ⟨other, listed, same⟩ := found
      exact ⟨_, List.mem_map_of_mem listed, same⟩
    · intro entry listed
      obtain ⟨other, among, rfl⟩ := List.mem_map.mp listed
      exact longest other among
  -- The value is that of the first appearance, as for any lexicon.
  have valued : (ofNames field names).names.meaning? name = some value := by
    rw [ofNames, Lexicon.meaning?_ofNames, List.find?_map, Option.map_map]
    exact meaning
  simp only [match?, taken, valued, Option.bind_eq_bind, Option.bind_some, pure]

end DatePattern
