import DatePattern.Proofs.Names.Lexicon
import DatePattern.Proofs.Text.CaseVariants

/-!
The longest name: of all names that a text begins with in lower case, a matcher finds the longest.

A name that is listed more than once means what it means first.
-/

namespace DatePattern

/-- Of two fronts of a text, the one with fewer bytes is a front of the other. -/
theorem Text.prefix_of_byteLength_le {first second text : List Char} (firstFront : first <+: text)
    (secondFront : second <+: text) (shorter : byteLength first ≤ byteLength second) :
    first <+: second := by
  -- Two fronts of one text are nested in one way or the other.
  rcases List.prefix_or_prefix_of_prefix firstFront secondFront with front | ⟨more, rfl⟩
  · exact front
  · -- What the longer list has more of takes no bytes.
    cases more with
    | nil => exact ⟨[], by simp⟩
    | cons c more =>
      have positive := c.utf8Size_pos
      rw [byteLength_append, byteLength_cons] at shorter
      omega

/-- A front of a text that is, in lower case, the longest of the names that the text begins with. -/
structure LongestName (names : List (List Char)) (text taken rest : List Char) : Prop where
  /-- The text is its front and the rest. -/
  split : text = taken ++ rest
  /-- The front is one of the names in some case. -/
  listed : ∃ name ∈ names, Text.lowercase name = Text.lowercase taken
  /-- Each name that the text begins with begins the front, so that it is no longer. -/
  longest : ∀ name ∈ names, Text.lowercase name <+: Text.lowercase text →
    Text.lowercase name <+: Text.lowercase taken

namespace Lexicon

variable {α : Type} {names : List (List Char × α)} {text taken rest : List Char}

/-- Where longer names come first, no name that matches is longer than the one that is taken. -/
theorem LongestFirst.of_findSome? {entries : List (List Char × α)} (sorted : LongestFirst entries)
    (found : entries.findSome? (fun entry => Text.takeFolded? entry.1 text) = some (taken, rest)) :
    ∃ entry ∈ entries, Text.takeFolded? entry.1 text = some (taken, rest) ∧
      ∀ other ∈ entries, (Text.takeFolded? other.1 text).isSome = true →
        Text.byteLength other.1 ≤ Text.byteLength entry.1 := by
  -- The names before the one that is taken do not match, and those after it are not longer.
  obtain ⟨before, entry, after, rfl, spelled, unmatched⟩ := List.findSome?_eq_some_iff.mp found
  refine ⟨entry, by simp, spelled, ?_⟩
  intro other among matched
  have ordered := List.pairwise_cons.mp (List.pairwise_append.mp sorted).2.1
  rcases List.mem_append.mp among with early | here
  · rw [unmatched other early] at matched
    cases matched
  · rcases List.mem_cons.mp here with rfl | late
    · exact Nat.le_refl _
    · exact ordered.1 other late

/-- A name is tried in lower case, and nothing else is tried. -/
theorem mem_entries_ofNames {key : List Char} :
    (∃ meaning, (key, meaning) ∈ (ofNames names).entries) ↔
      ∃ name ∈ names, Text.lowercase name.1 = key := by
  -- Sorting the distinct names neither adds an entry nor drops one.
  rw [← exists_mem_distinct]
  exact exists_congr fun meaning => mem_foldr_place

/-- Something is taken just if the text begins, in lower case, with some name. -/
theorem take?_isSome_iff (alike : Text.CaseAlike (names.map (·.1)) text) :
    ((ofNames names).take? text).isSome = true ↔
      ∃ name ∈ names, Text.lowercase name.1 <+: Text.lowercase text := by
  have tried : (ofNames names).take? text =
      (ofNames names).entries.findSome? fun entry => Text.takeFolded? entry.1 text := rfl
  rw [tried, List.isSome_findSome?, List.any_eq_true]
  -- The keys of the entries are the names in lower case.
  constructor
  · rintro ⟨entry, among, matched⟩
    obtain ⟨name, listed, key⟩ := mem_entries_ofNames.mp ⟨entry.2, among⟩
    rw [← key] at matched
    exact ⟨name, listed, (alike.takeFolded?_isSome_iff (List.mem_map_of_mem listed)).mp matched⟩
  · rintro ⟨name, listed, begins⟩
    obtain ⟨meaning, among⟩ := mem_entries_ofNames.mpr ⟨name, listed, rfl⟩
    exact ⟨_, among, (alike.takeFolded?_isSome_iff (List.mem_map_of_mem listed)).mpr begins⟩

/-- What is taken is the longest name that the text begins with. -/
theorem longestName_of_take? (alike : Text.CaseAlike (names.map (·.1)) text)
    (found : (ofNames names).take? text = some (taken, rest)) :
    LongestName (names.map (·.1)) text taken rest := by
  -- The entry that is taken is the first in the order, in which longer names come first.
  obtain ⟨entry, among, spelled, notLonger⟩ :=
    (longestFirst_foldr_place (distinct names)).of_findSome? found
  obtain ⟨name, listed, key⟩ := mem_entries_ofNames.mp ⟨entry.2, among⟩
  rw [← key] at spelled notLonger
  have inList := List.mem_map_of_mem (f := (·.1)) listed
  obtain ⟨same, begins⟩ := alike.lowercase_of_takeFolded? inList spelled
  refine ⟨(Text.takeFolded?_eq_some_iff.mp spelled).1, ⟨name.1, inList, same.symm⟩, ?_⟩
  -- Two names that begin one text are nested, and the sizes say which is the inner one.
  intro other otherListed otherBegins
  obtain ⟨pair, pairListed, rfl⟩ := List.mem_map.mp otherListed
  obtain ⟨meaning, tried⟩ := mem_entries_ofNames.mpr ⟨pair, pairListed, rfl⟩
  rw [same]
  exact Text.prefix_of_byteLength_le otherBegins begins
    (notLonger _ tried ((alike.takeFolded?_isSome_iff otherListed).mpr otherBegins))

/-- A name of the list means what its first appearance does. -/
theorem exists_meaning? {key : List Char}
    (listed : ∃ name ∈ names, Text.lowercase name.1 = Text.lowercase key) :
    ∃ name meaning, names.find? (Text.lowercase ·.1 == Text.lowercase key) = some (name, meaning) ∧
      (ofNames names).meaning? key = some meaning := by
  -- Some name has the key, so that a first one has it.
  obtain ⟨name, among, same⟩ := listed
  have found : (names.find? (Text.lowercase ·.1 == Text.lowercase key)).isSome = true :=
    List.find?_isSome.mpr ⟨name, among, by simpa using same⟩
  obtain ⟨⟨first, meaning⟩, isFirst⟩ := Option.isSome_iff_exists.mp found
  exact ⟨first, meaning, isFirst, by rw [meaning?_ofNames, isFirst]; rfl⟩

end Lexicon

/-- A matcher finds the longest of its names that a text begins with, and the first value of that name. -/
theorem TextMatcher.match?_longest (field : Field) {names : List (String × Int)} {text : List Char}
    (alike : Text.CaseAlike (names.map (·.1.toList)) text) :
    (((ofNames field names).match? text).isSome = true ↔
      ∃ name ∈ names, Text.lowercase name.1.toList <+: Text.lowercase text) ∧
    ∀ value taken rest, (ofNames field names).match? text = some (value, taken, rest) →
      LongestName (names.map (·.1.toList)) text taken rest ∧
        ∃ first, names.find? (Text.lowercase ·.1.toList == Text.lowercase taken) =
          some (first, value) := by
  -- The lexicon holds the same names as lists of characters.
  let spelled := names.map fun name => (name.1.toList, name.2)
  have same : spelled.map (·.1) = names.map (·.1.toList) := List.map_map
  have listed : (∃ name ∈ names, Text.lowercase name.1.toList <+: Text.lowercase text) ↔
      ∃ name ∈ spelled, Text.lowercase name.1 <+: Text.lowercase text := by
    constructor
    · rintro ⟨name, among, begins⟩
      exact ⟨_, List.mem_map_of_mem among, begins⟩
    · rintro ⟨pair, among, begins⟩
      obtain ⟨name, inList, rfl⟩ := List.mem_map.mp among
      exact ⟨name, inList, begins⟩
  have matching : (ofNames field names).match? text =
      ((Lexicon.ofNames spelled).take? text).bind fun front =>
        ((Lexicon.ofNames spelled).meaning? front.1).bind fun value =>
          some (value, front.1, front.2) := rfl
  rw [← same] at alike ⊢
  rw [listed, ← Lexicon.take?_isSome_iff alike]
  cases found : (Lexicon.ofNames spelled).take? text with
  | none =>
    rw [matching, found]
    refine ⟨Iff.rfl, ?_⟩
    intro _ _ _ impossible
    cases impossible
  | some front =>
    obtain ⟨taken, rest⟩ := front
    -- What is taken is a name of the list, and so it has a meaning there.
    have longest := Lexicon.longestName_of_take? alike found
    obtain ⟨_, inList, key⟩ := longest.listed
    obtain ⟨pair, among, rfl⟩ := List.mem_map.mp inList
    obtain ⟨_, value, isFirst, meant⟩ := Lexicon.exists_meaning? ⟨pair, among, key⟩
    rw [List.find?_map] at isFirst
    obtain ⟨⟨first, _⟩, inNames, pairing⟩ := Option.map_eq_some_iff.mp isFirst
    cases pairing
    simp only [matching, found, meant, Option.bind_some]
    refine ⟨Iff.rfl, ?_⟩
    intro value taken rest matched
    cases matched
    exact ⟨longest, first, inNames⟩

/-- Of names that begin one another the longest is found, and of its values the first. -/
theorem TextMatcher.match?_longest_june :
    (TextMatcher.ofNames .month [("Jun", 5), ("JUNE", 6), ("june", 7)]).match? "jUNe 3".toList =
        some (6, "jUNe".toList, " 3".toList) ∧
      LongestName ["Jun".toList, "JUNE".toList, "june".toList] "jUNe 3".toList "jUNe".toList
        " 3".toList := by
  -- The name in capitals and the small one are the same in lower case, and the longer one wins.
  have matched : (TextMatcher.ofNames .month [("Jun", 5), ("JUNE", 6), ("june", 7)]).match?
      "jUNe 3".toList = some (6, "jUNe".toList, " 3".toList) := by decide +kernel
  exact ⟨matched, ((TextMatcher.match?_longest .month (by decide +kernel)).2 _ _ _ matched).1⟩

end DatePattern
