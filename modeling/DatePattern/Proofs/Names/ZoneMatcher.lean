import DatePattern.Names.ZoneMatcher
import DatePattern.Proofs.Names.Lexicon

/-! Names of zones: those that are matched are the names of the entries of a table. -/

namespace DatePattern.ZoneMatcher

/-- A name of an entry is one of its four names, and stands for the zone of the entry. -/
theorem mem_namesOf {regions : List Region} {entry : ZoneNames} {name : List Char}
    {named : NamedZone} (listed : (name, named) ∈ namesOf regions entry) :
    Zone.ofId? regions entry.id = some named.zone ∧
      ∃ long, entry.name named.daylight long ≠ "" ∧
        name = (entry.name named.daylight long).toList := by
  unfold namesOf at listed
  -- Greenwich has no names of its own, and neither has an entry whose zone is unknown.
  split at listed
  · cases listed
  · cases known : Zone.ofId? regions entry.id with
    | none =>
      rw [known] at listed
      cases listed
    | some zone =>
      simp only [known, List.mem_filterMap, Option.ite_none_left_eq_some, Option.some.injEq,
        Prod.mk.injEq] at listed
      obtain ⟨⟨long, daylight⟩, -, nonempty, rfl, rfl⟩ := listed
      exact ⟨rfl, long, nonempty, rfl⟩

/-- A name that is matched is in the table, in some case. -/
theorem mem_entries_ofTable {regions : List Region} {table : List ZoneNames}
    {entry : List Char × NamedZone} (among : entry ∈ (ofTable regions table).names.entries) :
    ∃ place ∈ table, ∃ name ∈ namesOf regions place, Text.lowercase name.1 = entry.1 := by
  -- The names of a lexicon are those of the table, each kept once and put in their order.
  obtain ⟨name, inTable, key⟩ := Lexicon.exists_mem_distinct.mp
    ⟨entry.2, Lexicon.mem_foldr_place.mp among⟩
  obtain ⟨place, listed, here⟩ := List.mem_flatMap.mp inTable
  exact ⟨place, listed, name, here, key⟩

end DatePattern.ZoneMatcher
