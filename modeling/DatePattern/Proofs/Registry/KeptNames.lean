import DatePattern.Proofs.Registry.MadeFrom

/-!
Kept names of zones: matchers are those of the locale data, and names were found at some time.

A zone with an entry in the table has the same name at all times.
-/

namespace DatePattern

/-- A zone with an entry in a table has the names of the first such entry, at any time. -/
theorem Zone.displayName_of_entry {zone : Zone} {table : List ZoneNames} {entry : ZoneNames}
    (found : table.find? (·.id == zone.id) = some entry) (daylight long : Bool)
    (reference : Int) : zone.displayName daylight long table reference =
      entry.name daylight long := by
  -- The entry is found before the daylight rules of the zone are looked at.
  rw [displayName, found]

namespace Registry

/-- Whether all that a registry has of zones was made from its locale data, at whatever time. -/
structure NamesKept (registry : Registry) : Prop where
  /-- The matchers for zones are those that are built. -/
  zoneMatchers : registry.zoneMatchers.All fun locale matcher =>
    registry.buildZones locale = .ok matcher
  /-- The display names of zones were found at some time. -/
  zoneNames : registry.zoneNames.All fun key name => ∃ moment,
    name = ({ registry with now := moment } : Registry).nameRule key

/-- A registry in which nothing was made yet has no wrong names. -/
theorem namesKept_fresh (registry : Registry) : registry.fresh.NamesKept :=
  -- There is nothing yet that could be wrong.
  ⟨OnceMap.all_empty _, OnceMap.all_empty _⟩

/-- The names stay right when time goes on. -/
theorem NamesKept.later {registry : Registry} (kept : registry.NamesKept) (now : Int) :
    ({ registry with now := now } : Registry).NamesKept :=
  -- What is kept does not say when it was found, only that there was such a time.
  ⟨kept.zoneMatchers, kept.zoneNames⟩

/-- The matcher for zones is the one that is built, whether it was kept or is new or cannot be built. -/
theorem NamesKept.zoneMatcher {registry : Registry} (kept : registry.NamesKept)
    (locale : Locale) :
    ∃ after, Registry.zoneMatcher locale registry = conclude (registry.buildZones locale) after ∧
      after.NamesKept := by
  -- A kept matcher answers like the one that would be built, and a new one is built.
  obtain ⟨answered, right⟩ := kept.zoneMatchers.getOrTry locale
  have looked := zoneMatcher_eq registry locale
  rw [answered] at looked
  exact ⟨_, looked, right, kept.zoneNames⟩

/-- The display name of a zone is one that was found at some time. -/
theorem NamesKept.zoneName {registry : Registry} (kept : registry.NamesKept) (key : ZoneNameKey) :
    (∃ moment, (registry.zoneName key).1 =
        ({ registry with now := moment } : Registry).nameRule key) ∧
      (registry.zoneName key).2.NamesKept := by
  -- A kept name was found before, at its own time.
  simp only [Registry.zoneName, OnceMap.getOrCompute]
  cases found : registry.zoneNames.get? key with
  | some name => exact ⟨kept.zoneNames key name found, kept.zoneMatchers, kept.zoneNames⟩
  | none =>
    -- A new name is found now.
    simp only
    refine ⟨⟨registry.now, ?_⟩, kept.zoneMatchers, kept.zoneNames.insert ⟨registry.now, rfl⟩⟩
    rw [OnceMap.insert_of_missing found]
    rfl

/-- The three requests keep the names right. -/
theorem keptByUse_namesKept : KeptByUse NamesKept where
  -- Each request either changes nothing of the names or keeps one that was just made.
  textMatcher := by
    intro field locale registry kept
    -- Matchers of fields are none of zones.
    rw [final_of_conclude (textMatcher_eq registry field locale)]
    exact ⟨kept.zoneMatchers, kept.zoneNames⟩
  zoneMatcher := by
    intro locale registry kept
    obtain ⟨after, looked, still⟩ := kept.zoneMatcher locale
    rwa [final_of_conclude looked]
  zoneName := fun _ key kept => (kept.zoneName key).2

/-- A zone with an entry in the table is named by it, whenever its name was found. -/
theorem NamesKept.zoneName_of_entry {registry : Registry} (kept : registry.NamesKept)
    {key : ZoneNameKey} {entry : ZoneNames}
    (found : (registry.localeData.zoneNames key.locale).find? (·.id == key.zone.id) = some entry) :
    (registry.zoneName key).1 = entry.name key.daylight key.long := by
  -- The name was found at some time, and the entry does not depend on it.
  obtain ⟨⟨moment, named⟩, -⟩ := kept.zoneName key
  rw [named]
  exact Zone.displayName_of_entry found key.daylight key.long moment

/-- A registry that is reached from one in which nothing was made yet, by compilations and with time. -/
inductive Reached (source : Registry) : Registry → Prop where
  /-- Nothing was made yet. -/
  | fresh : Reached source source.fresh
  /-- A pattern is compiled, whether that succeeds or not. -/
  | compiled {registry : Registry} (reached : Reached source registry) (pattern : String)
    (zone : Zone) (locale : Locale) (centuryStart : Option Instant) :
    Reached source (final (Format.compile pattern zone locale centuryStart) registry)
  /-- Time goes on. -/
  | later {registry : Registry} (reached : Reached source registry) (now : Int) :
    Reached source { registry with now := now }

/-- Every registry that is reached has the right names. -/
theorem Reached.namesKept {source registry : Registry} (reached : Reached source registry) :
    registry.NamesKept := by
  -- Along the way to the registry, compiling asks for names by the three requests alone.
  induction reached with
  | fresh => exact namesKept_fresh source
  | compiled _ pattern zone locale centuryStart kept =>
    exact Format.preserves_compile keptByUse_namesKept pattern zone locale centuryStart _ kept
  | later _ now kept => exact kept.later now

end Registry

end DatePattern
