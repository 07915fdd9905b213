import DatePattern.Cache
import DatePattern.Proofs.Compile
import DatePattern.Proofs.OnceMap
import DatePattern.Zone.Database

/-! Laws of format caches: what is kept was compiled in a registry that was set up alike, and stays kept. -/

namespace DatePattern

/-- The format of a key. -/
def FormatKey.compile (key : FormatKey) : Compiling Format :=
  Format.compile key.pattern key.zone key.locale none

namespace FormatCache

/-- Every format that is kept was compiled for its key in a registry set up as that of the cache. -/
structure Sound (cache : FormatCache) : Prop where
  /-- The registry has the matchers that it builds. -/
  faithful : cache.registry.Faithful
  /-- Kept formats were compiled. -/
  compiled : ∀ key format, cache.formats.get? key = some format →
    ∃ before after, before.Like cache.registry ∧
      Format.compile key.pattern key.zone key.locale none before = .ok format after

/-- A later state of a cache has the same source, and keeps what was kept. -/
structure Extends (before after : FormatCache) : Prop where
  /-- The registry has the same source. -/
  registry : before.registry.Extends after.registry
  /-- Kept formats stay. -/
  formats : ∀ key format, before.formats.get? key = some format →
    after.formats.get? key = some format

/-- A cache does not change in no time. -/
theorem Extends.refl (cache : FormatCache) : cache.Extends cache :=
  ⟨.refl _, fun _ _ kept => kept⟩

/-- A cache that nothing was asked of is sound. -/
theorem sound_new {registry : Registry} (faithful : registry.Faithful) : Sound { registry } :=
  -- Nothing is kept yet that could have been compiled otherwise.
  ⟨faithful, fun _ _ kept => by cases kept⟩

/-- A cache of the locales known by themselves and of some regions, in American English and in UTC. -/
def builtin : FormatCache :=
  { registry :=
      { defaults := ⟨.utc, .americanEnglish, Defaults.usualLookback⟩
        localeData := .builtin
        regions := Region.sample
        now := 0 } }

/-- A cache whose registry has made nothing yet is sound. -/
theorem sound_builtin : builtin.Sound := sound_new (Registry.faithful_new rfl rfl)

/-- The key of a request, with the defaults where no zone or locale is given. -/
def keyOf (cache : FormatCache) (pattern : String) (zone : Option Zone) (locale : Option Locale) :
    FormatKey :=
  ⟨pattern, zone.getD cache.registry.defaults.zone, locale.getD cache.registry.defaults.locale⟩

/-- A format that is kept is given out as it is. -/
theorem format_of_kept {cache : FormatCache} {pattern : String} {zone : Option Zone}
    {locale : Option Locale} {format : Format}
    (kept : cache.formats.get? (cache.keyOf pattern zone locale) = some format) :
    FormatCache.format pattern zone locale cache = .ok format cache := by
  -- The cache is looked at first, and what it has for the key ends the request.
  rw [keyOf] at kept
  refine bind_eq_ok.mpr ⟨cache, cache, rfl, ?_⟩
  simp only [kept]
  rfl

/-- A format that is missing is compiled, and is kept if that succeeds. -/
theorem format_of_missing {cache : FormatCache} {text : String} {zone : Option Zone}
    {locale : Option Locale} (missing : cache.formats.get? (cache.keyOf text zone locale) = none) :
    format text zone locale cache =
      match (cache.keyOf text zone locale).compile cache.registry with
      | .ok format registry => .ok format
        { cache with
          registry, formats := (cache.formats.insert (cache.keyOf text zone locale) format).2 }
      | .error reason registry => .error reason { cache with registry } := by
  have asked : format text zone locale cache = EStateM.bind
      (onRegistry (cache.keyOf text zone locale).compile) (fun made => modifyGet fun cache' =>
        ((cache'.formats.insert (cache.keyOf text zone locale) made).1,
          { cache' with
            formats := (cache'.formats.insert (cache.keyOf text zone locale) made).2 })) cache := by
    -- The cache is looked at first, and has nothing for the key.
    have absent := missing
    rw [keyOf] at absent
    unfold FormatCache.format
    show EStateM.bind get _ cache = _
    have looked : (get : Caching FormatCache) cache = .ok cache cache := rfl
    rw [EStateM.bind, looked]
    simp only [absent]
    rfl
  rw [asked, EStateM.bind, onRegistry]
  -- An error ends the request with the registry as compiling left it.
  cases (cache.keyOf text zone locale).compile cache.registry with
  | error reason registry => rfl
  | ok format registry =>
    -- What is given out is what the key has then, and that is the new format.
    show EStateM.Result.ok (cache.formats.insert (cache.keyOf text zone locale) format).1 _ =
      EStateM.Result.ok format _
    rw [OnceMap.insert_of_missing missing]

/-- A pattern has a format in a sound cache, kept or new, if each of its tokens has a read step. -/
theorem format_succeeds {cache : FormatCache} (sound : cache.Sound) {pattern : String}
    {tokens : List Token} (scanned : Token.ofPattern pattern = .ok tokens)
    (meant : ∀ token ∈ tokens, token.isMeant = true) (zone : Option Zone) (locale : Option Locale)
    (readable : ∀ token ∈ tokens, Compiling.Succeeds (·.Like cache.registry)
      (ReadStep.ofToken (locale.getD cache.registry.defaults.locale) token)) :
    ∃ format after, FormatCache.format pattern zone locale cache = .ok format after := by
  -- A format that is kept was compiled before, and a missing one is compiled now.
  cases kept : cache.formats.get? (cache.keyOf pattern zone locale) with
  | some format => exact ⟨format, cache, format_of_kept kept⟩
  | none =>
    obtain ⟨format, registry, compiled⟩ := Format.compile_succeeds Registry.Like.stable scanned
      meant (cache.keyOf pattern zone locale).zone readable none cache.registry
      ⟨sound.faithful, .refl _⟩
    -- The key has the pattern and the locale for which both rules of each token were found.
    refine ⟨format, ?_⟩
    rw [format_of_missing kept, FormatKey.compile,
      show (cache.keyOf pattern zone locale).pattern = pattern from rfl,
      show (cache.keyOf pattern zone locale).locale =
        locale.getD cache.registry.defaults.locale from rfl, compiled]
    exact ⟨_, rfl⟩

/-- A format that is given out is kept from then on, and everything else stays as it was. -/
theorem format_ok {cache after : FormatCache} {pattern : String} {zone : Option Zone}
    {locale : Option Locale} {format : Format} (sound : cache.Sound)
    (given : FormatCache.format pattern zone locale cache = .ok format after) :
    after.Sound ∧ cache.Extends after ∧
      after.formats.get? (cache.keyOf pattern zone locale) = some format := by
  -- Either the format was kept, and nothing changes, or it is compiled and kept from now on.
  cases kept : cache.formats.get? (cache.keyOf pattern zone locale) with
  | some present =>
    rw [format_of_kept kept] at given
    cases given
    exact ⟨sound, .refl cache, kept⟩
  | none =>
    rw [format_of_missing kept] at given
    -- A new format is compiled on the registry of the cache.
    cases compiled : (cache.keyOf pattern zone locale).compile cache.registry with
    | error reason registry =>
      rw [compiled] at given
      cases given
    | ok result registry =>
      rw [compiled] at given
      cases given
      have extended := (Format.compiledFrom sound.faithful compiled).1
      refine ⟨⟨extended.faithful sound.faithful, ?_⟩, ⟨extended, ?_⟩,
        OnceMap.get?_insert_of_missing kept format⟩
      · -- The new format was compiled as well, and the source of the others is the same.
        have others : cache.formats.All fun key format => ∃ before after, before.Like registry ∧
            Format.compile key.pattern key.zone key.locale none before = .ok format after := by
          intro key format found
          obtain ⟨before, after, ⟨faithful, same⟩, compiled⟩ := sound.compiled key format found
          exact ⟨before, after, ⟨faithful, same.trans extended.toSetUpAs.symm⟩, compiled⟩
        exact others.insert
          ⟨cache.registry, registry, ⟨sound.faithful, extended.toSetUpAs.symm⟩, compiled⟩
      · -- Keeping a new format replaces no other one.
        intro key format' found
        exact OnceMap.get?_insert_of_some found _ format

end FormatCache

end DatePattern
