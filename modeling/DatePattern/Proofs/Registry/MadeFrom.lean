import DatePattern.Proofs.Compile
import DatePattern.Proofs.Computation

/-!
What a compilation depends on: the set-up of its registry and the time, and not what was made before.

A compilation touches its registry in three ways only: it asks for the matcher of a field, for the matcher of zones and
for the display name of a zone. Whatever these three keep, every compilation keeps, whether it succeeds or not. A
matcher that cannot be built ends a compilation, and is asked for anew by the next one.
-/

namespace DatePattern

namespace Registry

/-- The registry of the same set-up and time in which nothing was made yet. -/
def fresh (registry : Registry) : Registry :=
  { defaults := registry.defaults, localeData := registry.localeData, regions := registry.regions,
    now := registry.now, refusal? := registry.refusal? }

/-- The display name that the locale data give for a zone now. -/
def nameRule (source : Registry) (key : ZoneNameKey) : String :=
  key.zone.displayName key.daylight key.long (source.localeData.zoneNames key.locale) source.now

/-- Whether all that a registry has was made from the set-up and the time of another one. -/
structure MadeFrom (registry source : Registry) : Prop extends registry.SetUpAs source where
  /-- The time is the same. -/
  now : registry.now = source.now
  /-- The matchers for fields are those that the source builds. -/
  textMatchers : registry.textMatchers.All fun key matcher =>
    source.buildText key.1 key.2 = .ok matcher
  /-- The matchers for zones are those that the source builds. -/
  zoneMatchers : registry.zoneMatchers.All fun locale matcher =>
    source.buildZones locale = .ok matcher
  /-- The display names of zones are the ones found now. -/
  zoneNames : registry.zoneNames.All fun key name => name = source.nameRule key

/-- Where nothing was made yet, nothing was made from anything else. -/
theorem madeFrom_fresh (source : Registry) : source.fresh.MadeFrom source :=
  -- There is nothing that could have been made from anything else.
  ⟨⟨rfl, rfl, rfl, rfl⟩, rfl, OnceMap.all_empty _, OnceMap.all_empty _, OnceMap.all_empty _⟩

/-- The matcher for a field is what the source builds, whether it was kept or is new or cannot be built. -/
theorem MadeFrom.textMatcher {registry source : Registry} (made : registry.MadeFrom source)
    (field : Field) (locale : Locale) :
    answer (Registry.textMatcher field locale) registry = source.buildText field locale ∧
      (final (Registry.textMatcher field locale) registry).MadeFrom source := by
  -- The registry builds what the source builds, as they were set up alike.
  have looked := textMatcher_eq registry field locale
  simp only [made.toSetUpAs.buildText] at looked
  obtain ⟨answered, right⟩ := made.textMatchers.getOrTry (field, locale)
  rw [answered] at looked
  rw [answer_of_conclude looked, final_of_conclude looked]
  exact ⟨rfl, ⟨made.defaults, made.localeData, made.regions, made.refusal?⟩, made.now, right,
    made.zoneMatchers, made.zoneNames⟩

/-- The matcher for zones is what the source builds, whether it was kept or is new or cannot be built. -/
theorem MadeFrom.zoneMatcher {registry source : Registry} (made : registry.MadeFrom source)
    (locale : Locale) :
    answer (Registry.zoneMatcher locale) registry = source.buildZones locale ∧
      (final (Registry.zoneMatcher locale) registry).MadeFrom source := by
  -- As for a field, the registry builds what the source builds.
  have looked := zoneMatcher_eq registry locale
  simp only [made.toSetUpAs.buildZones] at looked
  obtain ⟨answered, right⟩ := made.zoneMatchers.getOrTry locale
  rw [answered] at looked
  rw [answer_of_conclude looked, final_of_conclude looked]
  exact ⟨rfl, ⟨made.defaults, made.localeData, made.regions, made.refusal?⟩, made.now,
    made.textMatchers, right, made.zoneNames⟩

/-- The display name of a zone is the one found now, whether it was kept or is new. -/
theorem MadeFrom.zoneName {registry source : Registry} (made : registry.MadeFrom source)
    (key : ZoneNameKey) :
    (registry.zoneName key).1 = source.nameRule key ∧
      (registry.zoneName key).2.MadeFrom source := by
  have looked := made.zoneNames.getOrCompute key
  -- A name depends on the time besides, which is the same as well.
  simp only [nameRule] at looked
  simp only [Registry.zoneName, made.localeData, made.now]
  exact ⟨looked.1, ⟨made.defaults, rfl, made.regions, made.refusal?⟩, rfl, made.textMatchers,
    made.zoneMatchers, looked.2⟩

/-- Whether a kind of registry stays of that kind under each of the three things that are asked of it. -/
structure KeptByUse (kind : Registry → Prop) : Prop where
  /-- Asking for the matcher of a field keeps the kind, whether there is one or not. -/
  textMatcher : ∀ field locale, Preserves kind (Registry.textMatcher field locale)
  /-- Asking for the matcher of zones keeps the kind, whether there is one or not. -/
  zoneMatcher : ∀ locale, Preserves kind (Registry.zoneMatcher locale)
  /-- Asking for the display name of a zone keeps the kind. -/
  zoneName : ∀ registry key, kind registry → kind (registry.zoneName key).2

/-- What is made later on is made from the same source. -/
theorem keptByUse_madeFrom (source : Registry) : KeptByUse (·.MadeFrom source) where
  -- Each request leaves what the source would have made.
  textMatcher := fun field locale _ made => (made.textMatcher field locale).2
  zoneMatcher := fun locale _ made => (made.zoneMatcher locale).2
  zoneName := fun _ key made => (made.zoneName key).2

/-- Nothing that is made changes what a registry was set up with. -/
theorem keptByUse_setUpAs (source : Registry) : KeptByUse (·.SetUpAs source) where
  -- Requests change what is kept, and the set-up is not kept with it.
  textMatcher := by
    intro field locale registry same
    rw [final_of_conclude (textMatcher_eq registry field locale)]
    exact ⟨same.defaults, same.localeData, same.regions, same.refusal?⟩
  zoneMatcher := by
    intro locale registry same
    rw [final_of_conclude (zoneMatcher_eq registry locale)]
    exact ⟨same.defaults, same.localeData, same.regions, same.refusal?⟩
  zoneName := fun _ _ same => ⟨same.defaults, same.localeData, same.regions, same.refusal?⟩

end Registry

/-- A write rule is there already, or is an error, or names the zone. -/
theorem WriteRule.ofToken_cases (zone : Zone) (locale : Locale) (symbols : Symbols)
    (token : Token) :
    (∃ rule, ofToken zone locale symbols token = pure rule) ∨
      (∃ reason, ofToken zone locale symbols token = throw reason) ∨
      ∃ long, ofToken zone locale symbols token = zoneNameRule zone locale long := by
  cases token with
  | literal verbatim => exact .inl ⟨_, rfl⟩
  | letters letter width =>
    simp only [ofToken, ofLetter]
    -- The letter decides, and for some letters its width besides.
    split
    all_goals first
      | exact .inl ⟨_, rfl⟩
      | exact .inr (.inl ⟨_, rfl⟩)
      | exact .inr (.inr ⟨_, rfl⟩)
      | (split <;> first | exact .inl ⟨_, rfl⟩ | exact .inr (.inl ⟨_, rfl⟩))

section

variable {kind : Registry → Prop}

/-- Making a write rule keeps what the three requests keep. -/
theorem WriteRule.preserves_ofToken (kept : Registry.KeptByUse kind) (zone : Zone)
    (locale : Locale) (symbols : Symbols) (token : Token) :
    Preserves kind (ofToken zone locale symbols token) := by
  -- A rule that is there already asks for nothing, and only names of zones do.
  rcases ofToken_cases zone locale symbols token with
    ⟨rule, there⟩ | ⟨reason, failed⟩ | ⟨long, looked⟩
  · rw [there]
    exact preserves_pure rule
  · rw [failed]
    exact preserves_throw reason
  · rw [looked, zoneNameRule]
    -- Both names are asked for, one after the other.
    refine (preserves_modifyGet fun registry => kept.zoneName registry _).bind ?_
    intro standard
    refine (preserves_modifyGet fun registry => kept.zoneName registry _).bind ?_
    intro daylight
    exact preserves_pure _

/-- Making a read step keeps what the three requests keep. -/
theorem ReadStep.preserves_ofToken (kept : Registry.KeptByUse kind) (locale : Locale)
    (token : Token) : Preserves kind (ofToken locale token) := by
  -- Of the steps only those with a matcher ask for anything.
  cases token with
  | literal verbatim => exact preserves_pure _
  | letters letter width =>
    simp only [ofToken]
    -- The step has the rule of its letter, and nothing else is asked for.
    refine Preserves.bind ?_ fun rule => preserves_pure _
    rcases ReadRule.ofLetter_cases locale letter width with
      ⟨rule, there⟩ | ⟨reason, failed⟩ | ⟨field, looked⟩ | looked
    · rw [there]
      exact preserves_pure rule
    · rw [failed]
      exact preserves_throw reason
    · rw [looked]
      exact (kept.textMatcher field locale).map _
    · rw [looked]
      exact (kept.zoneMatcher locale).map _

/-- Making the reading side keeps what the three requests keep. -/
theorem Format.preserves_readerOf (kept : Registry.KeptByUse kind) (tokens : List Token)
    (zone : Zone) (locale : Locale) (centuryStart : Option Instant) :
    Preserves kind (readerOf tokens zone locale centuryStart) := by
  -- The registry is looked at, and then asked token by token.
  unfold readerOf
  refine preserves_get.bind ?_
  intro registry
  -- Each token is asked for in its turn.
  refine (preserves_mapM (ReadStep.preserves_ofToken kept locale) tokens).bind ?_
  intro steps
  exact preserves_pure _

/-- A compilation keeps what the three requests keep. -/
theorem Format.preserves_compile (kept : Registry.KeptByUse kind) (pattern : String)
    (zone : Zone) (locale : Locale) (centuryStart : Option Instant) :
    Preserves kind (compile pattern zone locale centuryStart) := by
  -- A pattern that is not understood ends the compilation before anything is asked for.
  unfold compile
  cases Token.ofPattern pattern with
  | error reason => exact preserves_throw reason
  | ok tokens =>
    simp only [pure_bind]
    refine preserves_get.bind ?_
    intro registry
    -- The two sides are made one after the other.
    refine (preserves_mapM (WriteRule.preserves_ofToken kept zone locale _) tokens).bind ?_
    intro rules
    refine (preserves_readerOf kept tokens zone locale centuryStart).bind ?_
    intro reader
    exact preserves_pure _

end

section

variable (source : Registry)

/-- The write rule of a token depends on the source alone. -/
theorem WriteRule.uniform_ofToken (zone : Zone) (locale : Locale) (symbols : Symbols)
    (token : Token) : Uniform (·.MadeFrom source) (ofToken zone locale symbols token) := by
  -- Names of zones are the only rules that come from the registry.
  have kept := Registry.keptByUse_madeFrom source
  rcases ofToken_cases zone locale symbols token with
    ⟨rule, there⟩ | ⟨reason, failed⟩ | ⟨long, looked⟩
  · rw [there]
    exact uniform_pure rule
  · rw [failed]
    exact uniform_throw reason
  · rw [looked, zoneNameRule]
    -- Either name is the one found at the time of the source.
    refine (uniform_modifyGet fun registry made => (made.zoneName _).1).bind
      (preserves_modifyGet fun registry => kept.zoneName registry _) ?_
    intro standard
    refine (uniform_modifyGet fun registry made => (made.zoneName _).1).bind
      (preserves_modifyGet fun registry => kept.zoneName registry _) ?_
    intro daylight
    exact uniform_pure _

/-- The read step of a token depends on the source alone. -/
theorem ReadStep.uniform_ofToken (locale : Locale) (token : Token) :
    Uniform (·.MadeFrom source) (ofToken locale token) := by
  have kept := Registry.keptByUse_madeFrom source
  cases token with
  | literal verbatim => exact uniform_pure _
  | letters letter width =>
    simp only [ofToken]
    rcases ReadRule.ofLetter_cases locale letter width with
      ⟨rule, there⟩ | ⟨reason, failed⟩ | ⟨field, looked⟩ | looked
    · rw [there]
      exact uniform_pure _
    · rw [failed]
      exact uniform_throw _
    · -- The matcher of the field is the one of the source.
      rw [looked]
      have asked := kept.textMatcher field locale
      have known : Uniform (·.MadeFrom source) (Registry.textMatcher field locale) :=
        ⟨_, fun registry made => (made.textMatcher field locale).1⟩
      exact (known.map asked _).bind (asked.map _) fun rule => uniform_pure _
    · rw [looked]
      have asked := kept.zoneMatcher locale
      have known : Uniform (·.MadeFrom source) (Registry.zoneMatcher locale) :=
        ⟨_, fun registry made => (made.zoneMatcher locale).1⟩
      exact (known.map asked _).bind (asked.map _) fun rule => uniform_pure _

/-- The window of two-digit years depends on the source alone. -/
theorem Format.windowStart_eq {registry source : Registry} (made : registry.MadeFrom source)
    (zone : Zone) (locale : Locale) (calendar : Calendar) (centuryStart : Option Instant) :
    windowStart registry zone locale calendar centuryStart =
      windowStart source zone locale calendar centuryStart := by
  -- Without a given start, the window is counted from now, by the lookback of the defaults.
  cases centuryStart with
  | some start => rfl
  | none => simp only [windowStart, made.now, made.defaults]

/-- The reading side depends on the source alone. -/
theorem Format.uniform_readerOf (tokens : List Token) (zone : Zone) (locale : Locale)
    (centuryStart : Option Instant) :
    Uniform (·.MadeFrom source) (readerOf tokens zone locale centuryStart) := by
  have kept := Registry.keptByUse_madeFrom source
  unfold readerOf
  refine uniform_get_bind source ?_ ?_
  · -- Calendar, window and reference are those of the source.
    intro registry made
    simp only [made.localeData, made.regions, made.now, windowStart_eq made]
  refine (uniform_mapM (ReadStep.uniform_ofToken source locale)
    (ReadStep.preserves_ofToken kept locale) tokens).bind
    (preserves_mapM (ReadStep.preserves_ofToken kept locale) tokens) ?_
  intro steps
  exact uniform_pure _

/-- What a compilation comes to depends on the source alone. -/
theorem Format.uniform_compile (pattern : String) (zone : Zone) (locale : Locale)
    (centuryStart : Option Instant) :
    Uniform (·.MadeFrom source) (compile pattern zone locale centuryStart) := by
  -- The pattern decides whether there is anything to be made at all.
  have kept := Registry.keptByUse_madeFrom source
  unfold compile
  cases Token.ofPattern pattern with
  | error reason => exact uniform_throw reason
  | ok tokens =>
    simp only [pure_bind]
    refine uniform_get_bind source ?_ ?_
    · -- The symbols of the locale are those of the source.
      intro registry made
      simp only [made.localeData]
    refine (uniform_mapM (WriteRule.uniform_ofToken source zone locale _)
      (WriteRule.preserves_ofToken kept zone locale _) tokens).bind
      (preserves_mapM (WriteRule.preserves_ofToken kept zone locale _) tokens) ?_
    intro rules
    refine (uniform_readerOf source tokens zone locale centuryStart).bind
      (preserves_readerOf kept tokens zone locale centuryStart) ?_
    intro reader
    exact uniform_pure _

end

end DatePattern
