import DatePattern.Format
import DatePattern.Proofs.Computation
import DatePattern.Proofs.OnceMap
import Mathlib.Data.List.Forall2

/-! Laws of registries: what is made from the locale data stays true to it, in every compilation. -/

namespace DatePattern

/-- Two computations in a row succeed when the first does and then the second does. -/
theorem bind_eq_ok {σ α β : Type} {first : EStateM PatternError σ α}
    {next : α → EStateM PatternError σ β} {before after : σ} {result : β} :
    (first >>= next) before = .ok result after ↔
      ∃ value middle, first before = .ok value middle ∧ next value middle = .ok result after := by
  show (EStateM.bind first next) before = _ ↔ _
  simp only [EStateM.bind]
  -- The second computation runs only where the first one has ended well.
  cases first before with
  | ok value middle =>
    constructor
    · intro rest
      exact ⟨value, middle, rfl, rest⟩
    · rintro ⟨_, _, same, rest⟩
      cases same
      exact rest
  | error reason middle =>
    constructor
    · intro impossible
      cases impossible
    · rintro ⟨_, _, impossible, _⟩
      cases impossible

/-- A result that is there already changes nothing. -/
theorem pure_eq_ok {σ α : Type} {value result : α} {before after : σ} :
    (pure value : EStateM PatternError σ α) before = .ok result after ↔
      result = value ∧ after = before := by
  -- The computation ends at once, in the state in which it began.
  show EStateM.Result.ok value before = _ ↔ _
  constructor
  · intro same
    cases same
    exact ⟨rfl, rfl⟩
  · rintro ⟨rfl, rfl⟩
    rfl

namespace Registry

/-- Whether two registries were set up alike, apart from their time. -/
structure SetUpAs (registry source : Registry) : Prop where
  /-- The defaults are the same. -/
  defaults : registry.defaults = source.defaults
  /-- The locale data are the same. -/
  localeData : registry.localeData = source.localeData
  /-- The regions are the same. -/
  regions : registry.regions = source.regions
  /-- The same expressions are refused. -/
  refusal? : registry.refusal? = source.refusal?

namespace SetUpAs

variable {registry source other : Registry}

/-- A registry was set up as itself. -/
theorem refl (registry : Registry) : registry.SetUpAs registry := ⟨rfl, rfl, rfl, rfl⟩

/-- What two registries were set up with is the same both ways. -/
theorem symm (same : registry.SetUpAs source) : source.SetUpAs registry :=
  ⟨same.defaults.symm, same.localeData.symm, same.regions.symm, same.refusal?.symm⟩

/-- A registry that was set up as another one was set up as whatever that one was. -/
theorem trans (early : registry.SetUpAs source) (late : source.SetUpAs other) :
    registry.SetUpAs other :=
  -- Each part is the same in both steps.
  ⟨early.defaults.trans late.defaults, early.localeData.trans late.localeData,
    early.regions.trans late.regions, early.refusal?.trans late.refusal?⟩

/-- Registries that were set up alike build the same matchers for fields. -/
theorem buildText (same : registry.SetUpAs source) (field : Field) (locale : Locale) :
    registry.buildText field locale = source.buildText field locale := by
  -- A matcher depends on the locale data, and on whether its expression is refused.
  simp only [Registry.buildText, build, same.localeData, same.refusal?]

/-- Registries that were set up alike build the same matchers for zones. -/
theorem buildZones (same : registry.SetUpAs source) (locale : Locale) :
    registry.buildZones locale = source.buildZones locale := by
  -- The regions count besides, since they decide which names are known.
  simp only [Registry.buildZones, build, same.localeData, same.regions, same.refusal?]

end SetUpAs

/-- Every matcher that is kept is the one that is built for its key. -/
structure Faithful (registry : Registry) : Prop where
  /-- The matchers for fields are built from the locale data. -/
  textMatchers : registry.textMatchers.All fun key matcher =>
    registry.buildText key.1 key.2 = .ok matcher
  /-- The matchers for zones are built from the locale data and the regions. -/
  zoneMatchers : registry.zoneMatchers.All fun locale matcher =>
    registry.buildZones locale = .ok matcher

/-- What a registry was set up with is the same later on, and it has stayed true to it. -/
structure Extends (before after : Registry) : Prop extends after.SetUpAs before where
  /-- The time is the same. -/
  now : after.now = before.now
  /-- Matchers stay those that are built. -/
  faithful : before.Faithful → after.Faithful

namespace Extends

/-- Nothing changes in no time. -/
theorem refl (registry : Registry) : registry.Extends registry :=
  ⟨.refl registry, rfl, fun faithful => faithful⟩

/-- Two stretches of time in a row are one. -/
theorem trans {first second third : Registry} (early : first.Extends second)
    (late : second.Extends third) : first.Extends third :=
  ⟨late.toSetUpAs.trans early.toSetUpAs, late.now.trans early.now,
    fun faithful => late.faithful (early.faithful faithful)⟩

end Extends

/-- A registry without matchers has no matcher that is not the one that is built. -/
theorem faithful_new {registry : Registry} (noText : registry.textMatchers = .empty)
    (noZones : registry.zoneMatchers = .empty) : registry.Faithful := by
  -- There is no matcher to be wrong.
  refine ⟨?_, ?_⟩
  · rw [noText]
    exact OnceMap.all_empty _
  · rw [noZones]
    exact OnceMap.all_empty _

/-- A matcher is built for a field from the display names of the locale, if it is built. -/
theorem eq_of_buildText {registry : Registry} {field : Field} {locale : Locale}
    {matcher : TextMatcher} (built : registry.buildText field locale = .ok matcher) :
    matcher = .ofNames field ((registry.localeData.symbols locale).displayNames field) := by
  -- A refusal is the only other outcome.
  simp only [buildText, build] at built
  split at built <;> cases built
  rfl

/-- A matcher is built for zones from the table of the locale and the regions, if it is built. -/
theorem eq_of_buildZones {registry : Registry} {locale : Locale} {matcher : ZoneMatcher}
    (built : registry.buildZones locale = .ok matcher) :
    matcher = .ofTable registry.regions (registry.localeData.zoneNames locale) := by
  -- As for a field, a refusal is the only other outcome.
  simp only [buildZones, build] at built
  split at built <;> cases built
  rfl

/-- A computation that concludes with an answer succeeds if the answer is a value. -/
theorem conclude_eq_ok {α : Type} {answer : Except PatternError α} {registry after : Registry}
    {value : α} : conclude answer registry = .ok value after ↔
      answer = .ok value ∧ after = registry := by
  -- A value is concluded by success and an error by failure.
  cases answer <;> simp [conclude, eq_comm]

/-- The answer of a computation that concludes with it. -/
theorem answer_of_conclude {α : Type} {compute : Compiling α} {given : Except PatternError α}
    {before after : Registry} (ended : compute before = conclude given after) :
    answer compute before = given := by
  -- The computation ends in the way in which it is concluded.
  cases given with
  | ok value => exact (ended_ok ended).1
  | error reason => exact (ended_error ended).1

/-- The registry that a computation leaves which concludes with some answer. -/
theorem final_of_conclude {α : Type} {compute : Compiling α} {given : Except PatternError α}
    {before after : Registry} (ended : compute before = conclude given after) :
    final compute before = after := by
  -- Either way the registry is the one that is given.
  cases given with
  | ok value => exact (ended_ok ended).2
  | error reason => exact (ended_error ended).2

/-- A request for the matcher of a field ends with what the kept matchers answer, and keeps them. -/
theorem textMatcher_eq (registry : Registry) (field : Field) (locale : Locale) :
    textMatcher field locale registry =
      conclude (registry.textMatchers.getOrTry (field, locale) fun _ =>
          registry.buildText field locale).1
        { registry with
          textMatchers := (registry.textMatchers.getOrTry (field, locale) fun _ =>
            registry.buildText field locale).2 } := rfl

/-- A request for the matcher of zones ends with what the kept matchers answer, and keeps them. -/
theorem zoneMatcher_eq (registry : Registry) (locale : Locale) :
    zoneMatcher locale registry =
      conclude (registry.zoneMatchers.getOrTry locale fun _ => registry.buildZones locale).1
        { registry with
          zoneMatchers := (registry.zoneMatchers.getOrTry locale fun _ =>
            registry.buildZones locale).2 } := rfl

/-- A registry stays faithful with other matchers for fields that are built. -/
theorem Faithful.withText {registry : Registry} (faithful : registry.Faithful)
    {made : OnceMap (Field × Locale) TextMatcher}
    (right : made.All fun key matcher => registry.buildText key.1 key.2 = .ok matcher) :
    Faithful { registry with textMatchers := made } :=
  -- The other matchers are as they were.
  ⟨right, faithful.zoneMatchers⟩

/-- A registry stays faithful with other matchers for zones that are built. -/
theorem Faithful.withZones {registry : Registry} (faithful : registry.Faithful)
    {made : OnceMap Locale ZoneMatcher}
    (right : made.All fun locale matcher => registry.buildZones locale = .ok matcher) :
    Faithful { registry with zoneMatchers := made } := ⟨faithful.textMatchers, right⟩

/-- Of a faithful registry the matcher of a field is the one that is built, or there is none. -/
theorem Faithful.textMatcher {registry : Registry} (faithful : registry.Faithful) (field : Field)
    (locale : Locale) :
    ∃ made, Registry.textMatcher field locale registry =
        conclude (registry.buildText field locale) { registry with textMatchers := made } ∧
      Faithful { registry with textMatchers := made } := by
  -- What is built does not depend on what is kept, so the kept matchers follow one rule throughout.
  obtain ⟨answered, right⟩ := faithful.textMatchers.getOrTry (field, locale)
  have looked := textMatcher_eq registry field locale
  rw [answered] at looked
  exact ⟨_, looked, faithful.withText right⟩

/-- Of a faithful registry the matcher of zones is the one that is built, or there is none. -/
theorem Faithful.zoneMatcher {registry : Registry} (faithful : registry.Faithful)
    (locale : Locale) :
    ∃ made, Registry.zoneMatcher locale registry =
        conclude (registry.buildZones locale) { registry with zoneMatchers := made } ∧
      Faithful { registry with zoneMatchers := made } := by
  -- As for a field, the kept matchers follow one rule.
  obtain ⟨answered, right⟩ := faithful.zoneMatchers.getOrTry locale
  have looked := zoneMatcher_eq registry locale
  rw [answered] at looked
  exact ⟨_, looked, faithful.withZones right⟩

/-- Asking for the name of a zone keeps what the registry was set up with. -/
theorem extends_zoneName (registry : Registry) (key : ZoneNameKey) :
    registry.Extends (registry.zoneName key).2 :=
  -- Only the names of zones have changed.
  ⟨⟨rfl, rfl, rfl, rfl⟩, rfl, fun faithful => ⟨faithful.textMatchers, faithful.zoneMatchers⟩⟩

/-- A registry for which every expression can be built. -/
def Accepts (registry : Registry) : Prop := ∀ alternatives, registry.refusal? alternatives = none

/-- A registry that was set up as one for which every expression can be built is such a registry. -/
theorem Accepts.setUpAs {registry source : Registry} (accepts : source.Accepts)
    (same : registry.SetUpAs source) : registry.Accepts := by
  -- Whether an expression is refused belongs to what a registry is set up with.
  intro alternatives
  rw [same.refusal?]
  exact accepts alternatives

/-- Where every expression can be built there is a matcher for each field. -/
theorem Accepts.buildText {registry : Registry} (accepts : registry.Accepts) (field : Field)
    (locale : Locale) : ∃ matcher, registry.buildText field locale = .ok matcher := by
  -- The one way to fail is a refusal of the expression.
  simp only [Registry.buildText, build, accepts (Alternatives.mk _ _)]
  exact ⟨_, rfl⟩

/-- Where every expression can be built there is a matcher for zones. -/
theorem Accepts.buildZones {registry : Registry} (accepts : registry.Accepts) (locale : Locale) :
    ∃ matcher, registry.buildZones locale = .ok matcher := by
  -- As for a field, only a refusal could fail it.
  simp only [Registry.buildZones, build, accepts (Alternatives.mk _ _)]
  exact ⟨_, rfl⟩

end Registry

namespace Compiling

variable {α β : Type}

/-- A computation that keeps what the registry was set up with whenever it succeeds. -/
def Keeps (compute : Compiling α) : Prop :=
  ∀ before result after, compute before = .ok result after → before.Extends after

/-- A computation that succeeds on every registry of some kind. -/
def Succeeds (kind : Registry → Prop) (compute : Compiling α) : Prop :=
  ∀ before, kind before → ∃ result after, compute before = .ok result after

/-- A result that is there already keeps everything. -/
theorem keeps_pure (value : α) : Keeps (pure value) := by
  -- The registry is the same afterwards.
  intro before result after made
  rw [(pure_eq_ok.mp made).2]
  exact .refl before

/-- A computation that throws never succeeds. -/
theorem keeps_throw (reason : PatternError) : Keeps (throw reason : Compiling α) := by
  -- There is nothing to keep, since no result is given.
  intro before result after made
  cases made

/-- A change that keeps everything, and its result. -/
theorem keeps_modifyGet {change : Registry → α × Registry}
    (kept : ∀ registry, Registry.Extends registry (change registry).2) :
    Keeps (modifyGet change) := by
  -- The registry afterwards is the changed one.
  intro before result after made
  cases made
  exact kept before

/-- Asking for the matcher of a field keeps what the registry was set up with. -/
theorem keeps_textMatcher (field : Field) (locale : Locale) :
    Keeps (Registry.textMatcher field locale) := by
  intro before result after made
  rw [Registry.textMatcher_eq, Registry.conclude_eq_ok] at made
  obtain ⟨-, rfl⟩ := made
  -- Only the matchers for fields have changed, and those that are kept are built.
  exact ⟨⟨rfl, rfl, rfl, rfl⟩, rfl, fun faithful =>
    faithful.withText (faithful.textMatchers.getOrTry (field, locale)).2⟩

/-- Asking for the matcher of zones keeps what the registry was set up with. -/
theorem keeps_zoneMatcher (locale : Locale) : Keeps (Registry.zoneMatcher locale) := by
  intro before result after made
  rw [Registry.zoneMatcher_eq, Registry.conclude_eq_ok] at made
  obtain ⟨-, rfl⟩ := made
  -- Only the matchers for zones have changed.
  exact ⟨⟨rfl, rfl, rfl, rfl⟩, rfl, fun faithful =>
    faithful.withZones (faithful.zoneMatchers.getOrTry locale).2⟩

/-- Two computations in a row keep what both of them keep. -/
theorem Keeps.bind {first : Compiling α} {next : α → Compiling β} (early : Keeps first)
    (late : ∀ value, Keeps (next value)) : Keeps (first >>= next) := by
  -- The registry between them extends the first one and is extended by the last one.
  intro before result after made
  obtain ⟨value, middle, begun, ended⟩ := bind_eq_ok.mp made
  exact (early _ _ _ begun).trans (late _ _ _ _ ended)

/-- Applying a function to the result keeps what the computation keeps. -/
theorem Keeps.map {compute : Compiling α} (kept : Keeps compute) (f : α → β) :
    Keeps (f <$> compute) := by
  -- What is applied is a second computation that keeps everything.
  rw [map_eq_pure_bind]
  exact kept.bind fun value => keeps_pure (f value)

/-- One result for each item, made in some registry that extends the one at the beginning. -/
theorem mapM_ok {step : α → Compiling β} (keeps : ∀ item, Keeps (step item)) {items : List α}
    {before after : Registry} {results : List β}
    (made : items.mapM step before = .ok results after) :
    before.Extends after ∧
      List.Forall₂ (fun item result => ∃ early late, before.Extends early ∧
        step item early = .ok result late) items results := by
  -- The induction is on the items, over all registries in which the others may begin.
  induction items generalizing before results with
  | nil =>
    rw [List.mapM_nil] at made
    obtain ⟨rfl, rfl⟩ := pure_eq_ok.mp made
    exact ⟨.refl _, .nil⟩
  | cons item items ih =>
    rw [List.mapM_cons] at made
    obtain ⟨result, middle, first, rest⟩ := bind_eq_ok.mp made
    obtain ⟨others, late, later, done⟩ := bind_eq_ok.mp rest
    obtain ⟨rfl, rfl⟩ := pure_eq_ok.mp done
    -- The first item is made in the registry of the beginning, and the others in what it leaves.
    have early := keeps item _ _ _ first
    obtain ⟨kept, tail⟩ := ih later
    refine ⟨early.trans kept, .cons ⟨before, middle, .refl before, first⟩ (tail.imp ?_)⟩
    -- What extends the registry after the first item extends the one before it as well.
    rintro other made ⟨begin, finish, extended, here⟩
    exact ⟨begin, finish, early.trans extended, here⟩

/-- Every item has a result if each of them has one in all registries of a kind that is kept. -/
theorem succeeds_mapM {kind : Registry → Prop}
    (stable : ∀ before after, before.Extends after → kind before → kind after)
    {step : α → Compiling β} (keeps : ∀ item, Keeps (step item)) {items : List α}
    (each : ∀ item ∈ items, Succeeds kind (step item)) : Succeeds kind (items.mapM step) := by
  intro before own
  -- Each item finds the registry as the ones before it have left it, so it stays general.
  induction items generalizing before with
  | nil => exact ⟨[], before, rfl⟩
  | cons item items ih =>
    obtain ⟨result, middle, first⟩ := each item List.mem_cons_self before own
    obtain ⟨results, after, rest⟩ :=
      ih (fun other listed => each other (List.mem_cons_of_mem _ listed)) middle
        (stable _ _ (keeps item _ _ _ first) own)
    refine ⟨result :: results, after, ?_⟩
    rw [List.mapM_cons]
    exact bind_eq_ok.mpr ⟨result, middle, first, bind_eq_ok.mpr ⟨results, after, rest, rfl⟩⟩

end Compiling

/-- Making a write rule keeps what the registry was set up with. -/
theorem WriteRule.keeps_ofToken (zone : Zone) (locale : Locale) (symbols : Symbols)
    (token : Token) : Compiling.Keeps (ofToken zone locale symbols token) := by
  -- Only a name of a zone changes the registry at all.
  cases token with
  | literal verbatim => exact Compiling.keeps_pure _
  | letters letter width =>
    simp only [ofToken, ofLetter]
    -- Names of zones are looked up, and everything else is there or is an error.
    split
    all_goals first
      | exact Compiling.keeps_pure _
      | exact Compiling.keeps_throw _
      | (split <;> first | exact Compiling.keeps_pure _ | exact Compiling.keeps_throw _)
      | exact (Compiling.keeps_modifyGet fun registry => registry.extends_zoneName _).bind
          fun standard => (Compiling.keeps_modifyGet fun registry =>
            registry.extends_zoneName _).bind fun daylight => Compiling.keeps_pure _

/-- Making a read step keeps what the registry was set up with. -/
theorem ReadStep.keeps_ofToken (locale : Locale) (token : Token) :
    Compiling.Keeps (ofToken locale token) := by
  -- Matchers are all that a rule asks of the registry, which keeps them beside the rest.
  have named : ∀ field, Compiling.Keeps (ReadRule.named locale field) := fun field =>
    (Compiling.keeps_textMatcher field locale).map _
  have zoned : Compiling.Keeps (ReadRule.zoneRule locale) :=
    (Compiling.keeps_zoneMatcher locale).map _
  cases token with
  | literal verbatim => exact Compiling.keeps_pure _
  | letters letter width =>
    -- The rule is made first, and the step around it asks for nothing more.
    refine Compiling.Keeps.bind ?_ fun rule => Compiling.keeps_pure _
    simp only [ReadRule.ofLetter]
    split
    all_goals first
      | exact Compiling.keeps_pure _
      | exact Compiling.keeps_throw _
      | exact named _
      | exact zoned
      | (split <;> first
          | exact Compiling.keeps_pure _
          | exact Compiling.keeps_throw _
          | exact named _
          | exact zoned)

end DatePattern
