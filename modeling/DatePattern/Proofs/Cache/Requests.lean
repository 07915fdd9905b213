import DatePattern.Proofs.Cache
import DatePattern.Proofs.Registry.MadeFrom

/-!
Requests to a format cache, and what the cache is after each of them.

A request first finds its key: the pattern, which may be the customary one of a locale, with the defaults filled in. Then
it asks for the format of that key. All that is proved of runs of requests rests on these two steps.
-/

namespace DatePattern

/-- A request to a format cache. -/
inductive Request where
  /-- The format of a pattern. -/
  | pattern (text : String) (zone : Option Zone) (locale : Option Locale)
  /-- The format of the customary pattern for a date style, a time style, or both. -/
  | styles (date time : Option Style) (zone : Option Zone) (locale : Option Locale)

namespace Request

/-- A request for the customary pattern of dates. -/
def date (style : Style) : Option Zone → Option Locale → Request := styles (some style) none

/-- A request for the customary pattern of times. -/
def time (style : Style) : Option Zone → Option Locale → Request := styles none (some style)

/-- What a cache does on a request. -/
def perform : Request → Caching Format
  | .pattern text zone locale => FormatCache.format text zone locale
  | .styles date time zone locale => FormatCache.styleFormat date time zone locale

end Request

/-- The customary pattern of a locale, as the locale data of a registry have it. -/
def Registry.stylePattern? (source : Registry) (key : StyleKey) : Option String :=
  (source.localeData.styles? key.locale).bind (·.pattern? key.date key.time)

/-- The key of a request, with the defaults where no zone or locale is given. -/
def Request.key (source : Registry) : Request → Except PatternError FormatKey
  | .pattern text zone locale =>
    .ok ⟨text, zone.getD source.defaults.zone, locale.getD source.defaults.locale⟩
  | .styles date time zone locale =>
    match source.stylePattern? ⟨date, time, locale.getD source.defaults.locale⟩ with
    | some text =>
      .ok ⟨text, zone.getD source.defaults.zone, locale.getD source.defaults.locale⟩
    | none => .error (.noStylePattern (locale.getD source.defaults.locale).render)

namespace FormatCache

/-- A cache whose registry was set up as another one, and whose customary patterns are those of its locale data. -/
structure Rooted (cache : FormatCache) (source : Registry) : Prop where
  /-- The registry was set up alike. -/
  registry : cache.registry.SetUpAs source
  /-- The patterns are those of the locale data. -/
  styles : cache.styles.All fun key pattern => source.stylePattern? key = some pattern

/-- A customary pattern is the one of the locale data, whether it was kept or is new. -/
theorem stylePattern_cases {cache : FormatCache} {source : Registry} (rooted : cache.Rooted source)
    (date time : Option Style) (locale : Locale) :
    (∃ pattern styles, source.stylePattern? ⟨date, time, locale⟩ = some pattern ∧
      styles.All (fun key pattern => source.stylePattern? key = some pattern) ∧
      stylePattern date time locale cache = .ok pattern { cache with styles }) ∨
      (source.stylePattern? ⟨date, time, locale⟩ = none ∧
        stylePattern date time locale cache =
          .error (.noStylePattern locale.render) cache) := by
  -- A customary pattern that is kept was looked up in the locale data before.
  simp only [stylePattern, OnceMap.getOrTry]
  cases kept : cache.styles.get? ⟨date, time, locale⟩ with
  | some pattern => exact .inl ⟨pattern, cache.styles, rooted.styles _ _ kept, rooted.styles, rfl⟩
  | none =>
    -- The pattern is looked up in the locale data of the cache, which are those of the source.
    have looked : (cache.registry.localeData.styles? locale).bind (·.pattern? date time) =
        source.stylePattern? ⟨date, time, locale⟩ := by
      rw [rooted.registry.localeData, Registry.stylePattern?]
    rw [looked]
    cases known : source.stylePattern? ⟨date, time, locale⟩ with
    | none => exact .inr ⟨rfl, rfl⟩
    | some pattern =>
      refine .inl ⟨pattern, _, rfl, rooted.styles.insert known, ?_⟩
      simp only [OnceMap.insert_of_missing kept]

end FormatCache

namespace Request

/-- What a request can come to, with what it leaves of the cache. -/
inductive Outcome (source : Registry) (request : Request) (cache : FormatCache) :
    EStateM.Result PatternError FormatCache Format → Prop where
  /-- The request has no key, and changes nothing. -/
  | keyless {reason : PatternError} (unknown : request.key source = .error reason) :
      Outcome source request cache (.error reason cache)
  /-- The format of the key was there. -/
  | kept {key : FormatKey} {format : Format} {styles : OnceMap StyleKey String}
      (known : request.key source = .ok key) (rooted : { cache with styles }.Rooted source)
      (present : cache.formats.get? key = some format) :
      Outcome source request cache (.ok format { cache with styles })
  /-- The format of the key was compiled, and is there from now on. -/
  | made {key : FormatKey} {format : Format} {styles : OnceMap StyleKey String}
      {registry : Registry} (known : request.key source = .ok key)
      (rooted : { cache with styles }.Rooted source) (missing : cache.formats.get? key = none)
      (compiled : key.compile cache.registry = .ok format registry) :
      Outcome source request cache
        (.ok format ⟨registry, (cache.formats.insert key format).2, styles⟩)
  /-- The format of the key does not compile, and the registry may have something new. -/
  | failed {key : FormatKey} {reason : PatternError} {styles : OnceMap StyleKey String}
      {registry : Registry} (known : request.key source = .ok key)
      (rooted : { cache with styles }.Rooted source) (missing : cache.formats.get? key = none)
      (compiled : key.compile cache.registry = .error reason registry) :
      Outcome source request cache (.error reason { cache with registry, styles })

/-- Asking a cache for the format of a key, after a customary pattern may have been kept, has one of the outcomes. -/
theorem outcome_format {cache : FormatCache} {source : Registry} {request : Request}
    {styles : OnceMap StyleKey String} (rooted : { cache with styles }.Rooted source)
    {text : String} {zone : Option Zone} {locale : Option Locale}
    (known : request.key source = .ok (cache.keyOf text zone locale)) :
    request.Outcome source cache (FormatCache.format text zone locale { cache with styles }) := by
  -- Asking for the pattern of the key is all that is left of the request.
  cases present : cache.formats.get? (cache.keyOf text zone locale) with
  | some format =>
    have given : FormatCache.format text zone locale { cache with styles } = .ok format _ :=
      FormatCache.format_of_kept present
    rw [given]
    exact .kept known rooted present
  | none =>
    have asked : FormatCache.format text zone locale { cache with styles } = _ :=
      FormatCache.format_of_missing present
    rw [asked]
    -- The registry and the key are the same as before the customary pattern was kept.
    have same : ({ cache with styles } : FormatCache).keyOf text zone locale =
      cache.keyOf text zone locale := rfl
    cases compiled : (cache.keyOf text zone locale).compile cache.registry with
    | ok format registry =>
      simp only [same, compiled]
      exact .made known rooted present compiled
    | error reason registry =>
      simp only [same, compiled]
      exact .failed known rooted present compiled

/-- Every request has one of the outcomes. -/
theorem outcome {cache : FormatCache} {source : Registry} (rooted : cache.Rooted source)
    (request : Request) : request.Outcome source cache (request.perform cache) := by
  -- The key of a request is found with the same defaults in the cache and in its source.
  have defaults : cache.registry.defaults = source.defaults := rooted.registry.defaults
  cases request with
  | pattern text zone locale =>
    refine outcome_format rooted ?_
    rw [FormatCache.keyOf, defaults]
    rfl
  | styles date time zone locale =>
    -- The locale is found first, then its pattern, and then the format in that locale.
    have joined : Request.perform (.styles date time zone locale) cache =
        EStateM.bind (FormatCache.stylePattern date time (locale.getD source.defaults.locale))
          (fun pattern => FormatCache.format pattern zone
            (some (locale.getD source.defaults.locale))) cache := by
      rw [← defaults]
      unfold perform FormatCache.styleFormat
      rfl
    rw [joined, EStateM.bind]
    rcases FormatCache.stylePattern_cases rooted date time (locale.getD source.defaults.locale) with
      ⟨pattern, styles, known, right, found⟩ | ⟨unknown, missing⟩
    · rw [found]
      have styled : ({ cache with styles } : FormatCache).Rooted source := ⟨rooted.registry, right⟩
      refine outcome_format styled ?_
      rw [FormatCache.keyOf, defaults]
      simp only [key, known]
      rfl
    · rw [missing]
      refine .keyless ?_
      simp only [key, unknown]

end Request

end DatePattern
