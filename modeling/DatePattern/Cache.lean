import DatePattern.Format

/-! Format caches: one format for each pattern, zone and locale that was asked for. -/

namespace DatePattern

/-- What a format depends on. -/
structure FormatKey where
  /-- The pattern. -/
  pattern : String
  /-- The zone. -/
  zone : Zone
  /-- The locale. -/
  locale : Locale
deriving DecidableEq, Repr

/-- What a customary pattern depends on. -/
structure StyleKey where
  /-- The style of the date, if there is one. -/
  date : Option Style
  /-- The style of the time, if there is one. -/
  time : Option Style
  /-- The locale. -/
  locale : Locale
deriving DecidableEq, Repr

/-- The formats and customary patterns asked for so far. -/
structure FormatCache where
  /-- The registry from which formats are made. -/
  registry : Registry
  /-- The formats, in the order of their first request. -/
  formats : OnceMap FormatKey Format := .empty
  /-- The customary patterns. -/
  styles : OnceMap StyleKey String := .empty

/-- A request to a cache, which a bad pattern ends. -/
abbrev Caching := EStateM PatternError FormatCache

/-- What a format was asked for by. -/
def Format.key (format : Format) : FormatKey := ⟨format.pattern, format.zone, format.locale⟩

namespace FormatCache

/-- A computation on the registry of the cache. -/
def onRegistry {α : Type} (compute : Compiling α) : Caching α := fun cache =>
  match compute cache.registry with
  | .ok result registry => .ok result { cache with registry := registry }
  | .error reason registry => .error reason { cache with registry := registry }

/-- The format of a pattern, with the defaults of the registry where no zone or locale is given. -/
def format (pattern : String) (zone : Option Zone) (locale : Option Locale) : Caching Format := do
  let cache ← get
  let defaults := cache.registry.defaults
  let key : FormatKey := ⟨pattern, zone.getD defaults.zone, locale.getD defaults.locale⟩
  match cache.formats.get? key with
  | some format => return format
  | none =>
    let made ← onRegistry (Format.compile key.pattern key.zone key.locale none)
    modifyGet fun cache =>
      let (kept, formats) := cache.formats.insert key made
      (kept, { cache with formats := formats })

/-- The customary pattern of a locale for a date style, a time style, or both. -/
def stylePattern (date time : Option Style) (locale : Locale) : Caching String := fun cache =>
  let (found, styles) := cache.styles.getOrTry ⟨date, time, locale⟩ fun _ =>
    match (cache.registry.localeData.styles? locale).bind (·.pattern? date time) with
    | some pattern => .ok pattern
    | none => .error (PatternError.noStylePattern locale.render)
  match found with
  | .ok pattern => .ok pattern { cache with styles := styles }
  | .error reason => .error reason { cache with styles := styles }

/-- The format of the customary pattern of a locale. -/
def styleFormat (date time : Option Style) (zone : Option Zone) (locale : Option Locale) :
    Caching Format := do
  let locale := locale.getD (← get).registry.defaults.locale
  let pattern ← stylePattern date time locale
  format pattern zone (some locale)

/-- The count of formats. -/
def size (cache : FormatCache) : Nat := cache.formats.size

end FormatCache

end DatePattern
