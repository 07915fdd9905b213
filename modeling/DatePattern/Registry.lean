import DatePattern.Locale.Builtin
import DatePattern.Locale.Style
import DatePattern.Names.TextMatcher
import DatePattern.Names.ZoneMatcher
import DatePattern.OnceMap
import DatePattern.Pattern.Error

/-! Registries: defaults, locale data and a clock, with the matchers and names made from them. -/

namespace DatePattern

/-- What a registry assumes where nothing is asked for. -/
structure Defaults where
  /-- The zone. -/
  zone : Zone
  /-- The locale. -/
  locale : Locale
  /-- The years before now at which the window of two-digit years begins. -/
  lookback : Int
deriving DecidableEq, Repr

/-- The window of two-digit years begins eighty years before now as a rule. -/
def Defaults.usualLookback : Int := 80

/-- A source of locale data. -/
structure LocaleData where
  /-- The symbols of a locale. -/
  symbols : Locale → Symbols
  /-- The customary patterns of a locale, where there are any. -/
  styles? : Locale → Option StylePatterns
  /-- The display names of zones in a locale, preferred ones first. -/
  zoneNames : Locale → List ZoneNames

/-- The locales known by themselves, with English names of zones. -/
def LocaleData.builtin : LocaleData where
  symbols := Symbols.ofLocale
  styles? := StylePatterns.ofLocale?
  zoneNames := fun _ => ZoneNames.english

/-- What a zone display name depends on. -/
structure ZoneNameKey where
  /-- The zone. -/
  zone : Zone
  /-- Whether daylight saving time is named. -/
  daylight : Bool
  /-- Whether the name is a long one. -/
  long : Bool
  /-- The language. -/
  locale : Locale
deriving DecidableEq, Repr

/-- What the expression of a matcher lets a text begin with: names, and numeric offsets before those of zones. -/
structure Alternatives where
  /-- Whether numeric offsets come first. -/
  numeric : Bool
  /-- The names in lower case, in the order in which they are tried. -/
  names : List (List Char)
deriving DecidableEq, Repr

/-- Defaults, locale data and the time, with what was made from them so far. -/
structure Registry where
  /-- The defaults. -/
  defaults : Defaults
  /-- The source of locale data. -/
  localeData : LocaleData
  /-- The regions that identifiers can name. -/
  regions : List Region
  /-- The time now, in milliseconds since the epoch. -/
  now : Int
  /-- Why no expression can be built for some alternatives, where none can. -/
  refusal? : Alternatives → Option String := fun _ => none
  /-- The matchers made for a field in a locale. -/
  textMatchers : OnceMap (Field × Locale) TextMatcher := .empty
  /-- The matchers made for zones in a locale. -/
  zoneMatchers : OnceMap Locale ZoneMatcher := .empty
  /-- The display names of zones found. -/
  zoneNames : OnceMap ZoneNameKey String := .empty

/-- A computation on a registry that a bad pattern ends; what was made by then is kept. -/
abbrev Compiling := EStateM PatternError Registry

namespace Registry

/-- A matcher, unless no expression can be built for its alternatives. -/
def build {α : Type} (registry : Registry) (what : String) (alternatives : Alternatives)
    (matcher : α) : Except PatternError α :=
  match registry.refusal? alternatives with
  | none => .ok matcher
  | some message => .error (.matcher what message)

/-- A new matcher for the names of a field in a locale. -/
def buildText (registry : Registry) (field : Field) (locale : Locale) :
    Except PatternError TextMatcher :=
  let matcher := TextMatcher.ofNames field
    ((registry.localeData.symbols locale).displayNames field)
  registry.build (field.name ++ " in " ++ locale.render) ⟨false, matcher.names.names⟩ matcher

/-- A new matcher for zones in a locale. -/
def buildZones (registry : Registry) (locale : Locale) : Except PatternError ZoneMatcher :=
  let matcher := ZoneMatcher.ofTable registry.regions (registry.localeData.zoneNames locale)
  registry.build ("zone names in " ++ locale.render) ⟨true, matcher.names.names⟩ matcher

/-- The end of a computation with some answer, which leaves a registry. -/
def conclude {α : Type} (answer : Except PatternError α) (registry : Registry) :
    EStateM.Result PatternError Registry α :=
  match answer with
  | .ok value => .ok value registry
  | .error reason => .error reason registry

/-- The matcher for the names of a field in a locale, kept from the first request that can be met. -/
def textMatcher (field : Field) (locale : Locale) : Compiling TextMatcher := fun registry =>
  let (built, made) := registry.textMatchers.getOrTry (field, locale) fun _ =>
    registry.buildText field locale
  conclude built { registry with textMatchers := made }

/-- The matcher for zones in a locale, kept from the first request that can be met. -/
def zoneMatcher (locale : Locale) : Compiling ZoneMatcher := fun registry =>
  let (built, made) := registry.zoneMatchers.getOrTry locale fun _ => registry.buildZones locale
  conclude built { registry with zoneMatchers := made }

/-- The display name of a zone, which stays as it was found at the first request. -/
def zoneName (registry : Registry) (key : ZoneNameKey) : String × Registry :=
  let (name, found) := registry.zoneNames.getOrCompute key fun _ =>
    key.zone.displayName key.daylight key.long (registry.localeData.zoneNames key.locale)
      registry.now
  (name, { registry with zoneNames := found })

end Registry

end DatePattern
