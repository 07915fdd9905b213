import DatePattern.Text.CodePoints

/-! Locales: a language, a country and a variant, read from and written as tags. -/

namespace DatePattern

/-- A language with an optional country and an optional variant. -/
structure Locale where
  /-- The language, in small letters. -/
  language : String
  /-- The country, in capitals. -/
  country : String
  /-- The variant, as given. -/
  variant : String
deriving DecidableEq, Repr

namespace Locale

/-- The locale of three parts, where the case of ASCII letters in the first two is settled. -/
def ofParts (language country variant : List Char) : Locale where
  language := String.ofList (language.map Text.lowerAscii)
  country := String.ofList (country.map Text.upperAscii)
  variant := String.ofList variant

/-- A character between the parts of a tag. -/
def isSeparator (c : Char) : Bool := c == '_' || c == '-'

/-- The first part of a tag and what follows its separator. -/
def splitPart (tag : List Char) : List Char × List Char :=
  (tag.takeWhile (!isSeparator ·), (tag.dropWhile (!isSeparator ·)).drop 1)

/-- The locale of a tag such as en_US, of which parts after the third are ignored. -/
def ofTag (tag : String) : Locale :=
  let (language, rest) := splitPart tag.toList
  let (country, rest) := splitPart rest
  ofParts language country (splitPart rest).1

/-- American English. -/
def americanEnglish : Locale := ⟨"en", "US", ""⟩

/-- Whether a locale counts years by the eras of the Japanese emperors. -/
def isImperial (locale : Locale) : Bool :=
  locale.language == "ja" && locale.country == "JP" && locale.variant == "JP"

/-- The tag of a locale, in which an empty country stays visible before a variant. -/
def render (locale : Locale) : String :=
  locale.language ++
    (if locale.country = "" ∧ locale.variant = "" then "" else "_" ++ locale.country) ++
    (if locale.variant = "" then "" else "_" ++ locale.variant)

end Locale

end DatePattern
