import DatePattern.Locale.Basic
import DatePattern.Proofs.Text.CharClasses
import Mathlib.Data.List.TakeWhile

/-!
Tags of locales: a locale is told by its tag, as long as no separator stands inside one of its three parts.

Every locale that was read from a tag is of that kind, whatever the tag was.
-/

namespace DatePattern.Locale

/-- A text that no separator divides. -/
def Undivided (text : List Char) : Prop := ∀ c ∈ text, isSeparator c = false

/-- A locale with no separator in any of its parts. -/
structure Plain (locale : Locale) : Prop where
  /-- The language is one part of a tag. -/
  language : Undivided locale.language.toList
  /-- The country is one part of a tag. -/
  country : Undivided locale.country.toList
  /-- The variant is one part of a tag. -/
  variant : Undivided locale.variant.toList

/-- The locales there are: they are made of a language, a country and a variant, each of which may be any text. -/
inductive Built : Locale → Prop where
  /-- The letters of the language and of the country are brought into their cases. -/
  | parts (language country variant : List Char) : Built (ofParts language country variant)

/-- A small letter divides a text if its capital does. -/
theorem isSeparator_lowerAscii (c : Char) : isSeparator (Text.lowerAscii c) = isSeparator c := by
  -- Only the 26 capitals change, and each of them is looked at.
  have each : ∀ code ∈ List.range' 65 26,
      isSeparator (Text.lowerAscii (Char.ofNat code)) = isSeparator (Char.ofNat code) := by decide
  rcases Text.lowerAscii_eq_or_capital c with same | ⟨code, listed, rfl⟩
  · rw [same]
  · exact each code listed

/-- A capital divides a text if its small letter does. -/
theorem isSeparator_upperAscii (c : Char) : isSeparator (Text.upperAscii c) = isSeparator c := by
  -- Only the 26 small letters change, and each of them is looked at.
  have each : ∀ code ∈ List.range' 97 26,
      isSeparator (Text.upperAscii (Char.ofNat code)) = isSeparator (Char.ofNat code) := by decide
  rcases Text.upperAscii_eq_or_small c with same | ⟨code, listed, rfl⟩
  · rw [same]
  · exact each code listed

/-- A locale is plain if it is made of undivided texts. -/
theorem plain_ofParts_iff {language country variant : List Char} :
    (ofParts language country variant).Plain ↔
      Undivided language ∧ Undivided country ∧ Undivided variant := by
  -- A change of case neither brings in a separator nor takes one away.
  have lower : Undivided (language.map Text.lowerAscii) ↔ Undivided language := by
    simp only [Undivided, List.forall_mem_map, isSeparator_lowerAscii]
  have upper : Undivided (country.map Text.upperAscii) ↔ Undivided country := by
    simp only [Undivided, List.forall_mem_map, isSeparator_upperAscii]
  constructor
  · rintro ⟨first, second, third⟩
    simp only [ofParts, String.toList_ofList] at first second third
    exact ⟨lower.mp first, upper.mp second, third⟩
  · rintro ⟨first, second, third⟩
    constructor <;> simp only [ofParts, String.toList_ofList]
    · exact lower.mpr first
    · exact upper.mpr second
    · exact third

/-- A locale is made of its own parts, whose letters are in their cases already. -/
theorem Built.ofParts_eq {locale : Locale} (built : locale.Built) :
    ofParts locale.language.toList locale.country.toList locale.variant.toList = locale := by
  -- Bringing letters into their case a second time changes nothing.
  obtain ⟨language, country, variant⟩ := built
  simp [ofParts, Function.comp_def, Text.lowerAscii_lowerAscii, Text.upperAscii_upperAscii]

/-- The first part of a tag ends before the first separator. -/
theorem undivided_splitPart (tag : List Char) : Undivided (splitPart tag).1 := by
  -- It is the longest beginning of the tag without one.
  intro c listed
  simpa using List.mem_takeWhile_imp listed

/-- An undivided text is the first part of a tag that ends there. -/
theorem splitPart_of_undivided {text : List Char} (undivided : Undivided text) :
    splitPart text = (text, []) := by
  have passed : ∀ c ∈ text, (!isSeparator c) = true := by simpa [Undivided] using undivided
  -- Every character is taken, so that nothing is left, not even a separator.
  rw [splitPart, List.takeWhile_eq_self_iff.mpr passed, List.dropWhile_eq_nil_iff.mpr passed]
  rfl

/-- An undivided text is the first part of a tag that goes on with a separator. -/
theorem splitPart_append {text : List Char} (undivided : Undivided text) (rest : List Char) :
    splitPart (text ++ '_' :: rest) = (text, rest) := by
  have passed : ∀ c ∈ text, (!isSeparator c) = true := by simpa [Undivided] using undivided
  -- The text is taken as a whole, and the separator behind it is dropped.
  have stopped : isSeparator '_' = true := by decide
  rw [splitPart, List.takeWhile_append_of_pos passed, List.dropWhile_append_of_pos passed]
  simp [stopped]

/-- The characters of a tag: an empty part is left out unless a part that is not empty follows it. -/
theorem toList_render (locale : Locale) :
    locale.render.toList = locale.language.toList ++
      (if locale.country.toList = [] ∧ locale.variant.toList = [] then []
        else '_' :: locale.country.toList) ++
      if locale.variant.toList = [] then [] else '_' :: locale.variant.toList := by
  -- A part is empty just if it has no characters.
  simp only [render, String.toList_append, String.toList_eq_nil_iff]
  split <;> split <;> simp

/-- The tag of a plain locale is divided into the parts of the locale. -/
theorem Plain.ofTag_render {locale : Locale} (plain : locale.Plain) :
    ofTag locale.render =
      ofParts locale.language.toList locale.country.toList locale.variant.toList := by
  -- Which parts are written depends on which are empty, and each one that is left out is read as empty.
  obtain ⟨language, country, variant⟩ := plain
  have nothing : splitPart [] = ([], []) := rfl
  rw [ofTag, toList_render]
  by_cases noVariant : locale.variant.toList = []
  · by_cases noCountry : locale.country.toList = []
    · -- The language stands alone.
      simp [noCountry, noVariant, splitPart_of_undivided language, nothing]
    · simp [noCountry, noVariant, splitPart_append language, splitPart_of_undivided country, nothing]
  · -- The country has its place before the variant even if it is empty.
    simp [noVariant, splitPart_append language, splitPart_append country,
      splitPart_of_undivided variant]

/-- A locale that is read from a tag is plain, since separators only stand between its parts. -/
theorem plain_ofTag (tag : String) : (ofTag tag).Plain :=
  -- Each part ends before a separator, and a change of case brings none in.
  plain_ofParts_iff.mpr
    ⟨undivided_splitPart _, undivided_splitPart _, undivided_splitPart _⟩

/-- The tag of a locale is read as that locale just if the locale is plain. -/
theorem Built.ofTag_render_iff {locale : Locale} (built : locale.Built) :
    ofTag locale.render = locale ↔ locale.Plain := by
  constructor
  · -- A locale that is read back is one that was read from a tag.
    intro same
    rw [← same]
    exact plain_ofTag _
  · -- A plain locale is divided into its own parts, which make it up again.
    intro plain
    rw [plain.ofTag_render, built.ofParts_eq]

/--
The tag of a locale is a key for it.

A locale is read back from its tag if and only if it is plain; so is every locale that any tag names, and two plain
locales with one tag are the same.
-/
theorem Built.tag_faithful {locale : Locale} (built : locale.Built) :
    (ofTag locale.render = locale ↔ locale.Plain) ∧
    (∀ tag, ofTag (ofTag tag).render = ofTag tag) ∧
    ∀ other : Locale, other.Built → locale.Plain → other.Plain →
      locale.render = other.render → locale = other := by
  refine ⟨built.ofTag_render_iff, fun tag => ?_, fun other built' plain plain' same => ?_⟩
  -- What a tag is read as is built from parts, and it is plain.
  · exact (Built.parts _ _ _).ofTag_render_iff.mpr (plain_ofTag tag)
  · -- Both locales are what their common tag is read as.
    rw [← built.ofTag_render_iff.mpr plain, same, built'.ofTag_render_iff.mpr plain']

/-- A variant without a country is read back behind two separators, where it is not taken for a country. -/
theorem Built.tag_faithful_noCountry :
    (ofParts ['J', 'A'] [] ['J', 'P']).Built ∧ (ofParts ['J', 'A'] [] ['J', 'P']).Plain ∧
      (ofParts ['j', 'a'] ['j', 'p'] []).Built ∧ (ofParts ['j', 'a'] ['j', 'p'] []).Plain ∧
      ofTag "ja__JP" = ofParts ['J', 'A'] [] ['J', 'P'] ∧
      (ofParts ['J', 'A'] [] ['J', 'P']).render ≠ (ofParts ['j', 'a'] ['j', 'p'] []).render := by
  -- Both locales are plain, so that the law about common tags tells them apart.
  have built : (ofParts ['J', 'A'] [] ['J', 'P']).Built := .parts _ _ _
  have built' : (ofParts ['j', 'a'] ['j', 'p'] []).Built := .parts _ _ _
  have plain : (ofParts ['J', 'A'] [] ['J', 'P']).Plain :=
    plain_ofParts_iff.mpr (by simp [Undivided, isSeparator])
  have plain' : (ofParts ['j', 'a'] ['j', 'p'] []).Plain :=
    plain_ofParts_iff.mpr (by simp [Undivided, isSeparator])
  obtain ⟨back, -, told⟩ := built.tag_faithful
  refine ⟨built, plain, built', plain', back.mpr plain, fun same => ?_⟩
  exact absurd (told _ built' plain plain' same) (by decide)

end DatePattern.Locale
