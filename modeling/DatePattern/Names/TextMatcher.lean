import DatePattern.Calendar.Field
import DatePattern.Names.Lexicon

/-! Matching the display names of a field. -/

namespace DatePattern

/-- The display names of one field and the values they stand for. -/
structure TextMatcher where
  /-- The field that is named. -/
  field : Field
  /-- The names and values. -/
  names : Lexicon Int

namespace TextMatcher

/-- The matcher for names, where the first value of a name counts. -/
def ofNames (field : Field) (names : List (String × Int)) : TextMatcher where
  field := field
  names := .ofNames (names.map fun (name, value) => (name.toList, value))

/-- The value named at the front of a text, the name itself and the text after it. -/
def match? (matcher : TextMatcher) (text : List Char) : Option (Int × List Char × List Char) := do
  let (taken, rest) ← matcher.names.take? text
  -- A name in another case variant may be found and yet have no meaning.
  let value ← matcher.names.meaning? taken
  return (value, taken, rest)

end TextMatcher

end DatePattern
