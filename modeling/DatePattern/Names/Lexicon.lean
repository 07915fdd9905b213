import DatePattern.Text.Bytes
import DatePattern.Text.CaseFold
import DatePattern.Text.Lowercase

/-! Lexicons: names in any case, of which the longest at the front of a text is found. -/

namespace DatePattern

/-- Names in lower case with what they mean, each name once and longer names first. -/
structure Lexicon (α : Type) where
  /-- The names and their meanings. -/
  entries : List (List Char × α)

namespace Lexicon

/-- The order in which names are tried: more bytes first, and then by code points. -/
def tries (first second : List Char) : Bool :=
  Text.byteLength second < Text.byteLength first ||
    (Text.byteLength first == Text.byteLength second && !decide (second < first))

/-- The names in lower case, each with the meaning of its first appearance. -/
def distinct {α : Type} : (names : List (List Char × α)) → List (List Char × α)
  | [] => []
  | (name, meaning) :: rest =>
    let key := Text.lowercase name
    (key, meaning) :: (distinct rest).filter (·.1 ≠ key)

/-- Entries in the order in which they are tried, with one more put in its place. -/
def place {α : Type} (entry : List Char × α) : (entries : List (List Char × α)) →
    List (List Char × α)
  | [] => [entry]
  | first :: rest =>
    if tries entry.1 first.1 then entry :: first :: rest else first :: place entry rest

/-- The lexicon of names, where the first meaning of a name counts. -/
def ofNames {α : Type} (names : List (List Char × α)) : Lexicon α where
  entries := (distinct names).foldr place []

/-- The names in the order in which they are tried. -/
def names {α : Type} (lexicon : Lexicon α) : List (List Char) := lexicon.entries.map (·.1)

/-- The name at the front of a text as the text spells it, and the text after it. -/
def take? {α : Type} (lexicon : Lexicon α) (text : List Char) : Option (List Char × List Char) :=
  lexicon.entries.findSome? fun (name, _) => Text.takeFolded? name text

/-- The meaning of a name. -/
def meaning? {α : Type} (lexicon : Lexicon α) (name : List Char) : Option α :=
  (lexicon.entries.find? (·.1 == Text.lowercase name)).map (·.2)

end Lexicon

end DatePattern
