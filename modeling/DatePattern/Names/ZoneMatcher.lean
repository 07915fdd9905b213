import DatePattern.Names.Lexicon
import DatePattern.Zone.Names
import DatePattern.Zone.OffsetForm

/-! Matching zones: numeric offsets from Greenwich, and display names. -/

namespace DatePattern

/-- A zone that a display name refers to. -/
structure NamedZone where
  /-- The zone. -/
  zone : Zone
  /-- Whether the name is one of daylight saving time. -/
  daylight : Bool
deriving DecidableEq, Repr

/-- The offsets in milliseconds that a name stands for in the year around a moment. -/
def NamedZone.offsets (named : NamedZone) (reference : Int) : Offsets where
  standard := (named.zone.offsetsAt reference).standard
  daylight := if named.daylight then named.zone.daylightSaving reference else 0

/-- What a text says about a zone. -/
inductive ZoneMention where
  /-- A zone given by its offset. -/
  | offset (zone : Zone)
  /-- A zone given by a display name. -/
  | named (named : NamedZone)
deriving DecidableEq, Repr

/-- The display names of zones, and the regions that identifiers can name. -/
structure ZoneMatcher where
  /-- The regions. -/
  regions : List Region
  /-- The names and zones. -/
  names : Lexicon NamedZone

namespace ZoneMatcher

/-- The names of one entry of a table, long names first and standard time before daylight. -/
def namesOf (regions : List Region) (entry : ZoneNames) : List (List Char × NamedZone) :=
  -- Greenwich is matched by its own shape, and unknown zones are passed over.
  if entry.id.toList.map Text.lowerAscii = ['g', 'm', 't'] then []
  else match Zone.ofId? regions entry.id with
    | none => []
    | some zone =>
      [(true, false), (true, true), (false, false), (false, true)].filterMap fun (long, daylight) =>
        if entry.name daylight long = "" then none
        else some ((entry.name daylight long).toList, ⟨zone, daylight⟩)

/-- The matcher for a table of names, where the first zone of a name counts. -/
def ofTable (regions : List Region) (table : List ZoneNames) : ZoneMatcher where
  regions := regions
  names := .ofNames (table.flatMap (namesOf regions))

/-- The shape of an offset after GMT whose hours have some digits. -/
def greenwichShape (hours : List Slot) : List Slot :=
  [.letter 'G', .letter 'M', .letter 'T', .sign] ++ hours ++ [.mark ':', .digit, .digit]

/-- The numeric offset at the front of a text, and the text after it. -/
def takeNumeric? (text : List Char) : Option (List Char × List Char) :=
  ((takeShape? OffsetForm.hoursMinutes.shape text).or
    (takeShape? (greenwichShape [.digit, .digit]) text)).or
    (takeShape? (greenwichShape [.digit]) text)

/-- Whether a text begins with GMT in any case of its letters. -/
def startsGreenwich (text : List Char) : Bool :=
  (text.take 3).map Text.lowerAscii == ['g', 'm', 't']

/-- What a matched text says. -/
def mention? (matcher : ZoneMatcher) (taken : List Char) : Option ZoneMention :=
  match taken with
  | [] => none
  | c :: _ =>
    if c = '+' ∨ c = '-' then
      some (.offset (Zone.ofId matcher.regions (String.ofList (['G', 'M', 'T'] ++ taken))))
    else if startsGreenwich taken then
      some (.offset (Zone.ofId matcher.regions (String.ofList (taken.map Text.upperAscii))))
    else (matcher.names.meaning? taken).map .named

/-- The zone mentioned at the front of a text, the mention itself and the text after it. -/
def match? (matcher : ZoneMatcher) (text : List Char) :
    Option (ZoneMention × List Char × List Char) := do
  let (taken, rest) ← (takeNumeric? text).or (matcher.names.take? text)
  let mention ← matcher.mention? taken
  return (mention, taken, rest)

end ZoneMatcher

end DatePattern
