import DatePattern.Calendar.Fields
import DatePattern.Calendar.Resolve
import DatePattern.Reading.Rule
import DatePattern.Text.Blank
import DatePattern.Text.Quoted

/-! Reading a text piece by piece into findings, which are resolved to an instant. -/

namespace DatePattern

/-- The steps that read a text, and what they take for granted. -/
structure Reader where
  /-- One step for each token. -/
  steps : List ReadStep
  /-- The regions that identifiers can name. -/
  regions : List Region
  /-- The zone of texts that name none. -/
  zone : Zone
  /-- How years and weeks are counted. -/
  calendar : Calendar
  /-- Whether texts are in the imperial locale. -/
  imperial : Bool
  /-- The first year of the window of two-digit years. -/
  windowStart : Int
  /-- The moment around which the names of zones are understood. -/
  reference : Int

/-- Where reading starts, and afterwards where it stopped or failed. -/
structure Position where
  /-- The byte at which reading goes on. -/
  index : Nat
  /-- The byte of the piece that could not be read. -/
  errorIndex : Option Nat := none
deriving DecidableEq, Repr

/-- A text that could not be read. -/
structure ReadError where
  /-- The text. -/
  text : String
  /-- The byte of the piece that could not be read. -/
  index : Nat
  /-- Whether the eras of the imperial locale may be the cause. -/
  imperial : Bool
deriving DecidableEq, Repr

/-- The wording of the failure. -/
def ReadError.message (error : ReadError) : String :=
  "Unparseable date: " ++ String.ofList (Text.quoted error.text.toList) ++
    if error.imperial then " (The ja_JP_JP locale does not support dates before 1868 AD)" else ""

namespace Reader

/-- The year in the window of two-digit years that ends in these digits. -/
def placeYear (reader : Reader) (year : Int) : Int :=
  -- The window begins in the middle of a century as a rule.
  let century := reader.windowStart / 100 * 100
  if reader.windowStart - century ≤ year then century + year else century + year + 100

/-- The value that a number read gives to a field. -/
def modify? (reader : Reader) (value : Int) : Modifier → Option Int
  | .none => some value
  | .month => Count.within? (value - 1)
  | .abbreviatedYear => some (if value < 100 then reader.placeYear value else value)
  | .twelveHour => some (if value = 12 then 0 else value)
  | .twentyFourHour => some (if value = 24 then 0 else value)
  | .dayInWeek => if value = 7 then some 1 else Count.within? (value + 1)

/-- The blanks to skip, the digits and the text after them, for a greatest count of digits. -/
def digitRun (maxWidth : Nat) (text : List Char) : List Char × List Char × List Char :=
  if maxWidth = 0 then
    let unskipped := Text.trimStart text
    (text.takeWhile Text.isBlank, unskipped.takeWhile Text.isAsciiDigit,
      unskipped.dropWhile Text.isAsciiDigit)
  else
    let digits := (text.take maxWidth).takeWhile Text.isAsciiDigit
    ([], digits, text.drop digits.length)

/-- The nanoseconds of a run of digits after the decimal point, of which nine count. -/
def nanosOf (digits : List Char) : Int :=
  let kept := digits.take 9
  (Digits.value kept * Digits.power (9 - kept.length) : Nat)

/-- The findings of a zone mention. -/
def zoneFindings (reader : Reader) : ZoneMention → List Finding
  | .offset zone => [.zone zone]
  | .named named =>
    let offsets := named.offsets reader.reference
    [.value .dstOffset offsets.daylight, .value .zoneOffset offsets.standard]

/-- The zone of an offset in the text of an ISO form. -/
def isoZone (reader : Reader) (taken : List Char) : Zone :=
  if taken = ['Z'] then .utc
  else Zone.ofId reader.regions (String.ofList (['G', 'M', 'T'] ++ taken))

/-- What a step finds at the front of a text and the text after it, or the bytes to the failure. -/
def readStep (reader : Reader) (step : ReadStep) (text : List Char) :
    Except Nat (List Finding × List Char) :=
  match step.rule with
  | .number field modifier =>
    let (skipped, digits, rest) := digitRun step.maxWidth text
    -- Without digits, or with a number out of range, the place of the digits is at fault.
    if digits = [] then .error (Text.byteLength skipped)
    else match (Count.within? (Digits.value digits)).bind (reader.modify? · modifier) with
      | some value => .ok ([.value field value], rest)
      | none => .error (Text.byteLength skipped)
  | .fraction =>
    let (skipped, digits, rest) := digitRun step.maxWidth text
    if digits = [] then .error (Text.byteLength skipped)
    else .ok ([.value .nanoOfSecond (nanosOf digits)], rest)
  | .literal lead =>
    match Text.after? lead text with
    | some rest => .ok ([], rest)
    | none => .error (Text.sharedBytes lead text)
  | .text matcher =>
    match matcher.match? text with
    | some (value, _, rest) => .ok ([.value matcher.field value], rest)
    | none => .error 0
  | .zone matcher =>
    match matcher.match? text with
    | some (mention, _, rest) => .ok (reader.zoneFindings mention, rest)
    | none => .error 0
  | .isoZone form =>
    match form.takeZulu? text with
    | some (taken, rest) => .ok ([.zone (reader.isoZone taken)], rest)
    | none => .error 0

/-- All findings of some steps, and the text after them or the bytes to the failure. -/
def readSteps (reader : Reader) :
    (steps : List ReadStep) → (text : List Char) → List Finding × Except Nat (List Char)
  | [], text => ([], .ok text)
  | step :: steps, text =>
    match reader.readStep step text with
    | .error skipped => ([], .error skipped)
    | .ok (found, rest) =>
      -- A later failure lies beyond the bytes that this step has read.
      let (later, outcome) := reader.readSteps steps rest
      (found ++ later,
        outcome.mapError (Text.byteLength text - Text.byteLength rest + ·))

/-- Reads a text from a position on, and tells whether all of the steps succeeded. -/
def readInto (reader : Reader) (text : String) (position : Position) (collected : Collected) :
    Bool × Position × Collected :=
  match Text.from? text.toList position.index with
  | none => (false, { position with errorIndex := some position.index }, collected)
  | some rest =>
    let (findings, outcome) := reader.readSteps reader.steps rest
    let collected := collected.addAll findings
    match outcome with
    | .ok unread =>
      let read := Text.byteLength rest - Text.byteLength unread
      (true, { position with index := position.index + read }, collected)
    | .error skipped =>
      -- A failure leaves the position where it was.
      (false, { position with errorIndex := some (position.index + skipped) }, collected)

/-- The instant that a text denotes from a position on, and where reading stopped or failed. -/
def readAt (reader : Reader) (text : String) (position : Position) : Option Instant × Position :=
  match reader.readInto text position .empty with
  | (false, failed, _) => (none, failed)
  | (true, reached, collected) =>
    match collected.resolve? reader.zone reader.calendar with
    | some instant => (some instant, reached)
    | none => (none, ⟨position.index, some position.index⟩)

/-- The instant that a text denotes from its first byte on. -/
def read (reader : Reader) (text : String) : Except ReadError Instant :=
  match reader.readAt text ⟨0, none⟩ with
  | (some instant, _) => .ok instant
  | (none, failed) => .error ⟨text, failed.errorIndex.getD 0, reader.imperial⟩

end Reader

end DatePattern
