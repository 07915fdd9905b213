import DatePattern.Reading.Reader

/-! What a single step can do: each way in which it succeeds or fails, by the kind of its rule. -/

namespace DatePattern.Reader

/-- How a rule ends on a text: with what is found and what is left, or with the bytes to failure. -/
inductive Ends (reader : Reader) (maxWidth : Nat) (text : List Char) :
    ReadRule → Except Nat (List Finding × List Char) → Prop
  /-- Digits are a number that the field can have. -/
  | number {field : Field} {modifier : Modifier} {skipped digits rest : List Char}
      {number value : Int} (run : digitRun maxWidth text = (skipped, digits, rest))
      (nonempty : digits ≠ []) (fits : Count.within? (Digits.value digits) = some number)
      (modified : reader.modify? number modifier = some value) :
      Ends reader maxWidth text (.number field modifier) (.ok ([.value field value], rest))
  /-- There are no digits, or their number is out of range. -/
  | noNumber {field : Field} {modifier : Modifier} {skipped digits rest : List Char}
      (run : digitRun maxWidth text = (skipped, digits, rest))
      (unfit : digits = [] ∨
        (Count.within? (Digits.value digits)).bind (reader.modify? · modifier) = none) :
      Ends reader maxWidth text (.number field modifier) (.error (Text.byteLength skipped))
  /-- Digits are the first ones of the nanoseconds. -/
  | fraction {skipped digits rest : List Char}
      (run : digitRun maxWidth text = (skipped, digits, rest)) (nonempty : digits ≠ []) :
      Ends reader maxWidth text .fraction (.ok ([.value .nanoOfSecond (nanosOf digits)], rest))
  /-- There are no digits. -/
  | noFraction {skipped rest : List Char} (run : digitRun maxWidth text = (skipped, [], rest)) :
      Ends reader maxWidth text .fraction (.error (Text.byteLength skipped))
  /-- The text begins with the literal text. -/
  | literal {lead rest : List Char} (after : Text.after? lead text = some rest) :
      Ends reader maxWidth text (.literal lead) (.ok ([], rest))
  /-- The text begins with other bytes at some place. -/
  | noLiteral {lead : List Char} (unlike : Text.after? lead text = none) :
      Ends reader maxWidth text (.literal lead) (.error (Text.sharedBytes lead text))
  /-- The text begins with a name. -/
  | text {matcher : TextMatcher} {value : Int} {taken rest : List Char}
      (matched : matcher.match? text = some (value, taken, rest)) :
      Ends reader maxWidth text (.text matcher) (.ok ([.value matcher.field value], rest))
  /-- The text begins with no name. -/
  | noText {matcher : TextMatcher} (unmatched : matcher.match? text = none) :
      Ends reader maxWidth text (.text matcher) (.error 0)
  /-- The text begins with a zone. -/
  | zone {matcher : ZoneMatcher} {mention : ZoneMention} {taken rest : List Char}
      (matched : matcher.match? text = some (mention, taken, rest)) :
      Ends reader maxWidth text (.zone matcher) (.ok (reader.zoneFindings mention, rest))
  /-- The text begins with no zone. -/
  | noZone {matcher : ZoneMatcher} (unmatched : matcher.match? text = none) :
      Ends reader maxWidth text (.zone matcher) (.error 0)
  /-- The text begins with an offset, or with Z. -/
  | isoZone {form : OffsetForm} {taken rest : List Char}
      (matched : form.takeZulu? text = some (taken, rest)) :
      Ends reader maxWidth text (.isoZone form) (.ok ([.zone (reader.isoZone taken)], rest))
  /-- The text begins with no offset. -/
  | noIsoZone {form : OffsetForm} (unmatched : form.takeZulu? text = none) :
      Ends reader maxWidth text (.isoZone form) (.error 0)

/-- A step ends in one of the ways that there are for its rule. -/
theorem ends_readStep (reader : Reader) (step : ReadStep) (text : List Char) :
    reader.Ends step.maxWidth text step.rule (reader.readStep step text) := by
  -- Each rule asks one question of the text, and ends by the answer to it.
  unfold readStep
  cases step.rule with
  | number field modifier =>
    rcases run : digitRun step.maxWidth text with ⟨skipped, digits, rest⟩
    simp only
    split
    next empty => exact .noNumber run (.inl empty)
    next nonempty =>
      -- Digits may still denote more than fits, or a year that cannot be placed.
      split
      next value changed =>
        obtain ⟨number, fits, modified⟩ := Option.bind_eq_some_iff.mp changed
        exact .number run nonempty fits modified
      next unfit => exact .noNumber run (.inr unfit)
  | fraction =>
    rcases run : digitRun step.maxWidth text with ⟨skipped, digits, rest⟩
    simp only
    split
    next empty => exact .noFraction (empty ▸ run)
    next nonempty => exact .fraction run nonempty
  | literal lead =>
    simp only
    split
    next rest after => exact .literal after
    next unlike => exact .noLiteral unlike
  | text matcher =>
    simp only
    split
    next value taken rest matched => exact .text matched
    next unmatched => exact .noText unmatched
  | zone matcher =>
    simp only
    split
    next mention taken rest matched => exact .zone matched
    next unmatched => exact .noZone unmatched
  | isoZone form =>
    simp only
    split
    next taken rest matched => exact .isoZone matched
    next unmatched => exact .noIsoZone unmatched

end DatePattern.Reader
