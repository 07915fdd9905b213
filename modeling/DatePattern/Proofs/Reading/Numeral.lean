import DatePattern.Proofs.Names.Lexicon
import DatePattern.Proofs.Text.Digits
import DatePattern.Proofs.Zone.OffsetForm
import DatePattern.Reading.Reader
import DatePattern.Writing.Rule

/-! Reading numbers: a run of digits that is told apart from what follows is read as its number. -/

namespace DatePattern

/-- A text of digits that denotes a number. -/
structure Numeral (text : List Char) (n : Nat) : Prop where
  /-- There is nothing but digits. -/
  digits : ∀ c ∈ text, Text.isAsciiDigit c = true
  /-- There is a digit. -/
  nonempty : text ≠ []
  /-- The digits denote the number. -/
  value : Digits.value text = n

/-- A number in decimal digits is a numeral of itself, however many zeros precede it. -/
theorem numeral_padded {n : Nat} (small : n < Digits.power 20) (width : Nat) :
    Numeral (Digits.padded n width) n := by
  -- There is always a digit, so that the text is not empty.
  refine ⟨fun c => Digits.isAsciiDigit_padded, ?_, Digits.value_padded small width⟩
  intro empty
  have length := Digits.length_padded n width
  have digits := Digits.count_pos n
  rw [empty, List.length_nil] at length
  omega

namespace NumberRule

/-- The usual rules write a number that is not negative as a numeral of it. -/
theorem numeral_select (field : Field) (width : Nat) {n : Int} (nonneg : 0 ≤ n)
    (small : n < 1000000000000) : Numeral ((select field width).render n) n.toNat := by
  have few : n.toNat < Digits.power 20 := by
    simp only [Digits.power]
    omega
  have whole : (n.toNat : Int) = n := Int.toNat_of_nonneg nonneg
  have padded : ∀ size, Numeral (Digits.padded n size) n.toNat := by
    intro size
    have numeral := numeral_padded few size
    rwa [whole] at numeral
  -- Two digits are those of a number padded to two places.
  unfold select
  split
  · exact padded 1
  · simp only [render]
    split
    · rw [← Digits.padded_two (by omega), whole]
      exact padded 2
    · exact padded 2
  · exact padded _

/-- The number of a month is written as a numeral at either width. -/
theorem numeral_month {n : Int} (nonneg : 0 ≤ n) (small : n < 100) :
    Numeral (unpaddedMonth.render n) n.toNat ∧ Numeral (twoDigitMonth.render n) n.toNat := by
  -- Months are written like any other field.
  have few : n < 1000000000000 := by omega
  exact ⟨numeral_select .month 1 nonneg few, numeral_select .month 2 nonneg few⟩

/-- A year is written as a numeral, of its last two digits where the width is two. -/
theorem numeral_year (width : Nat) {n : Int} (nonneg : 0 ≤ n) (small : n < 1000000000000) :
    Numeral ((WriteRule.yearRule width).render n)
      (if width = 2 then (n % 100).toNat else n.toNat) := by
  -- Only at a width of two is the year cut down to its last two digits.
  by_cases pair : width = 2
  · rw [if_pos pair, WriteRule.yearRule, if_pos pair]
    have few : n % 100 < 1000000000000 := by omega
    have numeral := numeral_select .year 2 (n := n % 100) (by omega) few
    have two : 0 ≤ n % 100 ∧ n % 100 < 100 := by omega
    simp only [select, render, if_pos two] at numeral
    exact numeral
  · rw [if_neg pair, WriteRule.yearRule, if_neg pair]
    exact numeral_select .year _ nonneg small

end NumberRule

namespace Reader

/-- A number is told apart from what follows: it has its full width, or no digit follows it. -/
def Apart (maxWidth : Nat) (piece rest : List Char) : Prop :=
  if maxWidth = 0 then ∀ c ∈ rest.head?, Text.isAsciiDigit c = false else piece.length = maxWidth

/-- Digits after which there is no digit are the whole run. -/
theorem takeWhile_digits {digits rest : List Char}
    (ascii : ∀ c ∈ digits, Text.isAsciiDigit c = true)
    (stops : ∀ c ∈ rest.head?, Text.isAsciiDigit c = false) :
    (digits ++ rest).takeWhile Text.isAsciiDigit = digits ∧
      (digits ++ rest).dropWhile Text.isAsciiDigit = rest := by
  rw [List.takeWhile_append_of_pos ascii, List.dropWhile_append_of_pos ascii]
  -- The run ends with the text, or before a character that is no digit.
  cases rest with
  | nil => exact ⟨List.append_nil _, rfl⟩
  | cons c rest =>
    have notDigit := stops c rfl
    rw [List.takeWhile_cons_of_neg (by simp [notDigit]),
      List.dropWhile_cons_of_neg (by simp [notDigit])]
    exact ⟨List.append_nil _, rfl⟩

/-- The digits of a number that is told apart from what follows are taken, and nothing else. -/
theorem digitRun_eq {maxWidth : Nat} {piece rest : List Char}
    (digits : ∀ c ∈ piece, Text.isAsciiDigit c = true) (nonempty : piece ≠ [])
    (apart : Apart maxWidth piece rest) :
    digitRun maxWidth (piece ++ rest) = ([], piece, rest) := by
  -- Without a width the run ends where the digits do, and with one it is cut at the width.
  unfold Apart at apart
  by_cases unbounded : maxWidth = 0
  · rw [if_pos unbounded] at apart
    obtain ⟨run, after⟩ := takeWhile_digits digits apart
    obtain ⟨first, others, rfl⟩ := List.exists_cons_of_ne_nil nonempty
    have notBlank := (Text.digit_facts (digits first List.mem_cons_self)).1
    have unskipped : Text.trimStart (first :: others ++ rest) = first :: others ++ rest := by
      rw [Text.trimStart, List.cons_append, List.dropWhile_cons_of_neg (by simp [notBlank])]
    have noBlanks : (first :: others ++ rest).takeWhile Text.isBlank = [] := by
      rw [List.cons_append, List.takeWhile_cons_of_neg (by simp [notBlank])]
    simp only [digitRun, if_pos unbounded, unskipped, noBlanks, run, after]
  · rw [if_neg unbounded] at apart
    -- The piece fills the width, and all of it is digits.
    subst apart
    have all : piece.takeWhile Text.isAsciiDigit = piece := by
      have whole : (piece ++ []).takeWhile Text.isAsciiDigit = piece ++ [] :=
        List.takeWhile_append_of_pos digits
      rwa [List.append_nil] at whole
    simp only [digitRun, if_neg unbounded, List.take_left, all, List.drop_left]

variable {reader : Reader} {step : ReadStep} {piece rest : List Char}

/-- A numeral is read as the value that its field has for the number. -/
theorem readStep_number {field : Field} {modifier : Modifier}
    (rule : step.rule = .number field modifier) {n : Nat} (numeral : Numeral piece n)
    (fits : Count.Fits n) {value : Int} (modified : reader.modify? n modifier = some value)
    (apart : Apart step.maxWidth piece rest) :
    reader.readStep step (piece ++ rest) = .ok ([.value field value], rest) := by
  -- The run of digits is the whole piece, so that its number is what is modified.
  have run := digitRun_eq numeral.digits numeral.nonempty apart
  simp only [readStep, rule, run, numeral.nonempty, if_false, numeral.value,
    Count.within?_of_fits fits, Option.bind_some, modified]

/-- Up to nine digits are read as leading digits of the nanoseconds. -/
theorem readStep_fraction (rule : step.rule = .fraction) {n : Nat} (numeral : Numeral piece n)
    (few : piece.length ≤ 9) (apart : Apart step.maxWidth piece rest) :
    reader.readStep step (piece ++ rest) =
      .ok ([.value .nanoOfSecond (n * Digits.power (9 - piece.length) : Nat)], rest) := by
  -- As many digits as there are stand for the highest places of nine.
  have run := digitRun_eq numeral.digits numeral.nonempty apart
  have nanos : nanosOf piece = (n * Digits.power (9 - piece.length) : Nat) := by
    simp only [nanosOf, List.take_of_length_le few, numeral.value]
  simp only [readStep, rule, run, numeral.nonempty, if_false, nanos]

/-- Literal text is read where it stands, and says nothing. -/
theorem readStep_literal (rule : step.rule = .literal piece) :
    reader.readStep step (piece ++ rest) = .ok ([], rest) := by
  -- The text begins with the piece, which is taken off.
  simp only [readStep, rule, Text.after?_eq_some_iff.mpr (rfl : piece ++ rest = piece ++ rest)]

/-- A recognized name is read as the value that it means. -/
theorem readStep_text {field : Field} {names : List (String × Int)} {value : Int}
    (rule : step.rule = .text (.ofNames field names))
    (recognized : Recognized names value piece rest) :
    reader.readStep step (piece ++ rest) = .ok ([.value field value], rest) := by
  -- The matcher takes the name that is recognized, with its value.
  simp only [readStep, rule, TextMatcher.match?_ofNames field recognized]
  rfl

/-- A written offset, or Z where it is zero, is read as a zone of that offset. -/
theorem readStep_isoZone {form : OffsetForm} (rule : step.rule = .isoZone form) {offset : Int}
    (expressed : form.Expresses offset) :
    reader.readStep step (form.renderZulu offset ++ rest) =
      .ok ([.zone (if offset = 0 then .utc else .fixed offset)], rest) := by
  -- The shape of the offset is taken, and its digits are those of the offset.
  simp only [readStep, rule, OffsetForm.takeZulu?_renderZulu expressed,
    OffsetForm.isoZone_renderZulu reader expressed]

/-- Hours and minutes are read as a zone of that offset, where names of zones could stand too. -/
theorem readStep_zone {matcher : ZoneMatcher} (rule : step.rule = .zone matcher) {offset : Int}
    (expressed : OffsetForm.hoursMinutes.Expresses offset) :
    reader.readStep step (OffsetForm.hoursMinutes.render offset ++ rest) =
      .ok ([.zone (.fixed offset)], rest) := by
  -- Numbers are tried before names.
  simp only [readStep, rule, matcher.match?_render expressed, zoneFindings]

end Reader

end DatePattern
