import DatePattern.Proofs.Cache
import DatePattern.Proofs.Reading.Checked
import DatePattern.Proofs.Reading.Legible
import DatePattern.Proofs.Reading.Readable
import DatePattern.Proofs.Text.PowerTable
import DatePattern.Proofs.Writing
import Mathlib.Algebra.Order.Floor.Ring
import Mathlib.Data.Rat.Floor
import Mathlib.Tactic.FieldSimp
import Mathlib.Tactic.Linarith

/-!
Decimal fractions: digits of nanoseconds are read and written as the digits after a decimal point.

Leading zeros count here, unlike those of any other number, and trailing ones do not.
-/

namespace DatePattern

namespace Digits

/-- The number that digits after a decimal point denote. -/
def fraction : (digits : List Char) → ℚ
  | [] => 0
  | c :: later => ((value [c] : Nat) + fraction later) / 10

/-- A fraction in billionths, rounded down. -/
def billionths (digits : List Char) : Int := ⌊fraction digits * 1000000000⌋

/-- Nine places are billionths. -/
theorem power_nine : power 9 = 1000000000 := rfl

/-- Earlier digits weigh as many places more as there are later ones. -/
theorem value_append (digits later : List Char) :
    value (digits ++ later) = power later.length * value digits + value later := by
  -- Reading goes on from the value of the earlier digits, which each later one moves up a place.
  rw [value, Nat.ofDigitChars_append, Nat.ofDigitChars_eq_ofDigitChars_zero, power_eq_pow]
  rfl

/-- Digits after the point denote their number, divided by a power of ten. -/
theorem fraction_eq_div (digits : List Char) :
    fraction digits = (value digits : Nat) / (power digits.length : Nat) := by
  -- A digit put in front makes the others ten times smaller, and weighs as much as all places behind it.
  induction digits with
  | nil => simp [fraction, value]
  | cons c later ih =>
    have positive : (power later.length : ℚ) ≠ 0 := by exact_mod_cast (power_pos _).ne'
    have split : value (c :: later) = power later.length * value [c] + value later :=
      value_append [c] later
    rw [fraction, ih, split, List.length_cons, power]
    push_cast
    field_simp

/-- Later digits are those of a fraction that is moved behind the earlier ones. -/
theorem fraction_append (digits later : List Char) :
    fraction (digits ++ later) = fraction digits + fraction later / (power digits.length : Nat) := by
  -- Each of the earlier digits moves the later ones one place.
  induction digits with
  | nil => simp [fraction, power]
  | cons c digits ih =>
    have positive : (power digits.length : ℚ) ≠ 0 := by exact_mod_cast (power_pos _).ne'
    rw [List.cons_append, fraction, ih, fraction, List.length_cons, power]
    push_cast
    field_simp
    ring

/-- Zeros at the end of a fraction do not matter. -/
theorem fraction_append_zeros (digits : List Char) (zeros : Nat) :
    fraction (digits ++ List.replicate zeros '0') = fraction digits := by
  -- The zeros alone are a fraction of zero, which adds nothing behind the digits.
  have none : fraction (List.replicate zeros '0') = 0 := by
    rw [fraction_eq_div, value, Nat.ofDigitChars_replicate_zero]
    simp
  rw [fraction_append, none, zero_div, add_zero]

/-- A fraction is less than one. -/
theorem fraction_bounds {digits : List Char} (ascii : ∀ c ∈ digits, Text.isAsciiDigit c = true) :
    0 ≤ fraction digits ∧ fraction digits < 1 := by
  -- The number of the digits is below the power of ten that it is divided by.
  have positive : (0 : ℚ) < (power digits.length : Nat) := by exact_mod_cast power_pos _
  have below : ((value digits : Nat) : ℚ) < (power digits.length : Nat) := by
    exact_mod_cast value_lt_power ascii
  rw [fraction_eq_div]
  exact ⟨by positivity, (div_lt_one positive).mpr below⟩

/-- In units of a place that is not before its last one, a fraction is a whole number. -/
theorem fraction_mul_power {digits : List Char} {places : Nat} (few : digits.length ≤ places) :
    fraction digits * (power places : Nat) =
      (value digits * power (places - digits.length) : Nat) := by
  -- The power cancels the denominator, and what is left of it is a power as well.
  have positive : (power digits.length : ℚ) ≠ 0 := by exact_mod_cast (power_pos _).ne'
  rw [fraction_eq_div, ← power_mul_power_sub few]
  push_cast
  field_simp

/-- Nine digits at most are a whole number of billionths. -/
theorem billionths_of_few {digits : List Char} (few : digits.length ≤ 9) :
    billionths digits = (value digits * power (9 - digits.length) : Nat) := by
  -- A whole number is its own floor.
  have whole := fraction_mul_power few
  rw [power_nine] at whole
  push_cast at whole ⊢
  rw [billionths, whole]
  exact_mod_cast Int.floor_natCast (R := ℚ) _

/-- Digits after the ninth one are less than a billionth. -/
theorem billionths_take {digits : List Char} (ascii : ∀ c ∈ digits, Text.isAsciiDigit c = true) :
    billionths (digits.take 9) = billionths digits := by
  by_cases few : digits.length ≤ 9
  · rw [List.take_of_length_le few]
  · have nine : (digits.take 9).length = 9 := by
      rw [List.length_take]
      omega
    have less := fraction_bounds fun c listed => ascii c (List.mem_of_mem_drop (i := 9) listed)
    -- The fraction is a whole number of billionths, and a part of one.
    have whole : fraction digits * 1000000000 =
        (value (digits.take 9) : Nat) + fraction (digits.drop 9) := by
      have front := fraction_mul_power nine.le
      rw [nine, Nat.sub_self, power, Nat.mul_one, power_nine] at front
      have split := fraction_append (digits.take 9) (digits.drop 9)
      rw [List.take_append_drop, nine, power_nine] at split
      push_cast at front split
      rw [split, add_mul, front, div_mul_cancel₀ _ (by norm_num)]
    rw [billionths_of_few nine.le, nine, Nat.sub_self, power, Nat.mul_one, billionths, whole,
      Int.floor_natCast_add, Int.floor_eq_zero_iff.mpr less, Int.add_zero]

end Digits

namespace Reader

open Digits

/-- The nanoseconds of digits are their fraction of a second, rounded down. -/
theorem nanosOf_eq_billionths {digits : List Char}
    (ascii : ∀ c ∈ digits, Text.isAsciiDigit c = true) : nanosOf digits = billionths digits := by
  -- Reading takes nine digits at most, and what it leaves out is less than a billionth.
  rw [← billionths_take ascii, billionths_of_few (List.length_take_le 9 digits), nanosOf]

/-- The nanoseconds of digits are less than a second, and neither further digits nor zeros at the end matter. -/
theorem billionths_spec {digits : List Char} (ascii : ∀ c ∈ digits, Text.isAsciiDigit c = true) :
    (0 ≤ billionths digits ∧ billionths digits < 1000000000) ∧
      billionths (digits.take 9) = billionths digits ∧
      ∀ zeros, billionths (digits ++ List.replicate zeros '0') = billionths digits := by
  -- The bounds are those of what is read, and zeros leave the fraction as it is.
  refine ⟨?_, billionths_take ascii, fun zeros => ?_⟩
  · rw [← nanosOf_eq_billionths ascii]
    exact nanosOf_bounds ascii
  · rw [billionths, fraction_append_zeros, billionths]

/-- The run of digits that a text begins with is the one that is bounded by its width or by what follows it. -/
theorem digitRun_eq_iff {maxWidth : Nat} {text skipped digits rest : List Char} :
    digitRun maxWidth text = (skipped, digits, rest) ↔
      DigitRun maxWidth text skipped digits rest := by
  refine ⟨digitRun_spec, ?_⟩
  rintro ⟨split, ascii, trimmed, narrow, stops⟩
  unfold digitRun
  split at trimmed
  next unbounded =>
    obtain ⟨run, others⟩ :=
      takeWhile_digits ascii (stops.resolve_left fun full => full.1 unbounded)
    -- The blanks are what is left of the text in front of the digits.
    have blanks : text.takeWhile Text.isBlank = skipped := by
      have parts := List.takeWhile_append_dropWhile (p := Text.isBlank) (l := text)
      rw [show text.dropWhile Text.isBlank = digits ++ rest from trimmed] at parts
      exact List.append_cancel_right (parts.trans split)
    simp only [if_pos unbounded, blanks, trimmed, run, others]
  next bounded =>
    subst trimmed split
    have few := narrow.resolve_left bounded
    rw [List.nil_append]
    have stops : ∀ c ∈ (rest.take (maxWidth - digits.length)).head?,
        Text.isAsciiDigit c = false := by
      -- A width that is filled leaves nothing to follow within it.
      intro c head
      rw [List.head?_take] at head
      split at head
      · cases head
      · exact stops.resolve_left (fun full => by omega) c head
    have run : ((digits ++ rest).take maxWidth).takeWhile Text.isAsciiDigit = digits := by
      rw [List.take_append, List.take_of_length_le few]
      exact (takeWhile_digits ascii stops).1
    simp only [if_neg bounded, run, List.drop_left]

/-- Digits are read by a fraction as their number of billionths, whatever their length. -/
theorem readStep_fraction_iff {reader : Reader} {step : ReadStep} (rule : step.rule = .fraction)
    {text rest : List Char} {found : List Finding} :
    reader.readStep step text = .ok (found, rest) ↔
      ∃ skipped digits, DigitRun step.maxWidth text skipped digits rest ∧ digits ≠ [] ∧
        found = [.value .nanoOfSecond (billionths digits)] := by
  constructor
  · intro read
    -- Only a run of digits lets the step succeed.
    have ends := reader.ends_readStep step text
    rw [read, rule] at ends
    cases ends with
    | fraction run nonempty =>
      have spec := digitRun_spec run
      exact ⟨_, _, spec, nonempty, by rw [nanosOf_eq_billionths spec.ascii]⟩
  · rintro ⟨skipped, digits, spec, nonempty, rfl⟩
    simp only [readStep, rule, digitRun_eq_iff.mpr spec, nonempty, if_false,
      nanosOf_eq_billionths spec.ascii]

end Reader

/-- What two lists in step have at one place. -/
theorem exists_of_forall₂ {α β : Type} {holds : α → β → Prop} {firsts : List α}
    {seconds : List β} (each : List.Forall₂ holds firsts seconds) {place : Nat} {first : α}
    (here : firsts[place]? = some first) :
    ∃ second, seconds[place]? = some second ∧ holds first second := by
  -- Both lists go on together, and the place comes nearer with each step.
  induction each generalizing place with
  | nil => cases here
  | cons both _ ih =>
    cases place with
    | zero =>
      cases here
      exact ⟨_, rfl, both⟩
    | succ place => exact ih here

namespace ReadStep

/-- A step is held to its width if it reads digits and the step after it does too. -/
theorem getElem?_bounded {steps : List ReadStep} {place : Nat} {step : ReadStep}
    (here : steps[place]? = some step) :
    ∃ current, (bounded steps)[place]? = some current ∧ current.rule = step.rule ∧
      current.maxWidth = if step.rule.isNumeric && steps[place + 1]?.any (·.rule.isNumeric) then
        step.width else step.maxWidth := by
  -- What becomes of a step depends on the one after it alone.
  induction steps generalizing place with
  | nil => cases here
  | cons first steps ih =>
    obtain ⟨current, bounded, sameRule, maxWidth⟩ := bounded_cons first steps
    rw [bounded]
    cases place with
    | zero =>
      cases here
      rw [List.head?_eq_getElem?] at maxWidth
      exact ⟨current, rfl, sameRule, maxWidth⟩
    | succ place => exact ih here

/-- A step reads digits precisely where the token at its place is written as a number. -/
theorem any_getElem?_isNumeric {source : LocaleData} {locale : Locale} {tokens : List Token}
    {steps : List ReadStep} (made : List.Forall₂ (MadeFor source locale) tokens steps)
    (place : Nat) :
    steps[place]?.any (·.rule.isNumeric) = tokens[place]?.any Token.isNumeric := by
  -- Steps and tokens stand side by side, and so the step at a place is that of the token there.
  induction made generalizing place with
  | nil => rfl
  | cons first _ ih =>
    cases place with
    | zero => exact first.isNumeric
    | succ place => exact ih place

/-- The step of the letter n reads a fraction. -/
theorem MadeFor.fraction {source : LocaleData} {locale : Locale} {width : Nat} {step : ReadStep}
    (made : MadeFor source locale (.letters 'n' width) step) : step.rule = .fraction := by
  -- The letter has no other rule, unless it is too wide for any.
  obtain ⟨-, -, before, after, -, -, ruled⟩ := made.rule
  generalize step.rule = rule at ruled ⊢
  simp only [ReadRule.ofLetter] at ruled
  split at ruled
  · cases ruled
  · cases ruled
    rfl

end ReadStep

/-- The letter n writes a fraction, of nine digits at most. -/
theorem WriteRule.MadeFor.fraction {zone : Zone} {locale : Locale} {symbols : Symbols}
    {width : Nat} {rule : WriteRule} (made : MadeFor zone locale symbols (.letters 'n' width) rule) :
    rule = .fraction width ∧ width ≤ 9 := by
  -- A width above nine is refused, and any other one is that of the fraction.
  obtain ⟨before, after, made⟩ := made
  simp only [WriteRule.ofToken, WriteRule.ofLetter] at made
  split at made
  · cases made
  · cases made
    exact ⟨rfl, by omega⟩

namespace Format

open Digits Reader

/--
The letter n stands for the digits of a second after its decimal point.

It reads any count of digits, or up to its width before another number, as their fraction of a second in whole
nanoseconds. It writes as many digits as its width, which are read as the nanoseconds with zeros in all other places.
-/
theorem fraction_exact {pattern : String} {zone : Zone} {locale : Locale}
    {centuryStart : Option Instant} {before after : Registry} {format : Format}
    {tokens : List Token} (faithful : before.Faithful)
    (compiled : compile pattern zone locale centuryStart before = .ok format after)
    (scanned : Token.ofPattern pattern = .ok tokens) (place : Nat) {width : Nat}
    (letters : tokens[place]? = some (.letters 'n' width)) :
    ∃ rule step, format.rules[place]? = some rule ∧ format.reader.steps[place]? = some step ∧
      (1 ≤ width ∧ width ≤ 9) ∧
      step.maxWidth = (if tokens[place + 1]?.any Token.isNumeric then width else 0) ∧
      (∀ text rest found, format.reader.readStep step text = .ok (found, rest) ↔
        ∃ skipped digits, DigitRun step.maxWidth text skipped digits rest ∧ digits ≠ [] ∧
          found = [.value .nanoOfSecond (billionths digits)]) ∧
      (∀ digits, (∀ c ∈ digits, Text.isAsciiDigit c = true) →
        (0 ≤ billionths digits ∧ billionths digits < 1000000000) ∧
          billionths (digits.take 9) = billionths digits ∧
          ∀ zeros, billionths (digits ++ List.replicate zeros '0') = billionths digits) ∧
      ∀ fields : CalendarFields, 0 ≤ fields.nanoOfSecond → fields.nanoOfSecond < 1000000000 →
        (rule.write fields).length = width ∧
          (∀ c ∈ rule.write fields, Text.isAsciiDigit c = true) ∧
          ∀ rest, (tokens[place + 1]?.any Token.isNumeric = true ∨
              ∀ c ∈ rest.head?, Text.isAsciiDigit c = false) →
            format.reader.readStep step (rule.write fields ++ rest) = .ok ([.value .nanoOfSecond
              (Instant.leadingNanos fields.nanoOfSecond.toNat width : Nat)], rest) := by
  obtain ⟨-, rfl, rfl, known, same, made⟩ := compiledFrom faithful compiled
  cases scanned.symm.trans same
  obtain ⟨-, rules, ⟨steps, bounded, readable⟩, -, -⟩ := made
  -- The rule and the step at the place are those that the letters have by themselves, up to the greatest width.
  obtain ⟨rule, ruleHere, ruleMade⟩ := exists_of_forall₂ rules letters
  obtain ⟨step, stepHere, stepMade⟩ := exists_of_forall₂ readable letters
  obtain ⟨current, currentHere, sameRule, maxWidth⟩ := ReadStep.getElem?_bounded stepHere
  have positive : 0 < width :=
    Token.hasWidth_ofPattern scanned _ (List.mem_of_getElem? letters) 'n' width rfl
  obtain ⟨ruleIs, few⟩ := ruleMade.fraction
  have readIs := stepMade.fraction
  obtain ⟨stepWidth, unbounded⟩ := stepMade.widths
  have numeric : ReadRule.fraction.isNumeric = true := rfl
  rw [readIs, numeric, Bool.true_and, ReadStep.any_getElem?_isNumeric readable, unbounded,
    stepWidth 'n' width rfl] at maxWidth
  have fraction : current.rule = .fraction := sameRule.trans readIs
  refine ⟨rule, current, ruleHere, bounded ▸ currentHere, ⟨positive, few⟩, maxWidth,
    fun text rest found => readStep_fraction_iff fraction, fun digits => billionths_spec, ?_⟩
  intro fields nonneg small
  have written := WriteRule.write_fraction fields positive few
  rw [← ruleIs] at written
  have length : (rule.write fields).length = width := by rw [written, length_last]
  refine ⟨length, fun c listed => isAsciiDigit_last (written ▸ listed), fun rest apart => ?_⟩
  refine readStep_nanos format.reader ruleMade stepMade sameRule ?_ ⟨nonneg, small⟩
  -- Before another number the piece fills its width, and elsewhere no digit follows it.
  rw [maxWidth, Apart]
  by_cases next : tokens[place + 1]?.any Token.isNumeric = true
  · rw [if_pos next, if_neg (by omega), length]
  · rw [if_neg next, if_pos rfl]
    exact apart.resolve_left next

/-- Four digits of nanoseconds are read in front of a number, and nothing of that number. -/
theorem fraction_exact_capped :
    ∃ format after step, FormatCache.builtin.registry.Faithful ∧
      compile "nnnnss" .utc .americanEnglish none FormatCache.builtin.registry =
        .ok format after ∧
      Token.ofPattern "nnnnss" = .ok [.letters 'n' 4, .letters 's' 2] ∧
      format.reader.steps[0]? = some step ∧
      format.reader.readStep step "123459".toList =
        .ok ([.value .nanoOfSecond 123400000], "59".toList) := by
  -- The four digits are written first, and the general statement reads them back before the
  -- seconds.
  have faithful : FormatCache.builtin.registry.Faithful := Registry.faithful_new rfl rfl
  have scanned : Token.ofPattern "nnnnss" = .ok [.letters 'n' 4, .letters 's' 2] := rfl
  obtain ⟨format, after, compiled, writes⟩ : ∃ format after,
      compile "nnnnss" .utc .americanEnglish none FormatCache.builtin.registry =
        .ok format after ∧ format.rules[0]? = some (.fraction 4) := ⟨_, _, rfl, rfl⟩
  obtain ⟨rule, step, ruleHere, stepHere, -, -, -, -, written⟩ :=
    fraction_exact faithful compiled scanned 0 rfl
  -- The rule that was compiled is the one that the statement is about.
  cases writes.symm.trans ruleHere
  obtain ⟨-, -, read⟩ := written (.ofInstant ⟨0, 123456789⟩ .utc ⟨.gregorian, ⟨1, 1⟩⟩)
    (by decide) (by decide)
  exact ⟨format, after, step, faithful, compiled, scanned, stepHere, read "59".toList (.inl rfl)⟩

end Format

end DatePattern
