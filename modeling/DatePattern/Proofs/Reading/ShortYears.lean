import DatePattern.Proofs.Reading.Readable
import DatePattern.Proofs.Reading.Token
import Mathlib.Data.Set.Function

/-! Years of two digits: the window of a hundred years that they are placed in. -/

namespace DatePattern

namespace Reader

variable (reader : Reader)

/-- A year that is placed in the window keeps its last two digits. -/
theorem placeYear_emod (year : Int) : reader.placeYear year % 100 = year % 100 := by
  -- Only whole centuries are added.
  simp only [placeYear]
  split <;> omega

/-- A year of the window is what its last two digits are placed as. -/
theorem placeYear_of_window {year : Int} (begun : reader.windowStart ≤ year)
    (ends : year < reader.windowStart + 100) : reader.placeYear (year % 100) = year := by
  -- No two years of the window have the same last digits.
  have placed := reader.placeYear_bounds (show 0 ≤ year % 100 by omega)
    (show year % 100 < 100 by omega)
  have digits := reader.placeYear_emod (year % 100)
  omega

/-- The years of two digits are placed one by one in the hundred years of the window. -/
theorem placeYear_bijOn : Set.BijOn reader.placeYear {year | 0 ≤ year ∧ year < 100}
    {year | reader.windowStart ≤ year ∧ year < reader.windowStart + 100} := by
  -- Placing keeps the last two digits and leads into a window of a hundred years.
  refine ⟨?_, ?_, ?_⟩
  · rintro year ⟨low, high⟩
    exact reader.placeYear_bounds low high
  · -- A placed year keeps its last two digits.
    rintro year ⟨low, high⟩ other ⟨otherLow, otherHigh⟩ same
    have digits := reader.placeYear_emod year
    have otherDigits := reader.placeYear_emod other
    rw [same] at digits
    omega
  · -- Every year of the window is the place of what its last two digits say.
    rintro year ⟨begun, ends⟩
    refine ⟨year % 100, ⟨?_, ?_⟩, reader.placeYear_of_window begun ends⟩ <;> omega

/-- A step that places a number below 100 in the window, and stores any other number as it is. -/
def PlacesYears (step : ReadStep) (field : Field) : Prop :=
  ∀ (text skipped digits rest : List Char) (number : Int),
    digitRun step.maxWidth text = (skipped, digits, rest) → digits ≠ [] →
    Digits.value digits = number → Count.Fits number →
    reader.readStep step text = .ok
      ([.value field (if number < 100 then reader.placeYear number else number)], rest)

end Reader

/-- The letters of years and of week years, with their fields. -/
def Token.yearLetters : List (Char × Field) := [('y', .year), ('Y', .weekYear)]

/-- The step of a year of one or two digits places years in the window. -/
theorem ReadStep.MadeFor.placesYears {source : LocaleData} {locale : Locale} {letter : Char}
    {width : Nat} {field : Field} {step : ReadStep}
    (made : MadeFor source locale (.letters letter width) step)
    (listed : (letter, field) ∈ Token.yearLetters) (short : width ≤ 2) (maxWidth : Nat)
    (reader : Reader) : reader.PlacesYears { step with maxWidth } field := by
  -- At such a width the rule is the one for abbreviated years, whose numbers are placed.
  have rule : step.rule = .number field .abbreviatedYear := by
    obtain ⟨-, -, before, after, -, -, ruled⟩ := made.rule
    have narrow : ¬2 < width := Nat.not_lt_of_le short
    generalize step.rule = rule at ruled ⊢
    simp only [Token.yearLetters, List.mem_cons, Prod.mk.injEq, List.not_mem_nil, or_false]
      at listed
    rcases listed with ⟨rfl, rfl⟩ | ⟨rfl, rfl⟩
    -- Both kinds of years have the same rule when they are short.
    all_goals
      simp only [ReadRule.ofLetter, if_neg narrow] at ruled
      cases ruled
      rfl
  intro text skipped digits rest number run some value fits
  simp only [Reader.readStep, rule, run, some, if_false, value, Count.within?_of_fits fits,
    Option.bind_some, Reader.modify?]

end DatePattern
