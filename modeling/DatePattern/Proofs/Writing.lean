import DatePattern.Proofs.Text.Digits
import DatePattern.Writing.Rule

/-! Laws of writing numbers: what a rule writes for a value of the usual size. -/

namespace DatePattern.WriteRule

/-- A value below one hundred is written in exactly two digits. -/
theorem write_twoDigit (fields : CalendarFields) (field : Field)
    (inside : 0 ≤ fields.get field ∧ fields.get field < 100) :
    (number (.twoDigit field)).write fields = Digits.two (fields.get field).toNat :=
  -- All other values would be padded instead.
  if_pos inside

/-- The number of a month is written in exactly two digits. -/
theorem write_twoDigitMonth {fields : CalendarFields}
    (inside : 0 ≤ fields.month ∧ fields.month < 99) :
    (number .twoDigitMonth).write fields = Digits.two (fields.month + 1).toNat :=
  -- Months are counted from zero, so that one is added before the places are counted.
  if_pos (show 0 ≤ fields.month + 1 ∧ fields.month + 1 < 100 by omega)

/-- A fraction is written in as many digits as its width, which are the first digits of the nanoseconds. -/
theorem write_fraction (fields : CalendarFields) {width : Nat} (positive : 0 < width)
    (few : width ≤ 9) : (fraction width).write fields =
      Digits.last width
        ((max 0 (min fields.nanoOfSecond 999999999)).toNat / Digits.power (9 - width)) := by
  obtain ⟨nanos, held⟩ := Int.eq_ofNat_of_zero_le
    (show 0 ≤ max 0 (min fields.nanoOfSecond 999999999) by omega)
  have small : nanos < Digits.power 9 := by
    simp only [Digits.power]
    omega
  -- The digits that are cut off leave no more than the width.
  have below := Digits.div_power_lt small few
  simp only [write, held, Int.toNat_natCast, ← Int.natCast_ediv]
  exact Digits.padded_eq_last positive (Nat.le_trans few (by decide)) below

end DatePattern.WriteRule
