import DatePattern.Count
import DatePattern.Proofs.Text.Digits
import Mathlib.Algebra.Group.Nat.Defs

/-!
Writing numbers into a buffer, by a table of the powers of ten.

The digits are counted by walking up the table, and written by dividing the power that was reached by ten again and again.
A look beyond the table has no answer; none is ever taken, and the buffer grows by the number as it is written elsewhere.
-/

namespace DatePattern.Digits

/-- The powers of ten that a magnitude of 64 bits can reach, each at the place of its exponent. -/
def powers : List Nat :=
  [1, 10, 100, 1000, 10000, 100000, 1000000, 10000000, 100000000, 1000000000, 10000000000,
    100000000000, 1000000000000, 10000000000000, 100000000000000, 1000000000000000,
    10000000000000000, 100000000000000000, 1000000000000000000, 10000000000000000000]

/-- The count of digits, where the table is walked up from a place on as long as the number reaches it. -/
def countFrom? (n places : Nat) : Option Nat :=
  if places < powers.length then do
    let power ← powers[places]?
    if power ≤ n then countFrom? n (places + 1) else return places
  else return places
termination_by powers.length - places

/-- A buffer with the digits of a number added, from the place of a divisor down to the last one. -/
def pushFrom (buffer : List Char) (n divisor : Nat) : List Char :=
  if divisor = 0 then buffer
  else pushFrom (buffer ++ [Nat.digitChar (n / divisor % 10)]) n (divisor / 10)

/-- A buffer with a number added in at least `width` digits, after a minus sign that is not counted. -/
def push? (buffer : List Char) (value : Int) (width : Nat) : Option (List Char) := do
  let signed := if value < 0 then buffer ++ ['-'] else buffer
  let digits ← countFrom? value.natAbs 1
  -- The first divisor is the lowest power of ten with as many digits as the number.
  let divisor ← powers[digits - 1]?
  return pushFrom (signed ++ List.replicate (width - digits) '0') value.natAbs divisor

/-- The values of the decimal places are the powers of ten. -/
theorem power_eq_pow (places : Nat) : power places = 10 ^ places := by
  -- Each place is worth ten times as much as the one below it.
  induction places with
  | zero => rfl
  | succ places ih => rw [power, ih, Nat.pow_succ, Nat.mul_comm]

/-- The table has the value of each decimal place that it covers. -/
theorem getElem?_powers {places : Nat} (inside : places < 20) :
    powers[places]? = some (power places) := by
  -- Every entry of the table is ten times the one before it.
  have table : powers = (List.range 20).map power := by decide
  rw [table, List.getElem?_map, List.getElem?_range inside, Option.map_some]

/-- Walking up the table ends at the count of digits. -/
theorem countFrom?_eq {n places : Nat} (positive : 0 < places) (reached : places ≤ count n) :
    countFrom? n places = some (count n) := by
  -- No place above the count of digits is ever reached, which is at most the end of the table.
  have length : powers.length = 20 := rfl
  have most := count_le n
  unfold countFrom?
  by_cases inside : places < 20
  · have fewer := count_le_iff (n := n) positive (Nat.le_of_lt_succ inside)
    rw [length, if_pos inside, getElem?_powers inside, Option.bind_eq_bind, Option.bind_some]
    by_cases larger : power places ≤ n
    · -- The number has more digits than there are places below, so that the next place is reached too.
      rw [if_pos larger]
      exact countFrom?_eq (Nat.succ_pos places) (by omega)
    · rw [if_neg larger]
      exact congrArg some (by omega)
  · rw [length, if_neg inside]
    exact congrArg some (by omega)
termination_by 20 - places

/-- Dividing the value of a place by ten until nothing is left adds each of the last places once. -/
theorem pushFrom_power (buffer : List Char) (n places : Nat) :
    pushFrom buffer n (power places) = buffer ++ last (places + 1) n := by
  -- The first digit is that of the highest place, and the divisor is then the value of the next one.
  induction places generalizing buffer with
  | zero =>
    rw [pushFrom, if_neg (by decide), pushFrom, if_pos (by decide)]
    rfl
  | succ places ih =>
    have next : power (places + 1) / 10 = power places := Nat.mul_div_cancel_left _ (by decide)
    rw [pushFrom, if_neg (Nat.ne_of_gt (power_pos _)), next, ih, List.append_assoc]
    rfl

/-- The buffer grows by the number as it is written, and no look goes beyond the table. -/
theorem push?_eq (buffer : List Char) (value : Int) (width : Nat) :
    push? buffer value width = some (buffer ++ padded value width) := by
  -- The first place is always reached, and the divisor then stands at the place before the count.
  have counted := countFrom?_eq (Nat.le_refl 1) (count_pos value.natAbs)
  have inside : count value.natAbs - 1 < 20 := by
    have := count_le value.natAbs
    omega
  have places : count value.natAbs - 1 + 1 = count value.natAbs :=
    Nat.sub_add_cancel (count_pos value.natAbs)
  simp only [push?, counted, getElem?_powers inside, pushFrom_power, places, Option.bind_eq_bind,
    Option.bind_some]
  by_cases negative : value < 0 <;> simp [padded, negative]

/-- A magnitude of 64 bits has as many digits as its shortest decimal text. -/
theorem count_eq_length_toDigits {n : Nat} (small : n < power 20) :
    count n = (Nat.toDigits 10 n).length := by
  -- Both are at most a number of places just if the magnitude is below that power of ten.
  have positive : 0 < (Nat.toDigits 10 n).length := Nat.length_toDigits_pos
  have shortest (places : Nat) (some : 0 < places) :
      (Nat.toDigits 10 n).length ≤ places ↔ n < power places := by
    rw [power_eq_pow]
    exact Nat.length_toDigits_le_iff (by decide) some
  have upper := (shortest (count n) (count_pos n)).mpr (lt_power_count small)
  have lower : count n ≤ (Nat.toDigits 10 n).length := by
    -- Only up to 19 places is the count told by powers of ten, and beyond them it is twenty at most.
    by_cases few : (Nat.toDigits 10 n).length ≤ 19
    · exact (count_le_iff positive few).mpr ((shortest _ positive).mp (Nat.le_refl _))
    · have := count_le n
      omega
  exact Nat.le_antisymm lower upper

/--
A number is added to a buffer exactly: after what was there comes a minus sign if it is negative, and then digits.

The digits are as many as the width, or as the number has if those are more, and they denote its magnitude. Magnitudes
of 64 bits are counted right up to the greatest one.
-/
theorem push?_exact {value : Int} (fits : Count.Fits value) {magnitude : Nat}
    (word : magnitude < 18446744073709551616) (buffer : List Char) (width : Nat) :
    (∃ digits,
      push? buffer value width = some (buffer ++ (if value < 0 then ['-'] else []) ++ digits) ∧
      padded value width = (if value < 0 then ['-'] else []) ++ digits ∧
      digits.length = max width (Nat.toDigits 10 value.natAbs).length ∧
      (∀ c ∈ digits, Text.isAsciiDigit c = true) ∧ Digits.value digits = value.natAbs) ∧
    countFrom? magnitude 1 = some (count magnitude) ∧
      count magnitude = (Nat.toDigits 10 magnitude).length := by
  -- No magnitude of 64 bits has more than the twenty digits of the table.
  have most : power 20 = 100000000000000000000 := rfl
  have small : value.natAbs < power 20 := by
    simp only [Count.Fits, Count.least, Count.greatest] at fits
    omega
  -- The sign stands before everything that the width counts.
  have written : padded value width =
      (if value < 0 then ['-'] else []) ++ padded value.natAbs width := by
    by_cases negative : value < 0
    · rw [if_pos negative, padded_neg negative]
      rfl
    · rw [if_neg negative, List.nil_append, Int.natAbs_of_nonneg (Int.not_lt.mp negative)]
  refine ⟨⟨padded value.natAbs width, ?_, written, ?_, fun c listed => isAsciiDigit_padded listed,
    value_padded small width⟩, countFrom?_eq (Nat.le_refl 1) (count_pos magnitude), ?_⟩
  · rw [push?_eq, written, List.append_assoc]
  · rw [length_padded, count_eq_length_toDigits small]
  · exact count_eq_length_toDigits (by omega)

/-- The least count of 64 bits has 19 digits, which two zeros precede in 21, and the greatest magnitude has twenty. -/
theorem push?_exact_least :
    Count.Fits Count.least ∧ 18446744073709551615 < 18446744073709551616 ∧
      (∃ digits, push? ['<'] Count.least 21 = some ('<' :: '-' :: digits) ∧
        digits.length = 21 ∧ value digits = 9223372036854775808) ∧
      countFrom? 18446744073709551615 1 = some 20 := by
  have fits : Count.Fits Count.least := by decide
  have word : 18446744073709551615 < 18446744073709551616 := by decide
  -- Both counts follow from the digits of the numbers, by the general theorem.
  obtain ⟨⟨digits, pushed, -, length, -, denoted⟩, counted, places⟩ :=
    push?_exact fits word ['<'] 21
  have twenty : (Nat.toDigits 10 18446744073709551615).length = 20 := by decide
  have nineteen : (Nat.toDigits 10 Count.least.natAbs).length = 19 := by decide
  rw [nineteen] at length
  refine ⟨fits, word, ⟨digits, pushed, length, denoted⟩, ?_⟩
  rw [counted, places, twenty]

end DatePattern.Digits
