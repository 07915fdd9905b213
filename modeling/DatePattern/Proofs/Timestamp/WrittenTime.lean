import DatePattern.Proofs.Timestamp.Kept
import DatePattern.Proofs.Words
import DatePattern.Proofs.Writing

/-!
Written times: the time of a layout tells the reading of the clock.

Within the day the parts of a time are plain quotients and remainders. What lies before the beginning of the day is
divided towards zero, so that its minutes, seconds and nanoseconds are negative and wrap around as words.
-/

namespace DatePattern

namespace Encoder

variable {encoder : Encoder}

/-- The milliseconds in the last digit of the fraction, one if the fraction goes on after them. -/
def lastPlace (encoder : Encoder) : Int := (Digits.power (3 - encoder.fractionDigits) : Nat)

/-- The fraction of a reading, in units of the last digit that is written. -/
def fractionOf (encoder : Encoder) (wall : Int) (nanoOfMilli : Nat) : Nat :=
  ((wall % 1000).toNat * 1000000 + nanoOfMilli) / Digits.power (9 - encoder.fractionDigits)

/-- One digit, or up to nine of them. -/
theorem digits_cases {digits : Nat} (some : 1 ≤ digits) (few : digits ≤ 9) :
    digits = 1 ∨ digits = 2 ∨ digits = 3 ∨ digits = 4 ∨ digits = 5 ∨ digits = 6 ∨ digits = 7 ∨
      digits = 8 ∨ digits = 9 := by
  omega

/-- The fraction fits into its digits. -/
theorem fractionOf_lt (few : encoder.fractionDigits ≤ 9)
    (wall : Int) {nanoOfMilli : Nat} (nanos : nanoOfMilli < 1000000) :
    encoder.fractionOf wall nanoOfMilli < Digits.power encoder.fractionDigits := by
  -- Milliseconds and nanoseconds are less than a second, of which the last places are cut off.
  simp only [fractionOf]
  have below : (wall % 1000).toNat * 1000000 + nanoOfMilli < Digits.power 9 :=
    (show _ < 1000000000 by omega)
  exact Digits.div_power_lt below few

/-- The fraction of a time of day is that of the whole reading. -/
theorem fractionOf_emod_day (wall : Int) (nanos : Nat) :
    encoder.fractionOf (wall % 86400000) nanos = encoder.fractionOf wall nanos := by
  -- A day is a whole number of seconds.
  rw [fractionOf, fractionOf, show wall % 86400000 % 1000 = wall % 1000 by omega]

/-- The fraction depends on what the milliseconds leave of the reading. -/
theorem fraction_congr {wall other : Int} (same : wall.tmod 1000 = other.tmod 1000)
    (nanoOfMilli : Nat) : encoder.fraction wall nanoOfMilli = encoder.fraction other nanoOfMilli := by
  -- The milliseconds are the only part of the reading that the fraction looks at.
  simp only [fraction, same]

/-- Within the day nothing wraps around, and the fraction is the plain one. -/
theorem fraction_of_nonneg {wall : Int} (nonneg : 0 ≤ wall) {nanoOfMilli : Nat}
    (nanos : nanoOfMilli < 1000000) :
    encoder.fraction wall nanoOfMilli = encoder.fractionOf wall nanoOfMilli := by
  -- The milliseconds and the nanoseconds made of them are far smaller than a word.
  have rest : Count.word 18446744073709551616 (wall.tmod 1000) = (wall % 1000).toNat := by
    have cast : wall.tmod 1000 = ((wall % 1000).toNat : Int) := by
      rw [Int.tmod_eq_emod_of_nonneg nonneg]
      omega
    rw [cast, Count.word_natCast (by omega)]
  have whole : Count.word 18446744073709551616
      ((wall % 1000).toNat * 1000000 + nanoOfMilli : Nat) =
        (wall % 1000).toNat * 1000000 + nanoOfMilli := Count.word_natCast (by omega)
  have small : encoder.fractionOf wall nanoOfMilli < 1000000000 :=
    Nat.lt_of_le_of_lt (Nat.div_le_self _ _) (by omega)
  rw [fraction, rest, whole, ← fractionOf, Count.ofWord_of_small (by omega)]

/-- Before the beginning of the day the nanoseconds missing to the next second are taken off the words. -/
theorem word_of_negative {wall : Int} (negative : wall.tmod 1000 < 0) {nanoOfMilli : Nat}
    (nanos : nanoOfMilli < 1000000) :
    Count.word 18446744073709551616
        (Count.word 18446744073709551616 (wall.tmod 1000) * 1000000 + nanoOfMilli : Nat) =
      18446744073709551616 - ((wall.tmod 1000).natAbs * 1000000 - nanoOfMilli) := by
  obtain ⟨size, positive, small, isSize⟩ :
      ∃ size : Nat, 0 < size ∧ size < 1000 ∧ wall.tmod 1000 = -(size : Int) := by
    have parts := Count.tdiv_tmod wall 1000
    exact ⟨(wall.tmod 1000).natAbs, by omega, by omega, by omega⟩
  rw [isSize, Count.word_neg positive (by omega), Int.natAbs_neg, Int.natAbs_natCast]
  -- Of the multiples of a word that come from the product only the last one is left.
  have product : (((18446744073709551616 - size) * 1000000 + nanoOfMilli : Nat) : Int) =
      ((18446744073709551616 - (size * 1000000 - nanoOfMilli) : Nat) : Int) +
        999999 * (18446744073709551616 : Nat) := by
    omega
  rw [Count.word, product, Int.add_mul_emod_self_right, ← Count.word,
    Count.word_natCast (by omega)]

/-- Before the beginning of the day the fraction is longer than its digits. -/
theorem lt_length_fraction (some : 1 ≤ encoder.fractionDigits) (few : encoder.fractionDigits ≤ 9)
    {wall : Int} (negative : wall.tmod 1000 < 0) {nanoOfMilli : Nat}
    (nanos : nanoOfMilli < 1000000) :
    encoder.fractionDigits <
      (Digits.padded (encoder.fraction wall nanoOfMilli) encoder.fractionDigits).length := by
  -- What is missing to a full word is less than a second, so that the word has all of its digits.
  obtain ⟨missing, positive, fewer, isMissing⟩ : ∃ missing : Nat, 0 < missing ∧
      missing < 1000000000 ∧ (wall.tmod 1000).natAbs * 1000000 - nanoOfMilli = missing := by
    have parts := Count.tdiv_tmod wall 1000
    exact ⟨_, by omega, by omega, rfl⟩
  rw [fraction, word_of_negative negative nanos, isMissing]
  by_cases nine : encoder.fractionDigits = 9
  · -- All nine digits leave the word as it is, and as a count it is negative.
    rw [nine, show Digits.power (9 - 9) = 1 from rfl, Nat.div_one,
      Count.ofWord_of_large positive (by omega), Digits.padded_neg (by omega),
      List.length_cons, Digits.length_padded]
    omega
  · -- Any fewer digits leave a quotient that is a count of more digits than are asked for.
    have longer : Digits.power encoder.fractionDigits ≤
        (18446744073709551616 - missing) / Digits.power (9 - encoder.fractionDigits) ∧
        (18446744073709551616 - missing) / Digits.power (9 - encoder.fractionDigits) <
          9223372036854775808 := by
      rcases digits_cases some few with d | d | d | d | d | d | d | d | d
      rotate_right
      · exact absurd d nine
      all_goals
        simp only [d, Digits.power, Nat.reduceSub, Nat.reduceMul]
        omega
    generalize (18446744073709551616 - missing) / Digits.power (9 - encoder.fractionDigits) =
      quotient at longer
    rw [Count.ofWord_of_small longer.2, Digits.length_padded]
    have more := mt (Digits.count_le_iff some (by omega)).mp (Nat.not_lt.mpr longer.1)
    omega

/-- A time of the day in its parts, each of which is a plain quotient or remainder. -/
theorem writeTime_eq {wall : Int} (nonneg : 0 ≤ wall) {nanoOfMilli : Nat}
    (nanos : nanoOfMilli < 1000000) :
    encoder.writeTime wall nanoOfMilli =
      Digits.padded (wall / 3600000) 2 ++ (encoder.layout.timeSeparator.toList ++
        (Digits.two (wall / 60000 % 60).toNat ++ (encoder.layout.timeSeparator.toList ++
          (Digits.two (wall / 1000 % 60).toNat ++ (encoder.layout.fractionSeparator.toList ++
            Digits.padded (encoder.fractionOf wall nanoOfMilli : Nat)
              encoder.fractionDigits))))) := by
  -- Division towards zero rounds down here, and minutes and seconds are small words.
  have part : ∀ unit : Int, 0 < unit →
      Digits.twoOfWord (Count.word 4294967296 ((wall.tdiv unit).tmod 60)) =
        Digits.two (wall / unit % 60).toNat := by
    intro unit positive
    have quotient : 0 ≤ wall / unit := Int.ediv_nonneg nonneg (Int.le_of_lt positive)
    have small : Count.word 4294967296 (wall / unit % 60) = (wall / unit % 60).toNat := by
      rw [show wall / unit % 60 = ((wall / unit % 60).toNat : Int) by omega,
        Count.word_natCast (by omega), Int.toNat_natCast]
    rw [Int.tdiv_eq_ediv_of_nonneg nonneg, Int.tmod_eq_emod_of_nonneg quotient, small,
      Digits.twoOfWord_eq_two (by omega)]
  rw [writeTime, part 60000 (by decide), part 1000 (by decide),
    Int.tdiv_eq_ediv_of_nonneg nonneg, fraction_of_nonneg nonneg nanos]
  simp only [List.append_assoc]

/-- Hours, minutes, seconds and milliseconds make up a reading, all of them with its sign. -/
private theorem clock_parts (wall : Int) :
    wall.tdiv 3600000 * 3600000 + (wall.tdiv 60000).tmod 60 * 60000 +
      (wall.tdiv 1000).tmod 60 * 1000 + wall.tmod 1000 = wall := by
  have ofNat : ∀ size : Nat,
      (size : Int).tdiv 3600000 * 3600000 + ((size : Int).tdiv 60000).tmod 60 * 60000 +
        ((size : Int).tdiv 1000).tmod 60 * 1000 + (size : Int).tmod 1000 = size := by
    intro size
    rw [Int.tdiv_eq_ediv_of_nonneg (by omega), Int.tdiv_eq_ediv_of_nonneg (by omega),
      Int.tdiv_eq_ediv_of_nonneg (by omega), Int.tmod_eq_emod_of_nonneg (by omega),
      Int.tmod_eq_emod_of_nonneg (by omega), Int.tmod_eq_emod_of_nonneg (by omega)]
    omega
  -- A negative reading has the parts of its magnitude, each of them negated.
  obtain ⟨size, rfl | rfl⟩ := Int.eq_nat_or_neg wall
  · exact ofNat size
  · have whole := ofNat size
    simp only [Int.neg_tdiv, Int.neg_tmod]
    omega

/-- The hours of a reading of a few days have few digits. -/
private theorem hours_small {wall : Int} (small : wall.natAbs < 1000000000) :
    (wall.tdiv 3600000).natAbs < Digits.power 20 := by
  -- Dividing makes the reading no larger.
  have twenty : 1000000000 < Digits.power 20 := by decide
  rw [Int.natAbs_tdiv]
  exact Nat.lt_of_le_of_lt (Nat.div_le_self _ _) (by omega)

/-- Readings that leave the same milliseconds are told by their times. -/
private theorem wall_of_rest {wall other : Int} {nanoOfMilli : Nat}
    (small : wall.natAbs < 1000000000) (small' : other.natAbs < 1000000000)
    (rest : wall.tmod 1000 = other.tmod 1000)
    (same : encoder.writeTime wall nanoOfMilli = encoder.writeTime other nanoOfMilli) :
    wall = other := by
  rw [writeTime, writeTime, fraction_congr rest] at same
  -- The fractions are the same, and the parts before them are taken off one by one.
  obtain ⟨same, -⟩ := List.append_inj' same rfl
  obtain ⟨same, -⟩ := List.append_inj' same rfl
  obtain ⟨same, seconds⟩ := List.append_inj' same rfl
  obtain ⟨same, -⟩ := List.append_inj' same rfl
  obtain ⟨same, minutes⟩ := List.append_inj' same rfl
  obtain ⟨hours, -⟩ := List.append_inj' same rfl
  have below : ∀ n : Int, (n.tmod 60).natAbs < 60 := by
    intro n
    rw [Int.natAbs_tmod]
    exact Nat.mod_lt _ (by decide)
  -- Each part is told by its own characters, and together with the milliseconds they make up the
  -- reading.
  have hour := Digits.padded_inj (hours_small small) (hours_small small') hours
  have minute := Count.word_inj (below _) (below _) minutes
  have second := Count.word_inj (below _) (below _) seconds
  rw [← clock_parts wall, ← clock_parts other, hour, minute, second, rest]

/-- A reading before the day is not written as one of the day that differs from it by whole seconds. -/
private theorem writeTime_ne_of_negative (some : 1 ≤ encoder.fractionDigits)
    (few : encoder.fractionDigits ≤ 9) {wall other : Int} {nanoOfMilli : Nat}
    (nanos : nanoOfMilli < 1000000) (nonneg : 0 ≤ wall) (small : wall.natAbs < 1000000000)
    (negative : other.tmod 1000 < 0) :
    encoder.writeTime wall nanoOfMilli ≠ encoder.writeTime other nanoOfMilli := by
  -- The time of the day has hours, minutes and seconds of their usual lengths, and a fraction of
  -- its digits.
  intro same
  have own : (Digits.padded (encoder.fraction wall nanoOfMilli) encoder.fractionDigits).length =
      encoder.fractionDigits := by
    rw [fraction_of_nonneg nonneg nanos,
      Digits.padded_eq_last some (by omega) (fractionOf_lt few wall nanos), Digits.length_last]
  have longer := lt_length_fraction some few negative nanos
  obtain ⟨hours, hoursIs, hoursFew⟩ :
      ∃ hours : Nat, wall.tdiv 3600000 = hours ∧ hours < 1000 := by
    rw [Int.tdiv_eq_ediv_of_nonneg nonneg]
    exact ⟨(wall / 3600000).toNat, by omega, by omega⟩
  have hoursLength : Digits.count hours ≤ 3 :=
    (Digits.count_le_iff (by decide) (by decide)).mpr hoursFew
  have lengths := congrArg List.length same
  simp only [writeTime, List.append_assoc, hoursIs] at same lengths
  simp only [List.length_append, Digits.length_twoOfWord, own, Digits.length_padded] at lengths
  -- The hours of the other reading are zero or begin with a minus sign.
  rcases Int.lt_or_eq_of_le (show other.tdiv 3600000 ≤ 0 by
      have parts := Count.tdiv_tmod other 3600000
      have parts' := Count.tdiv_tmod other 1000
      omega) with before | zero
  · rw [Digits.padded_neg before] at same
    exact Digits.padded_ne_minus _ _ _ _ same
  · -- Its longer fraction has to be made up for by hours of the day that begin with no zero.
    rw [zero] at same lengths
    have two : Digits.padded 0 2 = ['0', '0'] := by decide
    rw [two] at same lengths
    simp only [List.length_cons, List.length_nil] at lengths
    refine Digits.padded_of_longer ?_ Nat.two_pos ?_ _ _ same
    · have twenty : 1000 < Digits.power 20 := by decide
      omega
    · rw [Digits.length_padded]
      omega

/-- Readings of a few days that differ by whole seconds are told by their times. -/
theorem writeTime_inj (some : 1 ≤ encoder.fractionDigits) (few : encoder.fractionDigits ≤ 9)
    {wall other : Int} {nanoOfMilli : Nat} (nanos : nanoOfMilli < 1000000)
    (small : wall.natAbs < 1000000000) (small' : other.natAbs < 1000000000)
    (seconds : wall % 1000 = other % 1000)
    (same : encoder.writeTime wall nanoOfMilli = encoder.writeTime other nanoOfMilli) :
    wall = other := by
  have rest := Count.tdiv_tmod wall 1000
  have rest' := Count.tdiv_tmod other 1000
  by_cases alike : wall.tmod 1000 = other.tmod 1000
  · exact wall_of_rest small small' alike same
  -- Otherwise just one of the two lies before the beginning of the day.
  by_cases nonneg : 0 ≤ wall
  · exact absurd same (writeTime_ne_of_negative some few nanos nonneg small (by omega))
  · exact absurd same.symm
      (writeTime_ne_of_negative some few nanos (show 0 ≤ other by omega) small' (by omega))

end Encoder

end DatePattern
