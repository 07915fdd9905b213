import DatePattern.Proofs.Timestamp.TimeOfDay
import DatePattern.Proofs.Timestamp.WrittenTime

/-!
Instants that are judged to be written alike: when one text serves for both, whatever was written before.

It does for every reading of the day. Before the beginning of the day the fraction wraps around, and may tell apart
nanoseconds of one millisecond that it should leave aside.
-/

namespace DatePattern

/-- Instants of one second and one millisecond of it are of one millisecond of all. -/
theorem Instant.millis_congr {first second : Instant} (sameSecond : first.second = second.second)
    (sameMilli : first.nano / 1000000 = second.nano / 1000000) : first.millis = second.millis := by
  -- The milliseconds are made of just these two numbers.
  rw [millis, millis, sameSecond, sameMilli]

namespace Encoder

variable {encoder : Encoder}

/-- A fraction of three digits at most leaves the nanoseconds past the millisecond aside. -/
theorem fractionOf_eq_of_few (few : encoder.fractionDigits ≤ 3) (wall : Int) {nanoOfMilli : Nat}
    (nanos : nanoOfMilli < 1000000) :
    encoder.fractionOf wall nanoOfMilli =
      (wall % 1000).toNat / Digits.power (3 - encoder.fractionDigits) := by
  -- The last place that is written is one of whole milliseconds.
  have places : 9 - encoder.fractionDigits = 6 + (3 - encoder.fractionDigits) := by omega
  have million : Digits.power 6 = 1000000 := by decide
  have whole : ((wall % 1000).toNat * 1000000 + nanoOfMilli) / 1000000 = (wall % 1000).toNat := by
    omega
  rw [fractionOf, places, Digits.power_add, million, ← Nat.div_div_eq_div_mul, whole]

/-- Instants judged alike are of one millisecond, and equal where nanoseconds are written. -/
theorem sameText_iff {first second : Instant} :
    encoder.sameText first.second first.nano second.second second.nano = true ↔
      first.second = second.second ∧ first.nano / 1000000 = second.nano / 1000000 ∧
        (3 < encoder.fractionDigits → first.nano = second.nano) := by
  rw [sameText, Bool.and_eq_true, beq_iff_eq]
  refine and_congr_right fun _ => ?_
  -- Up to three digits of the fraction show milliseconds only.
  split
  next few =>
    rw [beq_iff_eq]
    exact ⟨fun same => ⟨same, fun many => absurd few (Nat.not_le.mpr many)⟩, fun same => same.1⟩
  next many =>
    rw [beq_iff_eq]
    exact ⟨fun same => ⟨by rw [same], fun _ => same⟩, fun same => same.2 (Nat.not_le.mp many)⟩

/-- The nanoseconds past a millisecond from which on a fraction that wraps around is larger by one. -/
def turningNanos : Nat := 1000000 - 18446744073709551616 % 1000000

/--
Whether two counts of nanoseconds past the millisecond of a reading are written in one text.

They are on a reading of the day or of a whole second. Otherwise the fraction is taken from a word that has wrapped
around, where the nanoseconds may turn the last digit that is written.
-/
def WritesAlike (encoder : Encoder) (wall : Int) (nanos otherNanos : Nat) : Prop :=
  0 ≤ wall ∨ wall % 1000 = 0 ∨ ¬encoder.lastPlace ∣ wall + 10 ∨
    (nanos < turningNanos ↔ otherNanos < turningNanos)

instance (encoder : Encoder) (wall : Int) (nanos otherNanos : Nat) :
    Decidable (encoder.WritesAlike wall nanos otherNanos) :=
  inferInstanceAs (Decidable (_ ∨ _))

/-- A fraction of three digits at most leaves the nanoseconds aside if nothing wraps around. -/
theorem fraction_eq_of_few (few : encoder.fractionDigits ≤ 3) {wall : Int} {nanos otherNanos : Nat}
    (small : nanos < 1000000) (small' : otherNanos < 1000000) (unwrapped : 0 ≤ wall.tmod 1000) :
    encoder.fraction wall nanos = encoder.fraction wall otherNanos := by
  -- A reading of whole seconds before the day has the fraction of the beginning of the day.
  obtain ⟨reading, nonneg, same⟩ : ∃ reading : Int, 0 ≤ reading ∧
      wall.tmod 1000 = reading.tmod 1000 := by
    refine ⟨wall.tmod 1000, unwrapped, ?_⟩
    have parts := Count.tdiv_tmod wall 1000
    rw [Int.tmod_eq_emod_of_nonneg unwrapped]
    omega
  rw [fraction_congr same, fraction_congr same, fraction_of_nonneg nonneg small,
    fraction_of_nonneg nonneg small', fractionOf_eq_of_few few _ small,
    fractionOf_eq_of_few few _ small']

/-- A fraction of three digits at most that wraps around is a quotient of the word. -/
private theorem fraction_of_negative (some : 1 ≤ encoder.fractionDigits)
    (few : encoder.fractionDigits ≤ 3) {wall : Int} (negative : wall.tmod 1000 < 0) {nanos : Nat}
    (small : nanos < 1000000) :
    encoder.fraction wall nanos =
        ((18446744073709551616 - ((wall.tmod 1000).natAbs * 1000000 - nanos)) /
          Digits.power (9 - encoder.fractionDigits) : Nat) ∧
      (18446744073709551616 - ((wall.tmod 1000).natAbs * 1000000 - nanos)) /
        Digits.power (9 - encoder.fractionDigits) < 9223372036854775808 := by
  -- The word is divided as it is, and the quotient is too small to be taken for a negative count.
  have quotient : (18446744073709551616 - ((wall.tmod 1000).natAbs * 1000000 - nanos)) /
      Digits.power (9 - encoder.fractionDigits) < 9223372036854775808 := by
    -- At least six places are cut off.
    have places : Digits.power 6 ≤ Digits.power (9 - encoder.fractionDigits) :=
      Digits.power_mono (by omega)
    refine Nat.lt_of_le_of_lt (Nat.div_le_div_left places (Digits.power_pos 6)) ?_
    rw [show Digits.power 6 = 1000000 from rfl]
    omega
  rw [fraction, word_of_negative negative small, Count.ofWord_of_small quotient]
  exact ⟨rfl, quotient⟩

/-- A fraction that wraps around depends on whether the nanoseconds turn the last digit that is written. -/
private theorem fraction_eq_iff_of_negative (some : 1 ≤ encoder.fractionDigits)
    (few : encoder.fractionDigits ≤ 3) {wall : Int} (negative : wall.tmod 1000 < 0)
    {nanos otherNanos : Nat} (small : nanos < 1000000) (small' : otherNanos < 1000000) :
    encoder.fraction wall nanos = encoder.fraction wall otherNanos ↔
      ¬encoder.lastPlace ∣ wall + 10 ∨ (nanos < turningNanos ↔ otherNanos < turningNanos) := by
  have parts := Count.tdiv_tmod wall 1000
  have turning : turningNanos = 448384 := rfl
  rw [(fraction_of_negative some few negative small).1,
    (fraction_of_negative some few negative small').1, Int.natCast_inj, turning, lastPlace]
  -- What 2 to the 64 leaves of the last place decides which milliseconds the nanoseconds can turn.
  have digits : encoder.fractionDigits = 1 ∨ encoder.fractionDigits = 2 ∨
      encoder.fractionDigits = 3 := by omega
  rcases digits with d | d | d
  all_goals
    simp only [d, Digits.power, Nat.reduceSub, Nat.reduceMul]
    omega

/-- The fractions of a reading are alike for nanoseconds that it writes alike. -/
theorem fraction_eq_iff (some : 1 ≤ encoder.fractionDigits) (wall : Int) {nanos otherNanos : Nat}
    (small : nanos < 1000000) (small' : otherNanos < 1000000)
    (same : 3 < encoder.fractionDigits → nanos = otherNanos) :
    encoder.fraction wall nanos = encoder.fraction wall otherNanos ↔
      encoder.WritesAlike wall nanos otherNanos := by
  have parts := Count.tdiv_tmod wall 1000
  unfold WritesAlike
  by_cases many : 3 < encoder.fractionDigits
  · -- With more digits the nanoseconds are the same.
    simp [same many]
  by_cases negative : wall.tmod 1000 < 0
  · -- A broken second before the day is the case in which words wrap around.
    rw [fraction_eq_iff_of_negative some (by omega) negative small small']
    have before : ¬0 ≤ wall := by omega
    have broken : ¬wall % 1000 = 0 := by omega
    simp only [before, broken, false_or]
  · have alike : encoder.fraction wall nanos = encoder.fraction wall otherNanos :=
      fraction_eq_of_few (by omega) small small' (Int.not_lt.mp negative)
    have unwrapped : 0 ≤ wall ∨ wall % 1000 = 0 := by omega
    simp only [alike, true_iff]
    exact unwrapped.imp_right .inl

/-- A fraction is a count of 64 bits. -/
private theorem fraction_small (wall : Int) (nanos : Nat) :
    (encoder.fraction wall nanos).natAbs < Digits.power 20 := by
  -- A word is cast to a count, whatever its size.
  have twenty : 9223372036854775808 < Digits.power 20 := by decide
  exact Nat.lt_of_le_of_lt (Count.natAbs_ofWord_le _) twenty

/-- The times of a reading are alike for nanoseconds that it writes alike. -/
theorem writeTime_eq_iff (some : 1 ≤ encoder.fractionDigits) (wall : Int) {nanos otherNanos : Nat}
    (small : nanos < 1000000) (small' : otherNanos < 1000000)
    (same : 3 < encoder.fractionDigits → nanos = otherNanos) :
    encoder.writeTime wall nanos = encoder.writeTime wall otherNanos ↔
      encoder.WritesAlike wall nanos otherNanos := by
  rw [← fraction_eq_iff some wall small small' same]
  -- Everything before the fraction depends on the reading alone.
  simp only [writeTime, List.append_cancel_left_eq]
  exact ⟨Digits.padded_inj (fraction_small wall nanos) (fraction_small wall otherNanos),
    fun alike => by rw [alike]⟩

/-- The day to use for a moment stays the same once the moment was written. -/
theorem dayFor_keep (encoder : Encoder) (kept : Day) (millis : Int) :
    encoder.dayFor (encoder.keep kept millis) millis = encoder.dayFor kept millis := by
  -- The day for a moment is kept if it contains the moment, and only then.
  by_cases contained : (encoder.dayFor kept millis).Contains millis
  · have keeps : encoder.keep kept millis = encoder.dayFor kept millis := if_pos contained
    rw [keeps]
    exact if_pos contained
  · -- A day that does not even have its own moment is made anew each time.
    have keeps : encoder.keep kept millis = kept := if_neg contained
    rw [keeps]

/-- Writing a moment again changes the kept day no more. -/
theorem keep_keep (encoder : Encoder) (kept : Day) (millis : Int) :
    encoder.keep (encoder.keep kept millis) millis = encoder.keep kept millis := by
  -- What is kept after the moment is the day for it, which contains the moment as before.
  by_cases contained : (encoder.dayFor kept millis).Contains millis
  · have again : (encoder.dayFor (encoder.keep kept millis) millis).Contains millis := by
      rwa [dayFor_keep]
    have keeps : encoder.keep kept millis = encoder.dayFor kept millis := if_pos contained
    exact (if_pos again).trans ((encoder.dayFor_keep kept millis).trans keeps.symm)
  · have again : ¬(encoder.dayFor (encoder.keep kept millis) millis).Contains millis := by
      rwa [dayFor_keep]
    exact if_neg again

/-- An instant that was just written is written again in the same text, and the same day is kept. -/
theorem write_again (encoder : Encoder) (kept : Day) (instant : Instant) :
    encoder.write (encoder.write kept instant).2 instant = encoder.write kept instant := by
  -- The day that is used is the same again, and so is what is written by it.
  simp only [write, dayFor_keep, keep_keep]

/-- The day that is kept changes with each instant that is written. -/
theorem keptAfter_concat (encoder : Encoder) (history : List Instant) (instant : Instant) :
    encoder.keptAfter (history ++ [instant]) =
      (encoder.write (encoder.keptAfter history) instant).2 :=
  -- Instants are written in order, the last of them by what the others have left.
  List.foldl_concat ..

/-- Instants judged alike are of one moment, and keep the same day. -/
theorem keep_of_sameText {first second : Instant}
    (same : encoder.sameText first.second first.nano second.second second.nano = true)
    (kept : Day) : (encoder.write kept first).2 = (encoder.write kept second).2 := by
  -- The day depends on the moment alone.
  obtain ⟨sameSecond, sameMilli, -⟩ := sameText_iff.mp same
  simp only [write, Instant.millis_congr sameSecond sameMilli]

/-- By one kept day instants judged alike are written in one text if their nanoseconds are written alike. -/
theorem write_eq_iff_of_sameText (some : 1 ≤ encoder.fractionDigits) {first second : Instant}
    (same : encoder.sameText first.second first.nano second.second second.nano = true)
    (kept : Day) :
    (encoder.write kept first).1 = (encoder.write kept second).1 ↔
      encoder.WritesAlike (encoder.wallMillis (encoder.dayFor kept first.millis) first.millis)
        first.nanoOfMilli second.nanoOfMilli := by
  obtain ⟨sameSecond, sameMilli, sameNano⟩ := sameText_iff.mp same
  have millis := Instant.millis_congr sameSecond sameMilli
  rw [← writeTime_eq_iff some _ first.nanoOfMilli_lt second.nanoOfMilli_lt fun many => by
    rw [Instant.nanoOfMilli, Instant.nanoOfMilli, sameNano many]]
  -- The date and the offset are those of the moment, which is the same.
  simp only [write, ← millis, List.append_cancel_right_eq, List.append_cancel_left_eq]

/-- The clocks of Casey around the fifth of March 2010, when they went back by three hours at two o'clock. -/
private def casey2010 : Region :=
  ⟨"Antarctica/Casey", ⟨39600, 0⟩, [⟨1267714800, ⟨28800, 0⟩⟩]⟩

end Encoder

end DatePattern
