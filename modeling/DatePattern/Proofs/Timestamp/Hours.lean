import DatePattern.Proofs.Timestamp.Kept
import DatePattern.Proofs.Zone.Steps

/-!
The hours of a day: the offset by which an encoder tells the time, and when it is the offset of the zone.

An aligned day has one offset for each of its hours, the last of which goes on until the next midnight. The time is told
by the offset of the hour, counted from the reading at the beginning of the day.
-/

namespace DatePattern

namespace Day

/-- The hour of a day that a moment lies in, where hours past the last one belong to it. -/
def hourOf (day : Day) (millis : Int) : Nat := min ((millis - day.today) / 3600000).toNat 23

/-- The offset by which an aligned day tells the time at a moment. -/
def toldOffset (day : Day) (zone : Zone) (millis : Int) : Int :=
  zone.offsetAt day.today + day.shifts.getD (day.hourOf millis) 0

/-- The number of the local day that the clocks show at the midnight that begins a day. -/
def shownAtMidnight (day : Day) (zone : Zone) : Int :=
  (day.today + zone.offsetAt day.today) / 86400000

/-- What an aligned day consists of: its reading at the beginning, and its offsets hour by hour. -/
structure Tells (day : Day) (zone : Zone) : Prop where
  /-- The reading at the beginning is the one that the zone shows. -/
  wall : day.wall = (day.today + zone.offsetAt day.today) % 86400000
  /-- Either the offset is the same at both ends and does not move, or each hour begins and ends with its own. -/
  hours : zone.offsetAt day.today = zone.offsetAt (day.tomorrow - 1) ∧
      (∀ millis, day.toldOffset zone millis = zone.offsetAt day.today) ∨
    (∀ hour < 24, hourIsSteady zone day.today day.tomorrow hour = true) ∧
      ∀ millis, day.toldOffset zone millis =
        zone.offsetAt (day.today + day.hourOf millis * 3600000)

/-- The hour of a moment is one of those that a day has shifts for. -/
theorem hourOf_lt (day : Day) (millis : Int) : day.hourOf millis < 24 := by
  -- Hours past the last one count as the last one, whatever the moment is.
  unfold hourOf
  omega

/-- A day without changes has no shift at any hour. -/
theorem getD_noShifts (hour : Nat) : noShifts.getD hour 0 = 0 := by
  -- All shifts are zero, and so is the one that is assumed past the last of them.
  rw [noShifts, List.getD_eq_getElem?_getD, List.getElem?_replicate]
  split <;> rfl

/-- A day that is aligned when it is made has the moment for which it was made. -/
theorem contains_of_aligned {zone : Zone} {dateFormat : Option Format} {millis : Int}
    (aligned : (ofMillis zone dateFormat millis).aligned = true) :
    (ofMillis zone dateFormat millis).Contains millis := by
  rw [contains_ofMillis]
  simp only [ofMillis] at aligned
  split at aligned
  · -- A day that does not enclose its moment is not aligned.
    cases aligned
  · omega

/-- A day that is aligned when it is made tells the time hour by hour. -/
theorem tells_of_aligned {zone : Zone} {dateFormat : Option Format} {first : Int}
    (aligned : (ofMillis zone dateFormat first).aligned = true) :
    (ofMillis zone dateFormat first).Tells zone := by
  generalize dayIs : ofMillis zone dateFormat first = day at aligned
  simp only [ofMillis] at dayIs
  split at dayIs
  · -- A day that does not enclose its moment is not aligned.
    subst dayIs
    cases aligned
  -- Hour by hour the offsets are only looked at if those at the two ends differ.
  by_cases same : zone.offsetAt (midnight zone first 0) = zone.offsetAt (midnight zone first 1 - 1)
  · -- The shifts are all zero.
    simp only [same, ne_eq, not_true_eq_false, if_false] at dayIs
    subst dayIs
    refine ⟨by rw [same], .inl ⟨same, ?_⟩⟩
    intro millis
    rw [toldOffset, getD_noShifts, Int.add_zero]
  · simp only [same, ne_eq, not_false_eq_true, if_true] at dayIs
    subst dayIs
    refine ⟨rfl, .inr ⟨?_, ?_⟩⟩
    · intro hour early
      exact List.all_eq_true.mp aligned hour (List.mem_range.mpr early)
    · -- The shift of an hour is what its offset has over the one at the beginning.
      intro millis
      rw [toldOffset, List.getD_eq_getElem?_getD, List.getElem?_map,
        List.getElem?_range (Nat.lt_succ_of_lt (hourOf_lt _ millis)), Option.map_some,
        Option.getD_some]
      exact (Int.add_comm _ _).trans (Int.sub_add_cancel _ _)

/-- The offset that a day tells the time by is the offset of the zone at some moment. -/
theorem Tells.exists_offsetAt {day : Day} {zone : Zone} (tells : day.Tells zone) (millis : Int) :
    ∃ moment, day.toldOffset zone millis = zone.offsetAt moment := by
  -- It is the one at the beginning of the day or of the hour.
  rcases tells.hours with ⟨-, told⟩ | ⟨-, told⟩
  · exact ⟨_, told millis⟩
  · exact ⟨_, told millis⟩

/-- A moment of a day lies in its hour, which ends with the day at the latest. -/
theorem offsetAt_of_steady {zone : Zone} {day : Day} {millis : Int}
    (contained : day.Contains millis) (once : zone.ChangesOnce day.today day.tomorrow)
    (steady : hourIsSteady zone day.today day.tomorrow (day.hourOf millis) = true) :
    zone.offsetAt millis = zone.offsetAt (day.today + day.hourOf millis * 3600000) := by
  obtain ⟨begun, ended⟩ := contained
  simp only [hourIsSteady, Bool.or_eq_true, decide_eq_true_eq, beq_iff_eq] at steady
  -- The hour begins before the moment, and ends after it.
  have start : day.today + day.hourOf millis * 3600000 ≤ millis := by
    unfold hourOf
    omega
  have stop : millis < if day.hourOf millis = 23 then day.tomorrow else
      min (day.today + day.hourOf millis * 3600000 + 3600000) day.tomorrow := by
    unfold hourOf
    split <;> omega
  have before : (if day.hourOf millis = 23 then day.tomorrow else
      min (day.today + day.hourOf millis * 3600000 + 3600000) day.tomorrow) ≤ day.tomorrow := by
    split <;> omega
  -- An hour that the day has no time for does not have the moment either.
  rcases steady with empty | same
  · omega
  · exact once.offsetAt_eq (by omega) (by omega) same start (by omega)

/-- An aligned day tells the time by the offset of the zone, if that changes at most once in the day. -/
theorem toldOffset_eq {zone : Zone} {day : Day} {millis : Int} (tells : day.Tells zone)
    (contained : day.Contains millis) (once : zone.ChangesOnce day.today day.tomorrow) :
    day.toldOffset zone millis = zone.offsetAt millis := by
  -- Either the whole day has the offset of its ends, or each hour has that of its own.
  rcases tells.hours with ⟨same, told⟩ | ⟨steady, told⟩
  · -- The offset at both ends of the day is the one in between.
    rw [told]
    exact (once.offsetAt_eq (Int.le_refl _) (by omega) same contained.1
      (Int.le_sub_one_of_lt contained.2)).symm
  · rw [told]
    exact (offsetAt_of_steady contained once (steady _ (hourOf_lt day millis))).symm

end Day

namespace Encoder

variable {encoder : Encoder}

/-- The reading on an aligned day is the clock by the told offset, counted from the midnight of the day. -/
theorem wallMillis_of_tells {day : Day} (tells : day.Tells encoder.zone)
    (aligned : day.aligned = true) (millis : Int) :
    encoder.wallMillis day millis =
      millis + day.toldOffset encoder.zone millis -
        86400000 * day.shownAtMidnight encoder.zone := by
  -- The reading at the beginning is what remains of the clock there once its days are taken off.
  have begun := Int.emod_add_mul_ediv (day.today + encoder.zone.offsetAt day.today) 86400000
  simp only [wallMillis, aligned, if_true, tells.wall, Day.toldOffset, Day.hourOf,
    Day.shownAtMidnight]
  omega

/-- The reading on a day that is not aligned is the time of day that the zone shows. -/
theorem wallMillis_of_unaligned {day : Day} (unaligned : day.aligned = false) (millis : Int) :
    encoder.wallMillis day millis =
      Count.clamp (millis + encoder.zone.offsetAt millis) % 86400000 := by
  -- Only aligned days count from their beginning. The others ask the zone for every moment.
  unfold wallMillis
  rw [unaligned]
  rfl

/-- With one change in the day, the reading is the time of day that the zone shows. -/
theorem wallMillis_of_once {day : Day} {millis : Int}
    (tells : day.aligned = true → day.Tells encoder.zone) (contained : day.Contains millis)
    (once : encoder.zone.ChangesOnce day.today day.tomorrow)
    (clock : Count.Fits (millis + encoder.zone.offsetAt millis))
    (sameDate : day.shownAtMidnight encoder.zone = encoder.zone.localDay millis) :
    encoder.wallMillis day millis =
      Count.clamp (millis + encoder.zone.offsetAt millis) % 86400000 := by
  -- A day that is not aligned needs nothing of what is assumed about the others.
  cases aligned : day.aligned with
  | false => exact wallMillis_of_unaligned aligned millis
  | true =>
    -- The told offset is the one of the zone, and the days that are taken off are those of the clock.
    rw [wallMillis_of_tells (tells aligned) aligned,
      Day.toldOffset_eq (tells aligned) contained once, sameDate, Zone.localDay,
      Count.clamp_of_fits clock]
    omega

/-- A reading is a time of day if the told offset shows the date that was shown at midnight, and only then. -/
theorem wallMillis_inDay_iff {day : Day} (tells : day.aligned = true → day.Tells encoder.zone)
    (millis : Int) :
    (0 ≤ encoder.wallMillis day millis ∧ encoder.wallMillis day millis < 86400000) ↔
      (day.aligned = true →
        (millis + day.toldOffset encoder.zone millis) / 86400000 =
          day.shownAtMidnight encoder.zone) := by
  cases aligned : day.aligned with
  | false =>
    -- The clock is reduced to the time of day, whatever the date is.
    rw [wallMillis_of_unaligned aligned]
    simp only [Bool.false_eq_true, false_implies, iff_true]
    omega
  | true =>
    -- The reading is what the clock has over the days up to the midnight.
    rw [wallMillis_of_tells (tells aligned) aligned]
    simp only [true_implies]
    omega

end Encoder

end DatePattern
