import DatePattern.Proofs.Instant
import DatePattern.Proofs.Zone.Settled
import DatePattern.Timestamp.Day

/-! Midnights: they belong to the local day and not to the moment, and enclose few moments of others. -/

namespace DatePattern.Day

/-- Both records of a day begin with its midnights. -/
@[simp] theorem today_ofMillis (zone : Zone) (dateFormat : Option Format) (millis : Int) :
    (ofMillis zone dateFormat millis).today = midnight zone millis 0 := by
  -- Whether the day encloses its moment decides about the rest of the record, not about its
  -- ends.
  simp only [ofMillis]
  split <;> rfl

/-- Both records of a day end with the next midnight. -/
@[simp] theorem tomorrow_ofMillis (zone : Zone) (dateFormat : Option Format) (millis : Int) :
    (ofMillis zone dateFormat millis).tomorrow = midnight zone millis 1 := by
  simp only [ofMillis]
  split <;> rfl

/-- The midnights of a day, which begin and end it. -/
theorem contains_ofMillis {zone : Zone} {dateFormat : Option Format} {millis other : Int} :
    (ofMillis zone dateFormat millis).Contains other ↔
      midnight zone millis 0 ≤ other ∧ other < midnight zone millis 1 := by
  -- The rest of the record does not count.
  simp only [Contains, today_ofMillis, tomorrow_ofMillis]

/-- A midnight belongs to a local day, and the moment only counts where it cannot be read. -/
theorem midnight_eq (zone : Zone) (millis days : Int) :
    midnight zone millis days =
      (zone.ofWall? (Count.clamp ((zone.localDay millis + days) * 86400000))).getD
        (Count.clamp (Count.clamp ((zone.localDay millis + days) * 86400000) -
          zone.offsetAt millis)) := rfl

/-- A wall clock that reads a midnight outside the civil range is early or late. -/
private theorem early_or_late {place : Region} (formed : place.WellFormed) {millis days : Int}
    (next : days = 0 ∨ days = 1)
    (outside : Zone.clampCivil
        (Count.clamp (((Zone.region place).localDay millis + days) * 86400000)) ≠
      Count.clamp (((Zone.region place).localDay millis + days) * 86400000)) :
    (Zone.region place).localDay millis * 86400000 <
        Instant.firstCivilSecond * 1000 ∧
      millis < (Instant.firstCivilSecond + 259200) * 1000 ∨
    Instant.lastCivilSecond * 1000 < ((Zone.region place).localDay millis + 1) * 86400000 ∧
      (Instant.lastCivilSecond - 259200) * 1000 ≤ millis := by
  -- The midnight depends on the offset and on clamped counts alone, so each of them gets a name.
  have small := Zone.offsetAt_region formed millis
  have clock := Count.clamp_cases (millis + (Zone.region place).offsetAt millis)
  have wall := Count.clamp_cases (((Zone.region place).localDay millis + days) * 86400000)
  have day : (Zone.region place).localDay millis =
      Count.clamp (millis + (Zone.region place).offsetAt millis) / 86400000 := rfl
  generalize (Zone.region place).localDay millis = today at *
  generalize (Zone.region place).offsetAt millis = offset at *
  generalize Count.clamp (millis + offset) = shown at *
  generalize Count.clamp ((today + days) * 86400000) = midnight at *
  -- A reading that the civil range moves lies before its first second or after its last one.
  have beyond : midnight < Instant.firstCivilSecond * 1000 ∨
      Instant.lastCivilSecond * 1000 + 999 < midnight := by
    simp only [Zone.clampCivil, Instant.firstCivilSecond, Instant.lastCivilSecond] at outside ⊢
    omega
  simp only [Instant.firstCivilSecond, Instant.lastCivilSecond, Count.least, Count.greatest] at *
  rcases beyond with before | after
  · left
    omega
  · right
    omega

/-- Moments of one local day have the same midnights. -/
theorem midnight_congr {zone : Zone} (formed : zone.WellFormed) (settled : zone.Settled)
    {millis other days : Int} (next : days = 0 ∨ days = 1)
    (same : zone.localDay millis = zone.localDay other) :
    midnight zone millis days = midnight zone other days := by
  rw [midnight_eq, midnight_eq, same]
  cases zone with
  | utc => rfl
  | fixed offset => rfl
  | region place =>
    by_cases inside : Zone.clampCivil
        (Count.clamp (((Zone.region place).localDay other + days) * 86400000)) =
      Count.clamp (((Zone.region place).localDay other + days) * 86400000)
    · -- The midnight can be read, so the offset at the moment does not matter.
      obtain ⟨moment, read, -, -⟩ := Zone.ofWall?_inside formed inside
      rw [read]
      rfl
    · -- Outside the civil range both moments have the same offset.
      have otherFar := early_or_late formed next inside
      rw [← same] at inside
      have far := early_or_late formed next inside
      rw [same] at far
      have offsets : (Zone.region place).offsetAt millis = (Zone.region place).offsetAt other := by
        generalize (Zone.region place).localDay other = today at far otherFar
        simp only [Instant.firstCivilSecond, Instant.lastCivilSecond] at far otherFar
        rcases far with ⟨before, early⟩ | ⟨after, late⟩
        · rcases otherFar with ⟨-, otherEarly⟩ | ⟨otherAfter, -⟩
          · exact Zone.offsetAt_early settled early otherEarly
          · omega
        · rcases otherFar with ⟨otherBefore, -⟩ | ⟨-, otherLate⟩
          · omega
          · exact Zone.offsetAt_late settled late otherLate
      rw [offsets]

/-- While the clocks keep one offset, a midnight is the reading less that offset. -/
theorem midnight_of_constant {zone : Zone} {millis days : Int}
    (constant : zone = .utc ∨ (∃ offset, zone = .fixed offset) ∨
      ∃ place, zone = .region place ∧
        Zone.clampCivil (Count.clamp ((zone.localDay millis + days) * 86400000)) ≠
          Count.clamp ((zone.localDay millis + days) * 86400000)) :
    midnight zone millis days =
      Count.clamp (Count.clamp ((zone.localDay millis + days) * 86400000) -
        zone.offsetAt millis) := by
  rw [midnight_eq]
  have fits := Count.fits_clamp ((zone.localDay millis + days) * 86400000)
  generalize Count.clamp ((zone.localDay millis + days) * 86400000) = wall at *
  -- In all three cases the midnight is not looked up: the offset of the moment is taken off the
  -- reading.
  rcases constant with rfl | ⟨offset, rfl⟩ | ⟨place, rfl, outside⟩
  · simp [Zone.ofWall?, Zone.offsetAt, Zone.offsetsAt, Offsets.total, Count.clamp_of_fits fits]
  · -- A number that is not clamped is its own clamp.
    simp only [Zone.ofWall?, Zone.offsetAt, Zone.offsetsAt, Offsets.total, Int.add_zero]
    by_cases inRange : Count.Fits (wall - offset)
    · rw [Count.within?_of_fits inRange, Count.clamp_of_fits inRange]
      rfl
    · rw [Count.within?, if_neg inRange]
      rfl
  · simp only [Zone.ofWall?, ne_eq, outside, not_false_eq_true, if_true]
    rfl

/-- Two moments between midnights of one offset are on one local day, and no clock is held. -/
private theorem between_of_constant {offset first millis day : Int} (fits : Count.Fits millis)
    (dayIs : day = Count.clamp (first + offset) / 86400000)
    (begun : Count.clamp (Count.clamp ((day + 0) * 86400000) - offset) ≤ millis)
    (ends : millis < Count.clamp (Count.clamp ((day + 1) * 86400000) - offset)) :
    Count.Fits (millis + offset) ∧ (millis + offset) / 86400000 = day ∧
      day * 86400000 ≤ Count.clamp (Count.clamp ((day + 0) * 86400000) - offset) + offset := by
  have shown := Count.clamp_cases (first + offset)
  have open' := Count.clamp_cases ((day + 0) * 86400000)
  have close := Count.clamp_cases ((day + 1) * 86400000)
  -- The clamped counts are named, the inner ones first, and what is left is linear.
  generalize Count.clamp (first + offset) = clock at *
  generalize Count.clamp ((day + 0) * 86400000) = opening at *
  generalize Count.clamp ((day + 1) * 86400000) = closing at *
  have today := Count.clamp_cases (opening - offset)
  have tomorrow := Count.clamp_cases (closing - offset)
  generalize Count.clamp (opening - offset) = begin at *
  generalize Count.clamp (closing - offset) = finish at *
  simp only [Count.Fits, Count.least, Count.greatest] at *
  have dayBounds : day * 86400000 ≤ clock ∧ clock < day * 86400000 + 86400000 := by
    -- The other counts would only multiply the cases.
    clear begun ends open' close today tomorrow
    omega
  clear dayIs
  -- A midnight held at an end of the counts would leave no moment between it and the next one.
  have beginning : opening ≤ millis + offset ∧ opening ≤ begin + offset ∧
      day * 86400000 ≤ opening := by
    omega
  have ending : millis + offset < closing ∧ closing ≤ day * 86400000 + 86400000 := by
    omega
  omega

/-- In a zone of one offset the midnights enclose moments of one local day only. -/
theorem localDay_of_contains {zone : Zone} {dateFormat : Option Format} {millis other : Int}
    (constant : zone = .utc ∨ ∃ offset, zone = .fixed offset) (fits : Count.Fits other)
    (contained : (ofMillis zone dateFormat millis).Contains other) :
    Count.Fits (other + zone.offsetAt other) ∧ zone.localDay other = zone.localDay millis ∧
      zone.localDay millis * 86400000 ≤ midnight zone millis 0 + zone.offsetAt other := by
  have same := Zone.offsetAt_of_constant constant other millis
  -- Both midnights come from the offset, with no search for a transition.
  have either : ∀ days, zone = .utc ∨ (∃ offset, zone = .fixed offset) ∨
      ∃ place, zone = .region place ∧
        Zone.clampCivil (Count.clamp ((zone.localDay millis + days) * 86400000)) ≠
          Count.clamp ((zone.localDay millis + days) * 86400000) := fun days =>
    constant.imp_right .inl
  rw [contains_ofMillis, midnight_of_constant (either 0), midnight_of_constant (either 1)]
    at contained
  obtain ⟨inside, day, begun⟩ := between_of_constant fits rfl contained.1 contained.2
  rw [same, midnight_of_constant (either 0)]
  refine ⟨inside, ?_, begun⟩
  -- The clock at the other moment is not held, so its day is a plain quotient.
  rw [Zone.localDay, same, Count.clamp_of_fits inside, day]
  rfl

/-- Far outside the civil range a region reads its midnights with the offset of the moment. -/
private theorem outside_of_far {place : Region} (formed : place.WellFormed) {millis : Int}
    (far : millis < Instant.firstCivilSecond * 1000 - 172800000 ∨
      Instant.lastCivilSecond * 1000 + 259200000 < millis) {days : Int}
    (next : days = 0 ∨ days = 1) :
    Zone.clampCivil (Count.clamp (((Zone.region place).localDay millis + days) * 86400000)) ≠
      Count.clamp (((Zone.region place).localDay millis + days) * 86400000) := by
  -- As before, what the clamped counts are built from is named, so that only bounds on them are
  -- left.
  have small := Zone.offsetAt_region formed millis
  have clock := Count.clamp_cases (millis + (Zone.region place).offsetAt millis)
  have wall := Count.clamp_cases (((Zone.region place).localDay millis + days) * 86400000)
  have day : (Zone.region place).localDay millis =
      Count.clamp (millis + (Zone.region place).offsetAt millis) / 86400000 := rfl
  generalize (Zone.region place).localDay millis = today at *
  generalize (Zone.region place).offsetAt millis = offset at *
  generalize Count.clamp (millis + offset) = shown at *
  generalize Count.clamp ((today + days) * 86400000) = midnight at *
  simp only [Zone.clampCivil, Instant.firstCivilSecond, Instant.lastCivilSecond, Count.least,
    Count.greatest] at *
  -- The clock is more than a day outside the range, and so the midnights are outside as well.
  have beyond : shown < -8334601228800000 - 86400000 ∨ 8210266876799999 + 86400000 < shown := by
    clear wall
    omega
  have beginning : (today + days) * 86400000 ≤ shown + 86400000 ∧
      shown - 86400000 < (today + days) * 86400000 := by
    clear wall clock
    omega
  omega

/-- Far from all changes the midnights enclose moments of one local day only, and no clock is held. -/
private theorem localDay_of_contains_far {place : Region} (formed : place.WellFormed)
    {dateFormat : Option Format} {millis other : Int} (fits : Count.Fits other)
    (far : millis < Instant.firstCivilSecond * 1000 - 172800000 ∨
      Instant.lastCivilSecond * 1000 + 259200000 < millis)
    (same : (Zone.region place).offsetAt other = (Zone.region place).offsetAt millis)
    (contained : (ofMillis (.region place) dateFormat millis).Contains other) :
    Count.Fits (other + (Zone.region place).offsetAt other) ∧
      (Zone.region place).localDay other = (Zone.region place).localDay millis := by
  -- Neither midnight can be looked up there, so that both come from the offset of the moment.
  have outside (days : Int) (next : days = 0 ∨ days = 1) := outside_of_far formed far next
  rw [contains_ofMillis, midnight_of_constant (.inr (.inr ⟨place, rfl, outside 0 (.inl rfl)⟩)),
    midnight_of_constant (.inr (.inr ⟨place, rfl, outside 1 (.inr rfl)⟩))] at contained
  obtain ⟨inside, day, -⟩ := between_of_constant fits rfl contained.1 contained.2
  rw [same]
  refine ⟨inside, ?_⟩
  rw [Zone.localDay, same, Count.clamp_of_fits inside, day]
  rfl

/-- The midnight that a day begins or ends with lies less than a day from its reading in UTC. -/
private theorem midnight_near {place : Region} (formed : place.WellFormed) (millis days : Int) :
    Count.clamp (((Zone.region place).localDay millis + days) * 86400000) - 86400000 ≤
        midnight (.region place) millis days ∧
      midnight (.region place) millis days ≤
        Count.clamp (((Zone.region place).localDay millis + days) * 86400000) + 86400000 := by
  rw [midnight_eq]
  have wallFits := Count.fits_clamp (((Zone.region place).localDay millis + days) * 86400000)
  generalize Count.clamp (((Zone.region place).localDay millis + days) * 86400000) = wall at *
  by_cases inside : Zone.clampCivil wall = wall
  · -- The moment that is found shows the wall clock, which no offset moves by a day.
    obtain ⟨moment, read, lower, upper⟩ := Zone.ofWall?_inside formed inside
    rw [read]
    exact ⟨lower, upper⟩
  · -- Beyond the civil range the offset at the given moment is taken instead.
    have small := Zone.offsetAt_region formed millis
    have held := Count.clamp_cases (wall - (Zone.region place).offsetAt millis)
    simp only [Zone.ofWall?, ne_eq, inside, not_false_eq_true, if_true]
    show wall - 86400000 ≤ Count.clamp (wall - (Zone.region place).offsetAt millis) ∧
      Count.clamp (wall - (Zone.region place).offsetAt millis) ≤ wall + 86400000
    generalize Count.clamp (wall - (Zone.region place).offsetAt millis) = midnight at *
    simp only [Count.Fits] at wallFits
    omega

/-- Moments between the midnights of a day are at most three days apart. -/
theorem near_of_contains {zone : Zone} (formed : zone.WellFormed) {dateFormat : Option Format}
    {millis first second : Int} (begun : (ofMillis zone dateFormat millis).Contains first)
    (ended : (ofMillis zone dateFormat millis).Contains second) :
    second - first < 259200000 := by
  rw [contains_ofMillis] at begun ended
  have walls := Count.clamp_mono (show (zone.localDay millis + 0) * 86400000 ≤
    (zone.localDay millis + 1) * 86400000 by omega)
  -- With one offset the midnights are as far apart as their readings.
  have constant : (∀ days, midnight zone millis days =
      Count.clamp (Count.clamp ((zone.localDay millis + days) * 86400000) -
        zone.offsetAt millis)) → second - first < 259200000 := by
    intro exact'
    rw [exact' 0] at begun
    rw [exact' 1] at ended
    have moments :=
      (Count.clamp_mono (Int.sub_le_sub_right walls.1 (zone.offsetAt millis))).2
    omega
  -- In a region the midnights are moved by less than a day each, against their readings.
  cases zone with
  | region place =>
    have opening := midnight_near formed millis 0
    have closing := midnight_near formed millis 1
    omega
  | utc => exact constant fun days => midnight_of_constant (.inl rfl)
  | fixed offset => exact constant fun days => midnight_of_constant (.inr (.inl ⟨offset, rfl⟩))

/-- The day that the clocks show at the instant of a moment, whose date is written for it. -/
def dateDay (zone : Zone) (millis : Int) : Int := zone.localDay (Instant.ofMillis millis).millis

/-- Two moments of a day for which one date is written are on one local day. -/
theorem localDay_of_dateDay {zone : Zone} (formed : zone.WellFormed) (settled : zone.Settled)
    {dateFormat : Option Format} {millis other : Int} (fits : Count.Fits millis)
    (otherFits : Count.Fits other) (own : (ofMillis zone dateFormat millis).Contains millis)
    (contained : (ofMillis zone dateFormat millis).Contains other)
    (same : dateDay zone other = dateDay zone millis) :
    zone.localDay other = zone.localDay millis := by
  have near := near_of_contains formed own contained
  have near' := near_of_contains formed contained own
  by_cases exact' : Count.least + 808 ≤ millis ∧ Count.least + 808 ≤ other
  · rwa [dateDay, dateDay, (Instant.millis_ofMillis fits).2.2 exact'.1,
      (Instant.millis_ofMillis otherFits).2.2 exact'.2] at same
  · -- The first moments of the range lie long before all changes.
    simp only [Count.least] at exact'
    cases zone with
    | utc => exact (localDay_of_contains (.inl rfl) otherFits contained).2.1
    | fixed offset => exact (localDay_of_contains (.inr ⟨offset, rfl⟩) otherFits contained).2.1
    | region place =>
      have offsets : (Zone.region place).offsetAt other = (Zone.region place).offsetAt millis :=
        Zone.offsetAt_early settled (by simp only [Instant.firstCivilSecond]; omega)
          (by simp only [Instant.firstCivilSecond]; omega)
      exact (localDay_of_contains_far formed otherFits
        (.inl (by simp only [Instant.firstCivilSecond]; omega)) offsets contained).2

/-- No clock is held at a moment of a day that has the moment for which it was made. -/
theorem fits_of_contains {zone : Zone} (formed : zone.WellFormed) (settled : zone.Settled)
    {dateFormat : Option Format} {millis other : Int} (otherFits : Count.Fits other)
    (own : (ofMillis zone dateFormat millis).Contains millis)
    (contained : (ofMillis zone dateFormat millis).Contains other) :
    Count.Fits (other + zone.offsetAt other) := by
  cases zone with
  | utc => exact (localDay_of_contains (.inl rfl) otherFits contained).1
  | fixed offset => exact (localDay_of_contains (.inr ⟨offset, rfl⟩) otherFits contained).1
  | region place =>
    have small := Zone.offsetAt_region formed other
    by_cases inside : other.natAbs ≤ 9223372036854775807 - 86400000
    · exact Count.fits_of_natAbs_le (by omega)
    -- Only at the ends of the counts could a clock be held, and the whole day is far outside there.
    have near := near_of_contains formed own contained
    have near' := near_of_contains formed contained own
    rcases Int.le_total other 0 with early | late
    · have offsets : (Zone.region place).offsetAt other = (Zone.region place).offsetAt millis :=
        Zone.offsetAt_early settled (by simp only [Instant.firstCivilSecond]; omega)
          (by simp only [Instant.firstCivilSecond]; omega)
      exact (localDay_of_contains_far formed otherFits
        (.inl (by simp only [Instant.firstCivilSecond]; omega)) offsets contained).1
    · have offsets : (Zone.region place).offsetAt other = (Zone.region place).offsetAt millis :=
        Zone.offsetAt_late settled (by simp only [Instant.lastCivilSecond]; omega)
          (by simp only [Instant.lastCivilSecond]; omega)
      exact (localDay_of_contains_far formed otherFits
        (.inr (by simp only [Instant.lastCivilSecond]; omega)) offsets contained).1

/-- The dates written for two moments of a day are less than a week apart. -/
theorem dateDay_near {zone : Zone} (formed : zone.WellFormed) {dateFormat : Option Format}
    {millis other : Int} (fits : Count.Fits millis) (otherFits : Count.Fits other)
    (own : (ofMillis zone dateFormat millis).Contains millis)
    (contained : (ofMillis zone dateFormat millis).Contains other) :
    (dateDay zone other - dateDay zone millis).natAbs ≤ 6 := by
  -- The moments are at most three days apart, and offsets differ by less than two days more.
  have near := near_of_contains formed own contained
  have near' := near_of_contains formed contained own
  have moved := Instant.millis_ofMillis fits
  have otherMoved := Instant.millis_ofMillis otherFits
  have offsets := Zone.offsetAt_near formed (Instant.ofMillis other).millis
    (Instant.ofMillis millis).millis
  simp only [dateDay, Zone.localDay]
  generalize (Instant.ofMillis other).millis = second at *
  generalize (Instant.ofMillis millis).millis = first at *
  generalize zone.offsetAt second = offset at *
  generalize zone.offsetAt first = offset' at *
  -- Clamping does not move the readings apart.
  have apart : (second + offset - (first + offset')).natAbs ≤ 432000192 := by omega
  have clamped : (Count.clamp (second + offset) - Count.clamp (first + offset')).natAbs ≤
      432000192 := by
    rcases Int.le_total (second + offset) (first + offset') with lower | upper
    · have moments := Count.clamp_mono lower
      omega
    · have moments := Count.clamp_mono upper
      omega
  omega

end DatePattern.Day
