import DatePattern.Proofs.Calendar.Fields
import DatePattern.Proofs.Zone.Settled

/-! Reading a wall clock: of all moments at which it shows a time, the first one is meant. -/

namespace DatePattern

/-- A stretch shows a reading when the moment of that reading by its own clock lies in it. -/
theorem Span.shows_iff (span : Span) (wall : Int) :
    span.shows wall = true ↔ (∀ start ∈ span.start?, start ≤ wall - span.offsets.total) ∧
      ∀ stop ∈ span.stop?, wall - span.offsets.total < stop := by
  -- Each end that there is gives one bound, on one side or the other of the difference.
  obtain ⟨start?, stop?, offsets⟩ := span
  have start : (start?.all fun start => start + offsets.total ≤ wall) = true ↔
      ∀ start ∈ start?, start ≤ wall - offsets.total := by
    cases start? with
    | none => simp
    | some start =>
      simp only [Option.all_some, decide_eq_true_eq, Option.mem_def, Option.some.injEq,
        forall_eq']
      omega
  have stop : (stop?.all fun stop => wall < stop + offsets.total) = true ↔
      ∀ stop ∈ stop?, wall - offsets.total < stop := by
    cases stop? with
    | none => simp
    | some stop =>
      simp only [Option.all_some, decide_eq_true_eq, Option.mem_def, Option.some.injEq,
        forall_eq']
      omega
  rw [shows, Bool.and_eq_true, start, stop]

/-- The milliseconds of an instant well inside the range are not held at either end. -/
theorem Instant.millis_eq {instant : Instant} (nano : instant.nano < 1000000000)
    (inside : Count.DayInside instant.millis) :
    instant.millis = instant.second * 1000 + (instant.nano / 1000000 : Nat) := by
  -- Nothing is clamped here, since a day is left to either end.
  have part : instant.nano / 1000000 < 1000 := by omega
  simp only [Count.DayInside, millis, Count.clamp, Count.least, Count.greatest] at inside ⊢
  omega

namespace Region

/-- The first stretch that shows a reading does so no later than any moment with that reading. -/
theorem find?_spansFrom (start? : Option Int) {current : Offsets} {changes : List Change}
    {second wall : Int}
    (ordered : changes.Pairwise fun earlier later => earlier.second < later.second)
    (begins : ∀ start ∈ start?, ∀ change ∈ changes, start ≤ change.second)
    (begun : ∀ start ∈ start?, start ≤ second)
    (shown : second + (offsetsAfter current changes second).total = wall) :
    ∃ span, (spansFrom start? current changes).find? (fun span => span.shows wall) = some span ∧
      offsetsAfter current changes (wall - span.offsets.total) = span.offsets ∧
      wall - span.offsets.total ≤ second ∧
      ∀ start ∈ start?, start ≤ wall - span.offsets.total := by
  -- A stretch is passed over only if it is over by the moment that is known to have the reading.
  induction ordered generalizing start? current with
  | nil =>
    -- The last stretch has no end, and the known moment lies in it.
    obtain rfl : second + current.total = wall := shown
    have here : second + current.total - current.total = second := Int.add_sub_cancel ..
    refine ⟨⟨start?, none, current⟩, ?_, rfl, Int.le_of_eq here, ?_⟩
    · rw [spansFrom, List.find?_cons_of_pos]
      refine (Span.shows_iff _ _).mpr ⟨?_, ?_⟩
      · simpa only [here] using begun
      · intro stop never
        cases never
    · simpa only [here] using begun
  | @cons change later precedes ordered ih =>
    cases shows : (Span.mk start? (some change.second) current).shows wall with
    | true =>
      obtain ⟨after, before⟩ := (Span.shows_iff _ _).mp shows
      have before : wall - current.total < change.second := before change.second rfl
      refine ⟨⟨start?, some change.second, current⟩, ?_, ?_, ?_, after⟩
      · rw [spansFrom, List.find?_cons_of_pos]
        exact shows
      · rw [offsetsAfter, if_neg (Int.not_le.mpr before)]
      · -- If the known moment lies in this stretch as well, it is the moment found.
        simp only [offsetsAfter] at shown ⊢
        by_cases reached : change.second ≤ second
        · omega
        · rw [if_neg reached] at shown
          omega
    | false =>
      -- A known moment before the change would show the reading in this stretch.
      have reached : change.second ≤ second := by
        apply Decidable.byContradiction
        intro before
        rw [offsetsAfter, if_neg before] at shown
        have here : wall - current.total = second := by omega
        have showing := Span.shows_iff ⟨start?, some change.second, current⟩ wall
        simp only [here, shows] at showing
        refine absurd (showing.mpr ⟨begun, ?_⟩) Bool.false_ne_true
        intro stop known
        cases known
        omega
      rw [offsetsAfter, if_pos reached] at shown
      obtain ⟨span, found, own, early, after⟩ := ih (some change.second)
        (by
          intro start known other listed
          cases known
          exact Int.le_of_lt (precedes other listed))
        (fun start known => by cases known; exact reached) shown
      have follows : change.second ≤ wall - span.offsets.total := after change.second rfl
      refine ⟨span, ?_, ?_, early, ?_⟩
      · rw [spansFrom, List.find?_cons_of_neg (by simp [shows]), found]
      · rw [offsetsAfter, if_pos follows, own]
      · intro start known
        have := begins start known change List.mem_cons_self
        omega

/-- A reading that a region shows at some moment is read as the first moment that has it. -/
theorem offsetsShowing?_first {region : Region} (formed : region.WellFormed) {second wall : Int}
    (shown : second + (region.offsetsAt second).total = wall) :
    ∃ offsets, region.offsetsShowing? wall = some offsets ∧
      region.offsetsAt (wall - offsets.total) = offsets ∧ wall - offsets.total ≤ second := by
  -- The first stretch has no beginning, so that nothing is asked of it.
  obtain ⟨span, found, own, early, -⟩ := find?_spansFrom none formed.ordered
    (fun start never => by cases never) (fun start never => by cases never) shown
  exact ⟨span.offsets, by rw [offsetsShowing?, spans, found, Option.map_some], own, early⟩

end Region

namespace Zone

/-- Outside the civil range a settled region keeps the offsets that it has at its ends. -/
theorem offsetAt_region_eq {place : Region} (settled : place.Settled) (millis : Int) :
    (region place).offsetAt millis = (place.offsetsAt (millis / 1000)).total * 1000 := by
  have same : place.offsetsAt (clampCivil millis / 1000) = place.offsetsAt (millis / 1000) := by
    by_cases early : millis < Instant.firstCivilSecond * 1000
    · -- No change has come by then.
      have initial : ∀ second, second ≤ Instant.firstCivilSecond →
          place.offsetsAt second = place.initial := by
        intro second before
        apply Region.offsetsAfter_of_lt
        intro change listed
        have := (settled change listed).1
        omega
      rw [initial (millis / 1000) (by omega), initial]
      simp only [clampCivil, Instant.firstCivilSecond, Instant.lastCivilSecond] at early ⊢
      omega
    · by_cases late : Instant.lastCivilSecond * 1000 + 999 < millis
      · -- All changes have come by then.
        apply Region.offsetsAfter_of_le
        · intro change listed
          have := (settled change listed).2
          simp only [clampCivil, Instant.firstCivilSecond, Instant.lastCivilSecond] at *
          omega
        · intro change listed
          have := (settled change listed).2
          simp only [Instant.lastCivilSecond] at *
          omega
      · have inside : clampCivil millis = millis := by
          simp only [clampCivil]
          omega
        rw [inside]
  rw [offsetAt, offsetsAt, same]
  simp only [Offsets.total]
  omega

/--
A reading of a region's clock is read as the first second that has it.

Milliseconds are left to the reading and come back unchanged.
-/
theorem ofWall?_first {place : Region} (formed : place.WellFormed) (settled : place.Settled)
    (second : Int) {wall : Int}
    (shown : second * 1000 + (region place).offsetAt (second * 1000) = wall) :
    ∃ first, first * 1000 + (region place).offsetAt (first * 1000) = wall ∧
      (∀ other, other * 1000 + (region place).offsetAt (other * 1000) = wall → first ≤ other) ∧
      ∀ millis, 0 ≤ millis → millis < 1000 → clampCivil (wall + millis) = wall + millis →
        (region place).ofWall? (wall + millis) = some (first * 1000 + millis) := by
  -- Moments are counted in seconds from here on, as the history of the region counts them.
  have offset : ∀ second, (region place).offsetAt (second * 1000) =
      (place.offsetsAt second).total * 1000 := by
    intro second
    rw [offsetAt_region_eq settled, Int.mul_ediv_cancel _ (by decide)]
  simp only [offset] at shown ⊢
  have shownSecond : second + (place.offsetsAt second).total = wall / 1000 := by omega
  obtain ⟨offsets, found, own, -⟩ := Region.offsetsShowing?_first formed shownSecond
  refine ⟨wall / 1000 - offsets.total, ?_, ?_, ?_⟩
  · rw [own]
    omega
  · -- The stretch that is found does not depend on the moment that is known to have the reading.
    intro other otherShown
    have otherSecond : other + (place.offsetsAt other).total = wall / 1000 := by omega
    obtain ⟨again, foundAgain, -, early⟩ := Region.offsetsShowing?_first formed otherSecond
    rw [found] at foundAgain
    cases foundAgain
    exact early
  · intro millis low high civil
    have sameSecond : (wall + millis) / 1000 = wall / 1000 := by omega
    simp only [ofWall?, civil, ne_eq, not_true_eq_false, if_false, sameSecond, found]
    congr 1
    omega

/-- The offset of a region is a whole number of seconds, and does not change within a second. -/
theorem offsetAt_add_part {place : Region} (settled : place.Settled) (second part : Int)
    (low : 0 ≤ part) (high : part < 1000) :
    (region place).offsetAt (second * 1000 + part) = (region place).offsetAt (second * 1000) ∧
      (region place).offsetAt (second * 1000) % 1000 = 0 := by
  -- The part is cut off when the seconds are counted.
  have same : (second * 1000 + part) / 1000 = second := by omega
  rw [offsetAt_region_eq settled, offsetAt_region_eq settled, same,
    Int.mul_ediv_cancel _ (by decide)]
  exact ⟨rfl, Int.mul_emod_left _ _⟩

/-- The first instant whose wall clock reading in a zone is that of an instant. -/
structure ShowsFirst (zone : Zone) (instant first : Instant) : Prop where
  /-- The clocks of the zone show the same at both instants. -/
  wall : CalendarFields.exactWall first zone = CalendarFields.exactWall instant zone
  /-- Both instants have the same part of a second. -/
  nano : first.nano = instant.nano
  /-- The clocks of the zone do not show it at any earlier millisecond. -/
  earliest : ∀ other : Instant, CalendarFields.exactWall other zone =
    CalendarFields.exactWall instant zone → first.millis ≤ other.millis

/-- An instant that is itself the first one with its reading is the only such instant. -/
theorem ShowsFirst.eq_self {zone : Zone} {instant first : Instant}
    (shown : zone.ShowsFirst instant first) (own : zone.ShowsFirst instant instant)
    (nano : instant.nano < 1000000000) (inside : Count.DayInside instant.millis) :
    first = instant := by
  -- Neither is later than the other, and well inside the range milliseconds tell the seconds.
  have same : first.millis = instant.millis := by
    have notLater := shown.earliest instant rfl
    have notEarlier := own.earliest first shown.wall
    omega
  have sameNano := shown.nano
  have millis := Instant.millis_eq nano inside
  have firstMillis := Instant.millis_eq (sameNano ▸ nano) (same ▸ inside)
  rw [same, sameNano] at firstMillis
  have sameSecond : first.second = instant.second := by omega
  obtain ⟨second, nanos⟩ := first
  cases sameSecond
  cases sameNano
  rfl

/-- Where the offset never changes, a reading belongs to one instant. -/
theorem showsFirst_of_constant {zone : Zone} (offset : Int)
    (constant : ∀ millis, zone.offsetAt millis = offset) (instant : Instant) :
    zone.ShowsFirst instant instant := by
  -- The reading less the one offset is the instant.
  refine ⟨rfl, rfl, ?_⟩
  intro other same
  simp only [CalendarFields.exactWall, constant] at same
  omega

/-- A reading of a region's clock in the civil range leads back to the first instant that has it. -/
theorem exists_showsFirst_region {place : Region} (formed : place.WellFormed)
    (settled : place.Settled) {instant : Instant} (nano : instant.nano < 1000000000)
    (inside : Count.DayInside instant.millis)
    (civil : clampCivil (CalendarFields.exactWall instant (.region place)) =
      CalendarFields.exactWall instant (.region place)) :
    ∃ first, (region place).ShowsFirst instant first ∧ Count.Fits first.second ∧
      ∀ part : Int, 0 ≤ part → part ≤ (instant.nano / 1000000 : Nat) →
        (region place).ofWall? (CalendarFields.exactWall instant (.region place) -
          (instant.nano / 1000000 : Nat) + part) = some (first.second * 1000 + part) := by
  have millis := Instant.millis_eq nano inside
  simp only [CalendarFields.exactWall] at civil ⊢
  -- The reading of the second is looked up, and the part of a second is carried along.
  obtain ⟨sameOffset, wholeOffset⟩ := offsetAt_add_part settled instant.second
    ((instant.nano / 1000000 : Nat)) (by omega) (by omega)
  obtain ⟨first, firstShown, earliest, read⟩ := ofWall?_first formed settled
    instant.second rfl
  obtain ⟨sameFirst, -⟩ := offsetAt_add_part settled first
    ((instant.nano / 1000000 : Nat)) (by omega) (by omega)
  rw [millis, sameOffset] at civil ⊢
  have wallIs : instant.second * 1000 + (instant.nano / 1000000 : Nat) +
      (region place).offsetAt (instant.second * 1000) - (instant.nano / 1000000 : Nat) =
      instant.second * 1000 + (region place).offsetAt (instant.second * 1000) := by omega
  -- The first second is near the reading, so that its milliseconds need not be clamped.
  have firstOffset := offsetAt_region formed (first * 1000)
  simp only [clampCivil, Instant.firstCivilSecond, Instant.lastCivilSecond] at civil
  have firstMillis : (Instant.mk first instant.nano).millis =
      first * 1000 + (instant.nano / 1000000 : Nat) := by
    simp only [Instant.millis, Count.clamp, Count.least, Count.greatest]
    omega
  have firstWall : (Instant.mk first instant.nano).millis +
      (region place).offsetAt (Instant.mk first instant.nano).millis =
      instant.second * 1000 + (instant.nano / 1000000 : Nat) +
        (region place).offsetAt (instant.second * 1000) := by
    rw [firstMillis, sameFirst]
    omega
  have firstFits : Count.Fits first := Count.fits_of_natAbs_le (by omega)
  refine ⟨⟨first, instant.nano⟩, ⟨?_, rfl, ?_⟩, firstFits, ?_⟩
  · rw [CalendarFields.exactWall, CalendarFields.exactWall, firstWall, millis, sameOffset]
  · -- An earlier millisecond with the reading would lie in an earlier second.
    intro other same
    rw [CalendarFields.exactWall, CalendarFields.exactWall, millis, sameOffset] at same
    have split : other.millis = other.millis / 1000 * 1000 + other.millis % 1000 := by omega
    obtain ⟨otherOffset, otherWhole⟩ := offsetAt_add_part settled (other.millis / 1000)
      (other.millis % 1000) (by omega) (by omega)
    rw [← split] at otherOffset
    rw [otherOffset] at same
    have notBefore := earliest (other.millis / 1000) (by omega)
    omega
  · -- The milliseconds up to the part of the instant stay in its second, and so in the civil range.
    intro part low high
    rw [wallIs]
    refine read part low (by omega) ?_
    simp only [clampCivil, Instant.firstCivilSecond, Instant.lastCivilSecond]
    omega

/--
The first instant with a reading exists, and is what the reading of its second leads back to.

Readings of a region must lie in the civil range, and only their seconds and milliseconds count.
-/
theorem exists_showsFirst {zone : Zone} (formed : zone.WellFormed) (settled : zone.Settled)
    {instant : Instant} (nano : instant.nano < 1000000000)
    (inside : Count.DayInside instant.millis)
    (civil : ∀ place, zone = .region place → clampCivil (CalendarFields.exactWall instant zone) =
      CalendarFields.exactWall instant zone) :
    ∃ first, zone.ShowsFirst instant first ∧ Count.Fits first.second ∧
      ∀ part : Int, 0 ≤ part → part ≤ (instant.nano / 1000000 : Nat) →
        zone.ofWall? (CalendarFields.exactWall instant zone - (instant.nano / 1000000 : Nat) +
          part) = some (first.second * 1000 + part) := by
  have millis := Instant.millis_eq nano inside
  have ownFits : Count.Fits instant.second := by
    simp only [Count.DayInside, Count.least, Count.greatest] at inside
    exact Count.fits_of_natAbs_le (by omega)
  -- A zone with one offset shows each reading once, so the instant itself is the first.
  cases zone with
  | utc =>
    refine ⟨instant, showsFirst_of_constant 0 (fun _ => rfl) instant, ownFits, ?_⟩
    intro part low high
    have zero : utc.offsetAt instant.millis = 0 := rfl
    rw [CalendarFields.exactWall, zero, ofWall?, millis]
    congr 1
    omega
  | fixed offset =>
    have constant : ∀ millis, (fixed offset).offsetAt millis = offset := fun _ => Int.add_zero _
    refine ⟨instant, showsFirst_of_constant offset constant instant, ownFits, ?_⟩
    intro part low high
    simp only [Count.DayInside, Count.least, Count.greatest] at inside
    have back : instant.millis + offset - (instant.nano / 1000000 : Nat) + part - offset =
        instant.second * 1000 + part := by omega
    have fits : Count.Fits (instant.second * 1000 + part) := Count.fits_of_natAbs_le (by omega)
    rw [CalendarFields.exactWall, constant, ofWall?, back, Count.within?_of_fits fits]
  | region place => exact exists_showsFirst_region formed settled nano inside (civil place rfl)

end Zone

end DatePattern
