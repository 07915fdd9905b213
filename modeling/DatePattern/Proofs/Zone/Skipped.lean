import DatePattern.Proofs.Zone.FirstShown
import DatePattern.Proofs.Zone.Steps

/-!
Skipped readings: what a region makes of a wall clock time that its clocks pass over when they go forward.

The reading is taken with the offset of half a day before it, counted as if the reading were UTC. The main statement,
`ofWall?_skipped_iff`, tells when this is the offset in force before the clocks went forward. It is not where the
reading is twelve hours or more ahead of the moment at which they did, as at the Pacific end of the date line.
-/

namespace DatePattern

namespace Region

/-- A stretch that shows a reading has in force, at the moment of that reading, the offsets of its own. -/
theorem offsetsAfter_of_shows {start? : Option Int} {current : Offsets} {changes : List Change}
    {span : Span} {wall : Int}
    (ordered : changes.Pairwise fun earlier later => earlier.second < later.second)
    (listed : span ∈ spansFrom start? current changes) (shows : span.shows wall = true) :
    offsetsAfter current changes (wall - span.offsets.total) = span.offsets ∧
      ∀ start ∈ start?, (∀ change ∈ changes, start ≤ change.second) →
        start ≤ wall - span.offsets.total := by
  -- The stretch ends before the first change, or it begins with a change that has come by then.
  induction ordered generalizing start? current with
  | nil =>
    rw [spansFrom, List.mem_singleton] at listed
    subst listed
    exact ⟨rfl, fun start known _ => ((Span.shows_iff _ _).mp shows).1 start known⟩
  | @cons change later precedes ordered ih =>
    rcases List.mem_cons.mp listed with rfl | among
    · obtain ⟨after, before⟩ := (Span.shows_iff _ _).mp shows
      have before := before change.second rfl
      refine ⟨?_, fun start known _ => after start known⟩
      rw [offsetsAfter, if_neg (Int.not_le.mpr before)]
    · obtain ⟨own, after⟩ := ih among
      have reached := after change.second rfl fun other listed =>
        Int.le_of_lt (precedes other listed)
      refine ⟨by rw [offsetsAfter, if_pos reached, own], ?_⟩
      intro start _ begins
      exact Int.le_trans (begins change List.mem_cons_self) reached

/-- A region has no offsets for a reading exactly when its clocks show the reading at no second. -/
theorem offsetsShowing?_eq_none_iff {region : Region} (formed : region.WellFormed) {wall : Int} :
    region.offsetsShowing? wall = none ↔
      ∀ second, second + (region.offsetsAt second).total ≠ wall := by
  constructor
  · -- If the clocks showed it, the first stretch that does would have been found.
    intro unknown second shown
    obtain ⟨offsets, found, -⟩ := offsetsShowing?_first formed shown
    rw [unknown] at found
    cases found
  · intro unshown
    -- A stretch that shows the reading does so at a second at which its own offsets are in force.
    simp only [offsetsShowing?, Option.map_eq_none_iff, List.find?_eq_none]
    intro span listed shows
    obtain ⟨own, -⟩ := offsetsAfter_of_shows formed.ordered listed shows
    apply unshown (wall - span.offsets.total)
    rw [offsetsAt, own]
    omega

end Region

namespace Zone

/-- Clocks that go forward at a moment, and pass over a reading that they show at no moment. -/
structure Skips (zone : Zone) (moment wall : Int) : Prop where
  /-- The clocks go forward at the moment. -/
  forward : zone.offsetAt (moment - 1) < zone.offsetAt moment
  /-- The reading is not earlier than what the clocks would have shown at the moment. -/
  reached : moment + zone.offsetAt (moment - 1) ≤ wall
  /-- The reading is earlier than what the clocks show at the moment. -/
  passed : wall < moment + zone.offsetAt moment
  /-- The clocks show the reading at no moment. -/
  unshown : ∀ millis, millis + zone.offsetAt millis ≠ wall

/-- A reading is shown at no millisecond exactly if it has no offsets by its second. -/
theorem unshown_iff {place : Region} (formed : place.WellFormed) (settled : place.Settled)
    {wall : Int} : (∀ millis, millis + (region place).offsetAt millis ≠ wall) ↔
      place.offsetsShowing? (wall / 1000) = none := by
  -- Both sides are about seconds, as the changes of a region come at whole ones.
  rw [Region.offsetsShowing?_eq_none_iff formed]
  constructor
  · intro unshown second shown
    -- The milliseconds of the reading come on top of the second that shows it.
    apply unshown (second * 1000 + wall % 1000)
    obtain ⟨same, -⟩ := offsetAt_add_part settled second (wall % 1000) (by omega) (by omega)
    rw [same, offsetAt_region_eq settled, Int.mul_ediv_cancel _ (by decide)]
    omega
  · intro unshown millis shown
    rw [offsetAt_region_eq settled] at shown
    exact unshown (millis / 1000) (by omega)

/-- A reading of the civil range that is never shown is taken with the offset of half a day before. -/
theorem ofWall?_of_unshown {place : Region} (formed : place.WellFormed) (settled : place.Settled)
    {wall : Int} (civil : clampCivil wall = wall)
    (unshown : ∀ millis, millis + (region place).offsetAt millis ≠ wall) :
    (region place).ofWall? wall = some (wall - (region place).offsetAt (wall - 43200000)) := by
  -- Inside the civil range the moment half a day before can be counted.
  have fits := fits_of_civil formed civil
  simp only [ofWall?, civil, ne_eq, not_true_eq_false, if_false,
    (unshown_iff formed settled).mp unshown, Option.bind_eq_bind,
    Count.within?_of_fits fits.1, Option.bind_some, Count.within?_of_fits fits.2]

/-- Two moments between which the offset never changes have the same offset. -/
theorem offsetAt_eq_of_unchanged {zone : Zone} {start millis : Int} (begun : start ≤ millis)
    (unchanged : ∀ moment, start < moment → moment ≤ millis → ¬zone.ChangesAt moment) :
    zone.offsetAt millis = zone.offsetAt start := by
  -- Different offsets would differ on the two sides of some moment between.
  apply Decidable.byContradiction
  intro differ
  obtain ⟨moment, after, before, changes⟩ := exists_change begun differ
  exact unchanged moment after before changes

/-- The offset around a moment of change, from a day and a half before to two days after, if no other change is near. -/
theorem offsetAt_around {zone : Zone} {moment millis : Int} (changes : zone.ChangesAt moment)
    (once : zone.ChangesOnce (moment - 129600000) (moment + 172800000))
    (begun : moment - 129600000 ≤ millis) (ended : millis < moment + 172800000) :
    zone.offsetAt millis = zone.offsetAt (if millis < moment then moment - 1 else moment) := by
  -- Either nothing changes between the moment and the change, or nothing changes after it.
  split
  · -- Up to the moment nothing changes.
    rename_i before
    refine (offsetAt_eq_of_unchanged (by omega) ?_).symm
    intro other after notLater otherChanges
    have one := once other moment (by omega) (by omega) (by omega) (by omega) otherChanges changes
    omega
  · refine offsetAt_eq_of_unchanged (by omega) ?_
    intro other after notLater otherChanges
    have one := once other moment (by omega) (by omega) (by omega) (by omega) otherChanges changes
    omega

/--
A skipped reading is taken with the offset before the clocks went forward, exactly if that is the offset of half a day
before the reading.

Where no other change is near, this is so exactly for readings less than twelve hours ahead of the moment of change.
The instant then lies at or after that moment, and its own reading is later by what the clocks went forward. Any other
skipped reading is taken with the offset after the change, for an instant before it.
-/
theorem ofWall?_skipped_iff {place : Region} (formed : place.WellFormed) (settled : place.Settled)
    {moment wall before after : Int} (civil : clampCivil wall = wall)
    (skips : (region place).Skips moment wall)
    (beforeIs : (region place).offsetAt (moment - 1) = before)
    (afterIs : (region place).offsetAt moment = after) :
    ((region place).ofWall? wall = some (wall - before) ↔
      (region place).offsetAt (wall - 43200000) = before) ∧
    ((region place).ChangesOnce (moment - 129600000) (moment + 172800000) →
      ((region place).ofWall? wall = some (wall - before) ↔ wall < moment + 43200000) ∧
      (moment ≤ wall - before ∧
        wall - before + (region place).offsetAt (wall - before) = wall + (after - before)) ∧
      (moment + 43200000 ≤ wall →
        (region place).ofWall? wall = some (wall - after) ∧ wall - after < moment)) := by
  obtain ⟨forward, reached, passed, unshown⟩ := skips
  have smallBefore := offsetAt_region formed (moment - 1)
  have smallAfter := offsetAt_region formed moment
  rw [beforeIs] at forward reached smallBefore
  rw [afterIs] at forward passed smallAfter
  have read := ofWall?_of_unshown formed settled civil unshown
  -- The answer is the reading less the offset of half a day before, whatever that is.
  have general : (region place).ofWall? wall = some (wall - before) ↔
      (region place).offsetAt (wall - 43200000) = before := by
    rw [read, Option.some.injEq]
    omega
  refine ⟨general, ?_⟩
  intro once
  -- Half a day before, and at the instant found, only this one change decides the offset.
  have changes : (region place).ChangesAt moment := by
    rw [ChangesAt, beforeIs, afterIs]
    omega
  have looked := offsetAt_around changes once (show moment - 129600000 ≤ wall - 43200000 by omega)
    (by omega)
  have landed := offsetAt_around changes once (show moment - 129600000 ≤ wall - before by omega)
    (by omega)
  rw [if_neg (by omega), afterIs] at landed
  refine ⟨?_, ⟨by omega, by rw [landed]; omega⟩, ?_⟩
  · rw [general, looked]
    by_cases early : wall - 43200000 < moment
    · rw [if_pos early, beforeIs]
      omega
    · rw [if_neg early, afterIs]
      omega
  · intro ahead
    rw [if_neg (by omega), afterIs] at looked
    rw [read, looked]
    exact ⟨rfl, by omega⟩

/-- The clocks of Auckland around 2024-09-29, when they went forward from two to three o'clock. -/
private def auckland2024 : Region :=
  ⟨"Pacific/Auckland", ⟨43200, 0⟩, [⟨1727532000, ⟨43200, 3600⟩⟩]⟩

/-- Half past two is skipped and taken with the offset after: as UTC, half a day earlier, the clocks have changed. -/
theorem ofWall?_skipped_auckland :
    auckland2024.WellFormed ∧ auckland2024.Settled ∧
      clampCivil 1727577000000 = 1727577000000 ∧
      (region auckland2024).Skips 1727532000000 1727577000000 ∧
      (region auckland2024).offsetAt (1727532000000 - 1) = 43200000 ∧
      (region auckland2024).offsetAt 1727532000000 = 46800000 ∧
      (region auckland2024).ofWall? 1727577000000 ≠ some (1727577000000 - 43200000) ∧
      (region auckland2024).ofWall? 1727577000000 = some (1727577000000 - 46800000) := by
  have formed : auckland2024.WellFormed := by decide
  have settled : auckland2024.Settled := by decide
  have before : (region auckland2024).offsetAt (1727532000000 - 1) = 43200000 := by decide
  have after : (region auckland2024).offsetAt 1727532000000 = 46800000 := by decide
  have skips : (region auckland2024).Skips 1727532000000 1727577000000 :=
    ⟨by rw [before, after]; decide, by rw [before]; decide, by rw [after]; decide,
      (unshown_iff formed settled).mpr (by decide)⟩
  have once : (region auckland2024).ChangesOnce (1727532000000 - 129600000)
      (1727532000000 + 172800000) := by
    apply Region.changesOnce_of_listed
    decide
  -- With no other change near, the general theorem tells which offset is taken.
  obtain ⟨-, isolated⟩ := ofWall?_skipped_iff formed settled (by decide) skips before after
  obtain ⟨asBefore, -, asAfter⟩ := isolated once
  refine ⟨formed, settled, by decide, skips, before, after, ?_, (asAfter (by decide)).1⟩
  rw [Ne, asBefore]
  decide

end Zone

end DatePattern
