import DatePattern.Proofs.Zone.Offsets

/-! Zones far from their changes: towards both ends of time the clocks keep one offset. -/

namespace DatePattern

namespace Region

/-- A history whose changes all lie three days or more inside the civil range. -/
def Settled (region : Region) : Prop :=
  ∀ change ∈ region.changes, Instant.firstCivilSecond + 259200 ≤ change.second ∧
    change.second ≤ Instant.lastCivilSecond - 259200

instance (region : Region) : Decidable region.Settled :=
  inferInstanceAs (Decidable (∀ change ∈ region.changes, _))

/-- Before all changes the clocks stay as they are. -/
theorem offsetsAfter_of_lt (current : Offsets) {changes : List Change} {second : Int}
    (before : ∀ change ∈ changes, second < change.second) :
    offsetsAfter current changes second = current := by
  -- The first change is still to come, and the others come later.
  cases changes with
  | nil => rfl
  | cons change later =>
    have first := before change List.mem_cons_self
    simp only [offsetsAfter]
    rw [if_neg (by omega)]

/-- After all changes it does not matter how long ago they were. -/
theorem offsetsAfter_of_le (current : Offsets) {changes : List Change} {second other : Int}
    (after : ∀ change ∈ changes, change.second ≤ second)
    (otherAfter : ∀ change ∈ changes, change.second ≤ other) :
    offsetsAfter current changes second = offsetsAfter current changes other := by
  -- A change that is passed sets the offsets, and the later ones are passed as well.
  induction changes generalizing current with
  | nil => rfl
  | cons change later ih =>
    simp only [offsetsAfter]
    rw [if_pos (after change List.mem_cons_self), if_pos (otherAfter change List.mem_cons_self)]
    exact ih change.offsets (fun next listed => after next (List.mem_cons_of_mem _ listed))
      fun next listed => otherAfter next (List.mem_cons_of_mem _ listed)

/-- The offsets of a stretch of time are those at the beginning or those of some change. -/
theorem mem_spansFrom {start? : Option Int} {current : Offsets} {changes : List Change}
    {span : Span} (listed : span ∈ spansFrom start? current changes) :
    span.offsets = current ∨ ∃ change ∈ changes, span.offsets = change.offsets := by
  -- Each stretch but the first one begins with a change.
  induction changes generalizing start? current with
  | nil =>
    rw [spansFrom, List.mem_singleton] at listed
    exact .inl (by rw [listed])
  | cons change later ih =>
    rcases List.mem_cons.mp listed with first | rest
    · exact .inl (by rw [first])
    · -- The later stretches begin with the offsets of the change.
      right
      rcases ih rest with same | ⟨other, among, same⟩
      · exact ⟨change, List.mem_cons_self, same⟩
      · exact ⟨other, List.mem_cons_of_mem _ among, same⟩

/-- The offsets by which a wall clock shows a second are less than a day. -/
theorem offsetsShowing?_small {region : Region} (formed : region.WellFormed) {wall : Int}
    {offsets : Offsets} (shown : region.offsetsShowing? wall = some offsets) : offsets.Small := by
  -- The stretch that is found has the offsets of the region itself or of one of its changes, which
  -- are all small.
  simp only [offsetsShowing?, Option.map_eq_some_iff] at shown
  obtain ⟨span, found, rfl⟩ := shown
  rcases mem_spansFrom (List.mem_of_find?_eq_some found) with same | ⟨change, listed, same⟩
  · rw [same]
    exact formed.initial
  · rw [same]
    exact formed.changes change listed

end Region

namespace Zone

/-- A zone whose clocks keep one offset towards both ends of time. -/
def Settled : Zone → Prop
  | .utc => True
  | .fixed _ => True
  | .region place => place.Settled

instance : (zone : Zone) → Decidable zone.Settled
  | .utc => inferInstanceAs (Decidable True)
  | .fixed _ => inferInstanceAs (Decidable True)
  | .region place => inferInstanceAs (Decidable place.Settled)

/-- A region is less than a day away from UTC at every moment. -/
theorem offsetAt_region {place : Region} (formed : place.WellFormed) (millis : Int) :
    -86400000 < (Zone.region place).offsetAt millis ∧
      (Zone.region place).offsetAt millis < 86400000 := by
  -- Both parts of the offset are small in every history that is well formed.
  have small := Region.offsetsAt_small formed (clampCivil millis / 1000)
  simp only [Offsets.Small, Offsets.total] at small
  simp only [offsetAt, offsetsAt, Offsets.total]
  omega

/-- Two offsets of a zone are less than two days apart. -/
theorem offsetAt_near {zone : Zone} (formed : zone.WellFormed) (millis other : Int) :
    (zone.offsetAt millis - zone.offsetAt other).natAbs < 172800000 := by
  -- Only a region can have more than one offset.
  cases zone with
  | utc => simp [offsetAt, offsetsAt]
  | fixed offset => simp [offsetAt, offsetsAt]
  | region place =>
    have small := offsetAt_region formed millis
    have small' := offsetAt_region formed other
    omega

/-- Two offsets of a zone differ by whole seconds. -/
theorem offsetAt_seconds (zone : Zone) (millis other : Int) :
    zone.offsetAt millis % 1000 = zone.offsetAt other % 1000 := by
  cases zone with
  | utc => rfl
  | fixed offset => rfl
  | region place =>
    -- The offsets of a region are counted in seconds.
    simp only [offsetAt, offsetsAt, Offsets.total]
    omega

/-- Early moments have the same offset. -/
theorem offsetAt_early {place : Region} (settled : place.Settled) {millis other : Int}
    (early : millis < (Instant.firstCivilSecond + 259200) * 1000)
    (otherEarly : other < (Instant.firstCivilSecond + 259200) * 1000) :
    (Zone.region place).offsetAt millis = (Zone.region place).offsetAt other := by
  -- No change has come yet, so that the region is as it was at first.
  have initial : ∀ moment, moment < (Instant.firstCivilSecond + 259200) * 1000 →
      place.offsetsAt (clampCivil moment / 1000) = place.initial := by
    intro moment before
    apply Region.offsetsAfter_of_lt
    intro change listed
    have begins := (settled change listed).1
    -- Held at the civil range, the moment is still before the first change.
    have inside : clampCivil moment / 1000 < Instant.firstCivilSecond + 259200 := by
      simp only [clampCivil, Instant.firstCivilSecond, Instant.lastCivilSecond] at before ⊢
      omega
    omega
  simp only [offsetAt, offsetsAt, initial _ early, initial _ otherEarly]

/-- Late moments have the same offset. -/
theorem offsetAt_late {place : Region} (settled : place.Settled) {millis other : Int}
    (late : (Instant.lastCivilSecond - 259200) * 1000 ≤ millis)
    (otherLate : (Instant.lastCivilSecond - 259200) * 1000 ≤ other) :
    (Zone.region place).offsetAt millis = (Zone.region place).offsetAt other := by
  -- All changes have come, so that the last one counts.
  have reached : ∀ moment, (Instant.lastCivilSecond - 259200) * 1000 ≤ moment →
      ∀ change ∈ place.changes, change.second ≤ clampCivil moment / 1000 := by
    intro moment after change listed
    have ends := (settled change listed).2
    -- Held at the civil range, the moment is still after the last change.
    have inside : Instant.lastCivilSecond - 259200 ≤ clampCivil moment / 1000 := by
      simp only [clampCivil, Instant.firstCivilSecond, Instant.lastCivilSecond] at after ⊢
      omega
    omega
  simp only [offsetAt, offsetsAt, Region.offsetsAt,
    Region.offsetsAfter_of_le place.initial (reached _ late) (reached _ otherLate)]

/-- The number of the day that the clocks of a zone show at a moment. -/
def localDay (zone : Zone) (millis : Int) : Int :=
  Count.clamp (millis + zone.offsetAt millis) / 86400000

/-- Half a day before a reading inside the civil range can be counted, and its offset can be taken off. -/
theorem fits_of_civil {place : Region} (formed : place.WellFormed) {wall : Int}
    (inside : clampCivil wall = wall) : Count.Fits (wall - 43200000) ∧
      Count.Fits (wall - (Zone.region place).offsetAt (wall - 43200000)) := by
  -- The civil range ends far inside the range of counts.
  have small := offsetAt_region formed (wall - 43200000)
  simp only [clampCivil, Instant.firstCivilSecond, Instant.lastCivilSecond] at inside
  exact ⟨Count.fits_of_natAbs_le (by omega), Count.fits_of_natAbs_le (by omega)⟩

/-- A reading inside the civil range is read in every region. -/
theorem ofWall?_inside {place : Region} (formed : place.WellFormed) {wall : Int}
    (inside : clampCivil wall = wall) :
    ∃ millis, (Zone.region place).ofWall? wall = some millis ∧ wall - 86400000 ≤ millis ∧
      millis ≤ wall + 86400000 := by
  simp only [ofWall?, inside, ne_eq, not_true_eq_false, if_false]
  cases shown : place.offsetsShowing? (wall / 1000) with
  | some offsets =>
    have small := Region.offsetsShowing?_small formed shown
    simp only [Offsets.Small] at small
    exact ⟨_, rfl, by omega, by omega⟩
  | none =>
    -- A skipped reading is read with the offset of some moment, which is small as well.
    have small := offsetAt_region formed (wall - 43200000)
    have fits := fits_of_civil formed inside
    simp only [Count.within?_of_fits fits.1, Option.bind_eq_bind, Option.bind_some,
      Count.within?_of_fits fits.2]
    exact ⟨_, rfl, by omega, by omega⟩

/-- The moment of a reading that fits is one that fits. -/
theorem fits_ofWall? {zone : Zone} (formed : zone.WellFormed) {wall millis : Int}
    (wallFits : Count.Fits wall) (found : zone.ofWall? wall = some millis) : Count.Fits millis := by
  -- UTC leaves the reading as it is, and a fixed offset is taken off only if the result fits.
  cases zone with
  | utc => exact Option.some.inj found ▸ wallFits
  | fixed offset =>
    obtain ⟨fits, rfl⟩ := Count.within?_eq_some_iff.mp found
    exact fits
  | region place =>
    -- The zone has no moment for what lies outside the civil range.
    have inside : clampCivil wall = wall := by
      apply Decidable.byContradiction
      intro outside
      simp only [ofWall?, ne_eq, outside, not_false_eq_true, if_true, reduceCtorEq] at found
    obtain ⟨moment, known, low, high⟩ := ofWall?_inside formed inside
    obtain rfl := Option.some.inj (known.symm.trans found)
    simp only [clampCivil, Instant.firstCivilSecond, Instant.lastCivilSecond] at inside
    exact Count.fits_of_natAbs_le (by omega)

end Zone

end DatePattern
