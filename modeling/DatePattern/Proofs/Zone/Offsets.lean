import DatePattern.Zone.Basic

/-! Zones that a clock can follow: changes in order, and offsets of less than a day. -/

namespace DatePattern

/-- Offsets of less than a day in either direction. -/
def Offsets.Small (offsets : Offsets) : Prop := -86400 < offsets.total ∧ offsets.total < 86400

instance (offsets : Offsets) : Decidable offsets.Small := inferInstanceAs (Decidable (_ ∧ _))

/-- A history that a place can have. -/
structure Region.WellFormed (region : Region) : Prop where
  /-- The changes are listed in the order of time. -/
  ordered : region.changes.Pairwise fun earlier later => earlier.second < later.second
  /-- The clocks begin less than a day away from UTC. -/
  initial : region.initial.Small
  /-- The clocks stay less than a day away from UTC. -/
  changes : ∀ change ∈ region.changes, change.offsets.Small

instance (region : Region) : Decidable region.WellFormed :=
  decidable_of_iff (region.changes.Pairwise (fun earlier later => earlier.second < later.second) ∧
      region.initial.Small ∧ ∀ change ∈ region.changes, change.offsets.Small)
    ⟨fun ⟨a, b, c⟩ => ⟨a, b, c⟩, fun ⟨a, b, c⟩ => ⟨a, b, c⟩⟩

/-- A zone that can be held: its offset has 32 bits, or its region has a possible history. -/
def Zone.WellFormed : Zone → Prop
  | .utc => True
  | .fixed offset => -2147483648 ≤ offset ∧ offset ≤ 2147483647
  | .region place => place.WellFormed

instance : (zone : Zone) → Decidable zone.WellFormed
  | .utc => inferInstanceAs (Decidable True)
  | .fixed _ => inferInstanceAs (Decidable (_ ∧ _))
  | .region place => inferInstanceAs (Decidable place.WellFormed)

namespace Region

/-- The offsets in force are the ones at the beginning or those of some change. -/
theorem offsetsAfter_mem (current : Offsets) (changes : List Change) (second : Int) :
    offsetsAfter current changes second = current ∨
      ∃ change ∈ changes, offsetsAfter current changes second = change.offsets := by
  -- The changes are gone through in order, and the offsets of the last one that has come are kept.
  induction changes generalizing current with
  | nil => exact .inl rfl
  | cons change later ih =>
    simp only [offsetsAfter]
    split
    · -- From the change on, its offsets are the current ones.
      right
      rcases ih change.offsets with same | ⟨other, listed, same⟩
      · exact ⟨change, List.mem_cons_self, same⟩
      · exact ⟨other, List.mem_cons_of_mem _ listed, same⟩
    · exact .inl rfl

/-- At every moment the offset is less than a day. -/
theorem offsetsAt_small {region : Region} (formed : region.WellFormed) (second : Int) :
    (region.offsetsAt second).Small := by
  -- The offsets in force are listed somewhere, and every listed pair is small.
  rcases offsetsAfter_mem region.initial region.changes second with same | ⟨change, listed, same⟩
  · rw [offsetsAt, same]
    exact formed.initial
  · rw [offsetsAt, same]
    exact formed.changes change listed

end Region

/-- Every offset of a zone has 32 bits. -/
theorem Zone.offsetAt_bounds {zone : Zone} (formed : zone.WellFormed) (millis : Int) :
    -2147483648 ≤ zone.offsetAt millis ∧ zone.offsetAt millis ≤ 2147483647 := by
  -- Fixed offsets are given in 32 bits, and those of regions are below one day.
  cases zone with
  | utc => simp [offsetAt, offsetsAt, Offsets.total]
  | fixed offset =>
    simp only [WellFormed] at formed
    simp only [offsetAt, offsetsAt, Offsets.total]
    omega
  | region place =>
    have small := Region.offsetsAt_small formed (clampCivil millis / 1000)
    simp only [Offsets.Small, Offsets.total] at small
    simp only [offsetAt, offsetsAt, Offsets.total]
    omega

/-- A zone of one offset has the same offset at any two moments. -/
theorem Zone.offsetAt_of_constant {zone : Zone}
    (constant : zone = .utc ∨ ∃ offset, zone = .fixed offset) (millis other : Int) :
    zone.offsetAt millis = zone.offsetAt other := by
  -- Neither of them looks at the moment.
  rcases constant with rfl | ⟨offset, rfl⟩ <;> rfl

/-- A zone of one offset of whole seconds has that offset at every moment. -/
theorem Zone.offsetAt_of_wholeSeconds {zone : Zone}
    (constant : zone = .utc ∨ ∃ offset, zone = .fixed offset ∧ offset % 1000 = 0) :
    ∃ seconds, ∀ moment, zone.offsetAt moment = 1000 * seconds := by
  rcases constant with rfl | ⟨offset, rfl, whole⟩
  · exact ⟨0, fun _ => rfl⟩
  · -- Milliseconds of whole seconds are divided without a remainder.
    refine ⟨offset / 1000, fun moment => ?_⟩
    simp only [Zone.offsetAt, Zone.offsetsAt, Offsets.total]
    omega

end DatePattern
