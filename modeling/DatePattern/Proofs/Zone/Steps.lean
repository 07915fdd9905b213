import DatePattern.Proofs.Zone.Offsets
import Mathlib.Data.Int.Init
import Mathlib.Tactic.ByContra

/-! Zones as step functions: where the offset changes, and where it stays as it is. -/

namespace DatePattern

namespace Zone

/-- Whether the whole offset of a zone changes at a millisecond. -/
def ChangesAt (zone : Zone) (millis : Int) : Prop :=
  zone.offsetAt (millis - 1) ≠ zone.offsetAt millis

/-- Whether the whole offset of a zone changes at most once between two moments. -/
def ChangesOnce (zone : Zone) (start stop : Int) : Prop :=
  ∀ first second, start < first → first < stop → start < second → second < stop →
    zone.ChangesAt first → zone.ChangesAt second → first = second

/-- An offset that is not what it was before has changed in the meantime. -/
theorem exists_change {zone : Zone} {start millis : Int} (begun : start ≤ millis)
    (differ : zone.offsetAt millis ≠ zone.offsetAt start) :
    ∃ moment, start < moment ∧ moment ≤ millis ∧ zone.ChangesAt moment := by
  -- The last millisecond has a change, or else there was one before it.
  induction millis, begun using Int.leInduction with
  | base => exact absurd rfl differ
  | succ millis begun ih =>
    by_cases same : zone.offsetAt millis = zone.offsetAt start
    · refine ⟨millis + 1, by omega, by omega, ?_⟩
      rw [ChangesAt, Int.add_sub_cancel, same]
      exact differ.symm
    · obtain ⟨moment, after, before, changes⟩ := ih same
      exact ⟨moment, after, by omega, changes⟩

/-- Where the offset changes at most once, it cannot leave a value and come back to it. -/
theorem ChangesOnce.offsetAt_eq {zone : Zone} {start stop early millis late : Int}
    (once : zone.ChangesOnce start stop) (begun : start ≤ early) (ended : late < stop)
    (same : zone.offsetAt early = zone.offsetAt late) (after : early ≤ millis)
    (before : millis ≤ late) : zone.offsetAt millis = zone.offsetAt early := by
  by_contra differ
  -- It would have changed on the way there, and again on the way back.
  obtain ⟨first, afterEarly, beforeMillis, changes⟩ := exists_change after differ
  obtain ⟨second, afterMillis, beforeLate, changes'⟩ := exists_change before
    (show zone.offsetAt late ≠ zone.offsetAt millis by rw [← same]; exact Ne.symm differ)
  have one := once first second (by omega) (by omega) (by omega) (by omega) changes changes'
  omega

end Zone

namespace Region

/-- Moments between which no change is listed have the same offsets. -/
theorem offsetsAfter_congr (current : Offsets) {changes : List Change} {second other : Int}
    (alike : ∀ change ∈ changes, change.second ≤ second ↔ change.second ≤ other) :
    offsetsAfter current changes second = offsetsAfter current changes other := by
  -- Going through the list, each change has come by both moments or by neither.
  induction changes generalizing current with
  | nil => rfl
  | cons change later ih =>
    simp only [offsetsAfter, alike change List.mem_cons_self]
    rw [ih change.offsets fun next listed => alike next (List.mem_cons_of_mem _ listed)]

/-- The offset of a region is a count of whole seconds. -/
theorem offsetAt_whole (place : Region) (millis : Int) :
    (Zone.region place).offsetAt millis % 1000 = 0 := by
  -- Listed offsets are seconds, which a thousand multiplies.
  simp only [Zone.offsetAt, Zone.offsetsAt, Offsets.total]
  omega

/-- The offset of a region changes only at the changes that are listed for it. -/
theorem exists_of_changesAt {place : Region} {millis : Int}
    (changes : (Zone.region place).ChangesAt millis) :
    ∃ change ∈ place.changes, millis = change.second * 1000 := by
  by_contra unlisted
  apply changes
  -- Without a change in that second both sides of it have the same offsets.
  have same : place.offsetsAt (Zone.clampCivil (millis - 1) / 1000) =
      place.offsetsAt (Zone.clampCivil millis / 1000) := by
    apply offsetsAfter_congr
    intro change listed
    have elsewhere : millis ≠ change.second * 1000 := fun here => unlisted ⟨change, listed, here⟩
    simp only [Zone.clampCivil, Instant.firstCivilSecond, Instant.lastCivilSecond]
    omega
  simp only [Zone.offsetAt, Zone.offsetsAt, same]

/-- A region changes at most once between two moments if at most one change is listed between them. -/
theorem changesOnce_of_listed {place : Region} {start stop : Int}
    (single : ∀ first ∈ place.changes, ∀ second ∈ place.changes,
      start < first.second * 1000 → first.second * 1000 < stop →
      start < second.second * 1000 → second.second * 1000 < stop →
        first.second = second.second) : (Zone.region place).ChangesOnce start stop := by
  -- Each of the two changes is listed, and the listed ones agree.
  intro first second begun ended begun' ended' changes changes'
  obtain ⟨change, listed, rfl⟩ := exists_of_changesAt changes
  obtain ⟨other, listed', rfl⟩ := exists_of_changesAt changes'
  rw [single change listed other listed' begun ended begun' ended']

end Region

end DatePattern
