import DatePattern.Calendar.Resolve
import DatePattern.Proofs.Instant.Exact
import DatePattern.Proofs.Zone.Settled
import Mathlib.Data.Option.Basic

/-!
Resolved nanoseconds: all other fields give a millisecond, to which the lowest 32 bits of the nanoseconds are added.

Every count of nanoseconds is taken that way, so that a negative one, or one with more bits, is not added as it is.
-/

namespace DatePattern.Collected

/-- The collected fields without one of them. -/
def without (collected : Collected) (field : Field) : Collected :=
  { collected with
    value? := fun other => if other = field then none else collected.value? other }

/-- The millisecond that the fields denote, whatever nanoseconds are known. -/
def millis? (collected : Collected) (zone : Zone) (calendar : Calendar) : Option Int := do
  let year ← collected.gregorianYear? calendar.system
  let month := collected.valueD .month 0
  let monthYear ← Count.within? (year + month / 12)
  guard (year.natAbs ≤ greatestYear ∧ monthYear.natAbs ≤ greatestYear)
  let monthStart := Date.toDay ⟨monthYear, month % 12 + 1, 1⟩
  let day ← collected.day? calendar.weeks year monthStart
  let time ← collected.time?
  let midnight ← Count.within? (day * 86400000)
  let wall ← Count.within? (midnight + time)
  collected.moment? zone wall

variable {collected : Collected} {zone : Zone} {calendar : Calendar}

/-- The nanoseconds are added once the millisecond is known. -/
theorem resolve?_eq_bind (collected : Collected) (zone : Zone) (calendar : Calendar) :
    collected.resolve? zone calendar =
      (collected.millis? zone calendar).bind fun millis =>
        (Instant.ofMillis millis).addNanos? collected.nanos := by
  -- Nanoseconds enter into the last step only, and every step before it is one of the millisecond.
  simp only [resolve?, millis?, Option.bind_eq_bind, Option.bind_assoc]

/-- Known nanoseconds do not change the millisecond. -/
theorem millis?_set (value : Int) :
    (collected.set .nanoOfSecond value).millis? zone calendar = collected.millis? zone calendar :=
  rfl

/-- Unknown nanoseconds do not change the millisecond either. -/
theorem millis?_without :
    (collected.without .nanoOfSecond).millis? zone calendar = collected.millis? zone calendar :=
  rfl

/-- A moment fits into the range of counts wherever the reading of the clock does. -/
theorem fits_moment? (formed : (collected.zone?.getD zone).WellFormed) {wall millis : Int}
    (wallFits : Count.Fits wall) (found : collected.moment? zone wall = some millis) :
    Count.Fits millis := by
  -- The offset that was read counts before the zone, so the cases are those of the definition.
  unfold moment? at found
  split at found
  next =>
    -- The offset that was read is taken off with a check.
    obtain ⟨offset, -, taken⟩ := Option.bind_eq_some_iff.mp found
    obtain ⟨fits, rfl⟩ := Count.within?_eq_some_iff.mp taken
    exact fits
  -- Otherwise a zone finds the moment, and no zone finds one beyond the counts.
  next => exact Zone.fits_ofWall? formed wallFits found

/-- The millisecond that fields denote fits into the range of counts. -/
theorem fits_millis? (formed : (collected.zone?.getD zone).WellFormed) {millis : Int}
    (found : collected.millis? zone calendar = some millis) : Count.Fits millis := by
  -- The last step before the moment is the sum of the day and the time, which was checked.
  simp only [millis?, Option.bind_eq_bind, Option.bind_eq_some_iff] at found
  obtain ⟨_, -, _, -, _, -, _, -, _, -, _, -, wall, within, moment⟩ := found
  obtain ⟨wallFits, rfl⟩ := Count.within?_eq_some_iff.mp within
  exact fits_moment? formed wallFits moment

/-- Without nanoseconds the fields resolve to the instant of their millisecond. -/
theorem resolve?_without (formed : (collected.zone?.getD zone).WellFormed) :
    (collected.without .nanoOfSecond).resolve? zone calendar =
      (collected.millis? zone calendar).map Instant.ofMillis := by
  -- A field that is left out is taken for zero.
  have unknown : (collected.without .nanoOfSecond).nanos = 0 := by
    simp [nanos, valueD, without]
  rw [resolve?_eq_bind, millis?_without, unknown]
  -- Zero nanoseconds are added to the millisecond if there is one.
  cases found : collected.millis? zone calendar with
  | none => rfl
  | some millis =>
    rw [Option.bind_some, Option.map_some, Instant.addNanos?_zero (fits_millis? formed found)]

/-- With nanoseconds the fields resolve to the sum of their millisecond and 32 bits of them. -/
theorem resolve?_set (formed : (collected.zone?.getD zone).WellFormed) (value : Int) :
    (collected.set .nanoOfSecond value).resolve? zone calendar =
      (collected.millis? zone calendar).map fun millis =>
        .ofNanos (millis * 1000000 + value % 4294967296) := by
  -- What was set is what is known, up to the cast.
  have known : (collected.set .nanoOfSecond value).nanos = value % 4294967296 := rfl
  rw [resolve?_eq_bind, millis?_set, known]
  cases found : collected.millis? zone calendar with
  | none => rfl
  | some millis =>
    -- The nanoseconds are a word of 32 bits, so they are never negative.
    have word : 0 ≤ value % 4294967296 ∧ value % 4294967296 < 4294967296 := by omega
    rw [Option.bind_some, Option.map_some,
      Instant.addNanos?_ofMillis_word (fits_millis? formed found) word]

/--
Known nanoseconds are added as their lowest 32 bits, so that their sum is always there.

It is the checked sum with the nanoseconds themselves precisely where they have no other bits, or where the other
fields denote no instant at all.
-/
theorem resolve?_set_nanos_iff (calendar : Calendar)
    (formed : (collected.zone?.getD zone).WellFormed) (value : Int) :
    (collected.set .nanoOfSecond value).resolve? zone calendar =
        ((collected.without .nanoOfSecond).resolve? zone calendar).bind
          (·.addNanos? (value % 4294967296)) ∧
      ((collected.set .nanoOfSecond value).resolve? zone calendar = none ↔
        (collected.without .nanoOfSecond).resolve? zone calendar = none) ∧
      ((collected.set .nanoOfSecond value).resolve? zone calendar =
          ((collected.without .nanoOfSecond).resolve? zone calendar).bind (·.addNanos? value) ↔
        (collected.without .nanoOfSecond).resolve? zone calendar = none ∨
          0 ≤ value ∧ value < 4294967296) := by
  -- All three parts are about the sum with the millisecond, which does not depend on the
  -- nanoseconds.
  rw [resolve?_set formed, resolve?_without formed]
  cases found : collected.millis? zone calendar with
  | none => simp
  | some millis =>
    -- The sum with a word of 32 bits is always there, which settles the first two parts.
    have fits := fits_millis? formed found
    have word : 0 ≤ value % 4294967296 ∧ value % 4294967296 < 4294967296 := by omega
    simp only [Option.map_some, Option.bind_some, reduceCtorEq, false_or, iff_self, true_and]
    refine ⟨(Instant.addNanos?_ofMillis_word fits word).symm, ?_, ?_⟩
    · -- What is added exactly tells how much was added.
      intro same
      have total := (Instant.addNanos?_eq_some_iff.mp same.symm).2.2
      rw [Instant.nanos_ofNanos, Instant.nanos_ofMillis] at total
      omega
    · -- Within 32 bits the cast does nothing.
      intro inside
      rw [Instant.addNanos?_ofMillis_word fits inside, Int.emod_eq_of_lt inside.1 inside.2]

/-- A nanosecond less than none is added as more than four seconds. -/
theorem resolve?_set_nanos_iff_negative :
    (empty.zone?.getD Zone.utc).WellFormed ∧
      (empty.set .nanoOfSecond (-1)).resolve? .utc ⟨.gregorian, ⟨1, 1⟩⟩ = some ⟨4, 294967295⟩ ∧
      (empty.set .nanoOfSecond (-1)).resolve? .utc ⟨.gregorian, ⟨1, 1⟩⟩ ≠
        ((empty.without .nanoOfSecond).resolve? .utc ⟨.gregorian, ⟨1, 1⟩⟩).bind
          (·.addNanos? (-1)) := by
  -- One less than zero is cast to the greatest word, and adds four seconds and a fraction.
  have formed : (empty.zone?.getD Zone.utc).WellFormed := trivial
  obtain ⟨added, -, exact_iff⟩ := resolve?_set_nanos_iff ⟨.gregorian, ⟨1, 1⟩⟩ formed (-1)
  exact ⟨formed, added.trans (by decide), mt exact_iff.mp (by decide)⟩

end DatePattern.Collected
