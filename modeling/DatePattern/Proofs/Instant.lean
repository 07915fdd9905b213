import DatePattern.Instant

/-! Laws of instants and of the counts that hold them, up to both ends of their range. -/

namespace DatePattern

/-- A clamp is the number itself, or the end of the range that the number lies beyond. -/
theorem Count.clamp_cases (n : Int) :
    n < least ∧ clamp n = least ∨ least ≤ n ∧ n ≤ greatest ∧ clamp n = n ∨
      greatest < n ∧ clamp n = greatest := by
  -- Either end takes what lies beyond it, and what lies between the ends is not touched by either.
  simp only [clamp, least, greatest]
  omega

/-- Clamping keeps the order and does not move numbers apart. -/
theorem Count.clamp_mono {n m : Int} (ordered : n ≤ m) :
    clamp n ≤ clamp m ∧ clamp m - clamp n ≤ m - n := by
  -- Both ends are applied to both numbers, so that two numbers can only come closer.
  simp only [clamp, least, greatest]
  omega

namespace Instant

/--
The instant of a count of milliseconds has that count again, but for the first of the range.

There the whole second begins before the range, so that it is held at the first millisecond.
-/
theorem millis_ofMillis {millis : Int} (fits : Count.Fits millis) :
    millis ≤ (ofMillis millis).millis ∧ (ofMillis millis).millis ≤ millis + 192 ∧
      (Count.least + 808 ≤ millis → (ofMillis millis).millis = millis) := by
  -- The milliseconds of the second come back from its nanoseconds.
  have parts : (millis % 1000).toNat * 1000000 / 1000000 = (millis % 1000).toNat :=
    Nat.mul_div_cancel _ (by decide)
  simp only [Instant.millis, ofMillis, parts]
  -- The whole seconds and the rest of them make up the count again.
  have split : millis / 1000 * 1000 + ((millis % 1000).toNat : Int) = millis := by omega
  simp only [Count.Fits, Count.least, Count.greatest] at fits
  -- The product is held only where the second begins below the range, which is its first second
  -- alone.
  simp only [Count.clamp, Count.least, Count.greatest]
  omega

/-- A count of milliseconds always fits. -/
theorem fits_millis (instant : Instant) : Count.Fits instant.millis :=
  -- The last step that counts the milliseconds is a clamp.
  Count.fits_clamp _

/-- The nanoseconds past the millisecond are less than one. -/
theorem nanoOfMilli_lt (instant : Instant) : instant.nanoOfMilli < 1000000 :=
  -- What a division by a million leaves is less than a million.
  Nat.mod_lt _ (by decide)

/-- The exact nanoseconds since the epoch. -/
def nanos (instant : Instant) : Int := instant.second * 1000000000 + instant.nano

/-- The instant of a count of nanoseconds since the epoch. -/
def ofNanos (nanos : Int) : Instant := ⟨nanos / 1000000000, (nanos % 1000000000).toNat⟩

/-- The instant of a count of nanoseconds has that count. -/
@[simp] theorem nanos_ofNanos (count : Int) : (ofNanos count).nanos = count := by
  -- The quotient and the remainder of the count make it up again.
  simp only [nanos, ofNanos]
  omega

/-- The nanoseconds of the instant of a count are less than a second. -/
theorem nano_ofNanos_lt (count : Int) : (ofNanos count).nano < 1000000000 := by
  -- The nanoseconds are what is left over whole seconds.
  simp only [ofNanos]
  omega

/-- An instant with less than a second of nanoseconds is that of its count. -/
theorem ofNanos_nanos {instant : Instant} (proper : instant.nano < 1000000000) :
    ofNanos instant.nanos = instant := by
  -- Nanoseconds of less than a second are their own remainder, so that the second is the quotient.
  obtain ⟨second, nano⟩ := instant
  simp only [ofNanos, nanos, mk.injEq] at proper ⊢
  omega

/-- The instant of a count of milliseconds is a million nanoseconds for each of them. -/
theorem nanos_ofMillis (millis : Int) : (ofMillis millis).nanos = millis * 1000000 := by
  -- The milliseconds left over seconds are a million nanoseconds each, and so are those in the
  -- seconds.
  simp only [nanos, ofMillis]
  omega

/-- A sum is that of the counts, where the nanoseconds and the seconds of the sum both fit. -/
theorem addNanos?_eq (instant : Instant) (count : Int) :
    instant.addNanos? count =
      if Count.Fits (instant.nano + count) ∧
          Count.Fits ((instant.nanos + count) / 1000000000) then
        some (ofNanos (instant.nanos + count))
      else none := by
  -- The whole seconds of the instant pass through both divisions as they are.
  have carried : instant.second + (instant.nano + count) / 1000000000 =
      (instant.nanos + count) / 1000000000 := by
    simp only [nanos]
    omega
  have left : (instant.nano + count) % 1000000000 = (instant.nanos + count) % 1000000000 := by
    simp only [nanos]
    omega
  simp only [addNanos?, Count.within?]
  -- The sum of the nanoseconds is checked first, and then the second that it is carried to.
  by_cases total : Count.Fits (instant.nano + count)
  · by_cases second : Count.Fits ((instant.nanos + count) / 1000000000)
    · simp only [total, if_true, Option.bind_eq_bind, Option.bind_some, carried, second, and_self,
        pure, left, ofNanos]
    · simp [total, carried, second]
  · simp [total]

/-- Nanoseconds of 32 bits are added to a millisecond exactly, up to the ends of its range. -/
theorem addNanos?_ofMillis_word {millis nanos : Int} (fits : Count.Fits millis)
    (word : 0 ≤ nanos ∧ nanos < 4294967296) :
    (ofMillis millis).addNanos? nanos = some (ofNanos (millis * 1000000 + nanos)) := by
  -- At most five seconds are carried over.
  have both : Count.Fits ((ofMillis millis).nano + nanos) ∧
      Count.Fits ((millis * 1000000 + nanos) / 1000000000) := by
    simp only [Count.Fits, Count.least, Count.greatest, ofMillis] at fits ⊢
    omega
  -- Both checks of the sum are passed, and what is left is the sum of the counts.
  rw [addNanos?_eq, nanos_ofMillis, if_pos both]

/-- Nanoseconds of less than a second are added to a millisecond exactly, up to the ends of its range. -/
theorem addNanos?_eq_ofNanos {millis nanos : Int} (fits : Count.Fits millis)
    (small : 0 ≤ nanos ∧ nanos < 1000000000) :
    (ofMillis millis).addNanos? nanos = some (ofNanos (millis * 1000000 + nanos)) :=
  -- Less than a second of nanoseconds is a word of 32 bits all the more.
  addNanos?_ofMillis_word fits ⟨small.1, by omega⟩

/-- Adding no nanoseconds to the instant of a millisecond leaves it as it is. -/
theorem addNanos?_zero {millis : Int} (fits : Count.Fits millis) :
    (ofMillis millis).addNanos? 0 = some (ofMillis millis) := by
  -- The milliseconds left over seconds make less than a second of nanoseconds.
  have proper : (ofMillis millis).nano < 1000000000 := by
    simp only [ofMillis]
    omega
  -- The sum is the count itself, whose instant it came from.
  rw [addNanos?_eq_ofNanos fits (by decide), Int.add_zero, ← nanos_ofMillis, ofNanos_nanos proper]

end Instant

end DatePattern
