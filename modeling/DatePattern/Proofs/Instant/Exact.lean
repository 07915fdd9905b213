import DatePattern.Proofs.Instant

/-! Exact instants: where milliseconds, order and sums of instants are those of their counts of nanoseconds, and where they are not. -/

namespace DatePattern.Instant

/-- A millisecond and the nanoseconds past it make up one count. -/
theorem nanos_ofMillisAndNanos (millis : Int) (past : Nat) :
    (ofMillisAndNanos millis past).nanos = millis * 1000000 + past := by
  -- The second and the part of it are cut out of the milliseconds, and make them up again.
  simp only [nanos, ofMillisAndNanos, ofMillis]
  omega

/-- The exact milliseconds are those of the whole second and those of its nanoseconds. -/
theorem nanos_div_million (instant : Instant) :
    instant.nanos / 1000000 = instant.second * 1000 + (instant.nano / 1000000 : Nat) := by
  -- The second is a whole number of milliseconds, which leaves the quotient of its nanoseconds.
  simp only [nanos]
  omega

/--
The milliseconds are the exact ones, held at the ends of the range, unless the second begins before it.

There the milliseconds of the nanoseconds are counted from the first of the range.
-/
theorem millis_eq_ite {instant : Instant} (proper : instant.nano < 1000000000) :
    instant.millis =
      if Count.least ≤ instant.second * 1000 then Count.clamp (instant.nanos / 1000000)
      else Count.least + (instant.nano / 1000000 : Nat) := by
  rw [nanos_div_million, millis]
  have part : instant.nano / 1000000 < 1000 := by omega
  split
  -- The seconds can only be held at the upper end, where the sum is held as well.
  case isTrue inside =>
    simp only [Count.clamp, Count.least, Count.greatest] at inside ⊢
    omega
  -- The seconds are held at the first of the range before the milliseconds are added.
  case isFalse before =>
    simp only [Count.clamp, Count.least, Count.greatest] at before ⊢
    omega

/-- The milliseconds are the exact ones where the second begins inside the range or has no milliseconds. -/
theorem millis_eq_clamp_iff {instant : Instant} (proper : instant.nano < 1000000000) :
    instant.millis = Count.clamp (instant.nanos / 1000000) ↔
      Count.least ≤ instant.second * 1000 ∨ instant.nano < 1000000 := by
  -- The two cases of the milliseconds are compared with the exact count.
  rw [millis_eq_ite proper]
  split
  case isTrue inside => exact iff_of_true rfl (.inl inside)
  case isFalse before =>
    -- Without a part of the second both are the first of the range, and with one the exact ones are earlier.
    rw [nanos_div_million]
    simp only [Count.clamp, Count.least, Count.greatest] at before ⊢
    omega

/-- A millisecond and no nanoseconds are the instant of the millisecond. -/
theorem ofMillisAndNanos_zero (millis : Int) : ofMillisAndNanos millis 0 = ofMillis millis := by
  simp only [ofMillisAndNanos, Nat.add_zero]

/-- A count of milliseconds comes back from its instant, but in the second in which the range begins. -/
theorem millis_ofMillisAndNanos_iff {millis : Int} (fits : Count.Fits millis) {past : Nat}
    (small : past < 1000000) :
    (ofMillisAndNanos millis past).millis = millis ↔ Count.least + 808 ≤ millis := by
  -- The instant is of whole milliseconds with its remaining nanoseconds, so its exact count is the
  -- given one.
  have proper : (ofMillisAndNanos millis past).nano < 1000000000 := by
    simp only [ofMillisAndNanos, ofMillis]
    omega
  have counted : (ofMillisAndNanos millis past).nanos / 1000000 = millis := by
    rw [nanos_ofMillisAndNanos]
    omega
  have condition := millis_eq_clamp_iff proper
  rw [counted, Count.clamp_of_fits fits] at condition
  rw [condition]
  -- The second begins up to 999 milliseconds earlier, and the first of the range is no whole one.
  simp only [Count.Fits, Count.least, Count.greatest, ofMillisAndNanos, ofMillis] at fits ⊢
  omega

/-- Nanoseconds of less than a millisecond come back from the instant past a millisecond. -/
theorem nanoOfMilli_ofMillisAndNanos (millis : Int) {past : Nat} (small : past < 1000000) :
    (ofMillisAndNanos millis past).nanoOfMilli = past := by
  -- The nanoseconds of whole milliseconds are a multiple of a million.
  simp only [nanoOfMilli, ofMillisAndNanos, ofMillis]
  omega

/-- Milliseconds are exact, and come back from an instant, but in the seconds that begin before the range. -/
theorem millis_exact_iff {instant : Instant} (proper : instant.nano < 1000000000) {millis : Int}
    (fits : Count.Fits millis) {past : Nat} (small : past < 1000000) :
    (instant.millis = Count.clamp (instant.nanos / 1000000) ↔
      Count.least ≤ instant.second * 1000 ∨ instant.nano < 1000000) ∧
    ((ofMillis millis).millis = millis ↔ Count.least + 808 ≤ millis) ∧
    ((ofMillisAndNanos millis past).millis = millis ↔ Count.least + 808 ≤ millis) ∧
    (ofMillisAndNanos millis past).nanoOfMilli = past := by
  -- An instant of whole milliseconds has no nanoseconds past them, as a case of the third
  -- equivalence.
  have whole := millis_ofMillisAndNanos_iff fits (Nat.zero_lt_succ 999999)
  rw [ofMillisAndNanos_zero] at whole
  exact ⟨millis_eq_clamp_iff proper, whole, millis_ofMillisAndNanos_iff fits small,
    nanoOfMilli_ofMillisAndNanos millis small⟩

/-- The first millisecond of the range comes back as the one 192 milliseconds later. -/
theorem millis_exact_iff_first :
    Count.Fits Count.least ∧ 0 < 1000000 ∧ (ofMillis Count.least).nano < 1000000000 ∧
      (ofMillis Count.least).millis ≠ Count.least ∧
      (ofMillis Count.least).millis ≠ Count.clamp ((ofMillis Count.least).nanos / 1000000) ∧
      (ofMillis Count.least).millis = Count.least + 192 := by
  -- Both equivalences are turned around at the first count of the range, where their right sides
  -- are false.
  have fits : Count.Fits Count.least := by decide
  have proper : (ofMillis Count.least).nano < 1000000000 := by decide
  obtain ⟨exact_iff, back_iff, -, -⟩ := millis_exact_iff proper fits (Nat.zero_lt_succ 999999)
  refine ⟨fits, by decide, proper, ?_, ?_, by decide⟩
  · exact mt back_iff.mp (by decide)
  · exact mt exact_iff.mp (by decide)

/-- The instants that are made from counts of 64 bits and nanoseconds of 32 bits. -/
inductive Built : Instant → Prop
  /-- A second and nanoseconds, which may make up more than a second. -/
  | ofSecond {second : Int} {nano : Nat} (fits : Count.Fits second) (word : nano < 4294967296) :
      Built (Instant.ofSecond second nano)
  /-- A count of milliseconds. -/
  | ofMillis {millis : Int} (fits : Count.Fits millis) : Built (Instant.ofMillis millis)
  /-- A millisecond and the nanoseconds past it. -/
  | ofMillisAndNanos {millis : Int} {past : Nat} (fits : Count.Fits millis)
      (small : past < 1000000) : Built (Instant.ofMillisAndNanos millis past)
  /-- A sum of an instant and nanoseconds. -/
  | addNanos? {instant later : Instant} {count : Int} (built : Built instant)
      (fits : Count.Fits count) (added : instant.addNanos? count = some later) : Built later

/-- A sum is the instant of the exact count, where the nanoseconds and the seconds of the sum both fit. -/
theorem addNanos?_eq_some_iff {instant later : Instant} {count : Int} :
    instant.addNanos? count = some later ↔
      (Count.Fits (instant.nano + count) ∧ Count.Fits ((instant.nanos + count) / 1000000000)) ∧
        later.nano < 1000000000 ∧ later.nanos = instant.nanos + count := by
  -- Adding is taking the instant of the exact sum, and an instant is told by its count.
  rw [addNanos?_eq, Option.ite_none_right_eq_some, Option.some.injEq]
  refine and_congr_right fun _ => ⟨?_, ?_⟩
  · rintro rfl
    exact ⟨nano_ofNanos_lt _, nanos_ofNanos _⟩
  · rintro ⟨proper, same⟩
    rw [← same, ofNanos_nanos proper]

/-- Whichever way an instant is made, its nanoseconds are less than a second. -/
theorem Built.proper {instant : Instant} (built : Built instant) :
    instant.nano < 1000000000 := by
  -- Each constructor takes a remainder, by a second or by a million and then by a second.
  cases built with
  | ofSecond _ _ => exact Nat.mod_lt _ (by decide)
  | @ofMillis millis _ =>
    simp only [Instant.ofMillis]
    omega
  | ofMillisAndNanos _ small =>
    simp only [Instant.ofMillisAndNanos, Instant.ofMillis]
    omega
  | addNanos? _ _ added => exact (addNanos?_eq_some_iff.mp added).2.1

/-- Of two instants with less than a second of nanoseconds, the earlier one has the smaller count. -/
theorem notAfter_iff {instant other : Instant} (proper : instant.nano < 1000000000)
    (proper' : other.nano < 1000000000) :
    instant.notAfter other = true ↔ instant.nanos ≤ other.nanos := by
  -- The count is the second and the nanoseconds as two places, of which the lower one stays below
  -- its base.
  simp only [notAfter, nanos, Bool.or_eq_true, Bool.and_eq_true, decide_eq_true_eq, beq_iff_eq]
  omega

/-- Instants with less than a second of nanoseconds are told apart by their counts. -/
theorem nanos_inj {instant other : Instant} (proper : instant.nano < 1000000000)
    (proper' : other.nano < 1000000000) : instant.nanos = other.nanos ↔ instant = other := by
  -- The instant is rebuilt from its count.
  refine ⟨fun same => ?_, congrArg nanos⟩
  rw [← ofNanos_nanos proper, same, ofNanos_nanos proper']

/--
Instants are proper, are in the order of their counts, and are added to exactly.

A sum is refused although its second fits precisely where its nanoseconds, with those of the instant, are
beyond a count of 64 bits.
-/
theorem Built.arithmetic_exact {instant : Instant} (built : Built instant) :
    instant.nano < 1000000000 ∧
    (∀ other, Built other → (instant.notAfter other = true ↔ instant.nanos ≤ other.nanos) ∧
      (instant = other ↔ instant.nanos = other.nanos)) ∧
    ∀ count, Count.Fits count → ∀ later, instant.addNanos? count = some later ↔
      (Count.Fits ((instant.nanos + count) / 1000000000) ∧
        instant.nano + count ≤ Count.greatest) ∧
      later.nano < 1000000000 ∧ later.nanos = instant.nanos + count := by
  -- Order and equality need both instants proper, which holds whichever way they are built.
  refine ⟨built.proper, fun other also => ?_, fun count fits later => ?_⟩
  · exact ⟨notAfter_iff built.proper also.proper, (nanos_inj built.proper also.proper).symm⟩
  -- The nanoseconds of an instant are not negative, so that their sum with a count cannot be too
  -- small.
  · have total : Count.Fits (instant.nano + count) ↔ instant.nano + count ≤ Count.greatest := by
      simp only [Count.Fits, Count.least] at fits ⊢
      omega
    rw [addNanos?_eq_some_iff, total, and_comm (a := instant.nano + count ≤ Count.greatest)]

/-- The most nanoseconds that there are cannot be added to a nanosecond, although the second of the sum fits. -/
theorem Built.arithmetic_exact_refused :
    Built (Instant.ofSecond 0 1) ∧ Count.Fits Count.greatest ∧
      Count.Fits (((Instant.ofSecond 0 1).nanos + Count.greatest) / 1000000000) ∧
      (Instant.ofSecond 0 1).addNanos? Count.greatest = none := by
  -- The sum would need nanoseconds beyond 64 bits, which the general condition excludes.
  have built : Built (Instant.ofSecond 0 1) := .ofSecond (by decide) (by decide)
  have fits : Count.Fits Count.greatest := by decide
  refine ⟨built, fits, by decide, Option.eq_none_iff_forall_ne_some.mpr fun later added => ?_⟩
  have within := ((built.arithmetic_exact.2.2 Count.greatest fits later).mp added).1.2
  exact absurd within (by decide)

end DatePattern.Instant
