import DatePattern.Text.CodePoints
import DatePattern.Text.Digits

/-! Written numbers: how many digits they take, and that their digits denote them. -/

namespace DatePattern.Digits

/-- Every decimal place has a positive value. -/
theorem power_pos (places : Nat) : 0 < power places := by
  -- Each place multiplies by ten, starting from one.
  induction places with
  | zero => decide
  | succ places ih =>
    simp only [power]
    omega

/-- Places in a row multiply their values. -/
theorem power_add (places more : Nat) : power (places + more) = power places * power more := by
  -- The second run of places is counted down, each one taking its factor of ten along.
  induction more with
  | zero => exact (Nat.mul_one _).symm
  | succ more ih => rw [← Nat.add_assoc, power, ih, power, Nat.mul_left_comm]

/-- Some places and those that are left of all places multiply to the value of all. -/
theorem power_mul_power_sub {few many : Nat} (fewer : few ≤ many) :
    power few * power (many - few) = power many := by
  rw [← power_add, Nat.add_sub_cancel' fewer]

/-- A number without its last places fits into the places that are left. -/
theorem div_power_lt {n few many : Nat} (small : n < power many) (fewer : few ≤ many) :
    n / power (many - few) < power few := by
  -- Dividing by the value of the last places leaves the value of the first ones as the bound.
  rwa [Nat.div_lt_iff_lt_mul (power_pos _), power_mul_power_sub fewer]

/-- More places have a value at least as large. -/
theorem power_mono {few many : Nat} (fewer : few ≤ many) : power few ≤ power many := by
  -- The places that the larger number has more only multiply.
  obtain ⟨more, rfl⟩ := Nat.exists_eq_add_of_le fewer
  rw [power_add]
  exact Nat.le_mul_of_pos_right _ (power_pos more)

/-- Of the numbers in a row, those before the first failure are kept. -/
private theorem length_filter_range (keep : Nat → Bool)
    (down : ∀ i, keep (i + 1) = true → keep i = true) (n k : Nat) (inside : k < n) :
    ((List.range n).filter keep).length ≤ k ↔ keep k = false := by
  -- What is kept at all lies before everything that is not.
  have below : ∀ gap i, keep (i + gap) = true → keep i = true := by
    intro gap
    induction gap with
    | zero => exact fun i kept => kept
    | succ gap ih => exact fun i kept => ih i (down (i + gap) kept)
  induction n with
  | zero => omega
  | succ n ih =>
    rw [List.range_succ, List.filter_append, List.length_append]
    -- The last number of the range is the one asked about, or it comes after it.
    by_cases last : k = n
    · subst last
      cases kept : keep k with
      | false =>
        have atMost := List.length_filter_le keep (List.range k)
        rw [List.length_range] at atMost
        simpa [kept] using atMost
      | true =>
        have all : (List.range k).filter keep = List.range k := by
          rw [List.filter_eq_self]
          intro i listed
          have lower := List.mem_range.mp listed
          exact below (k - i) i (by rwa [Nat.add_sub_cancel' (Nat.le_of_lt lower)])
        simp [kept, all]
    · have earlier := ih (by omega)
      cases kept : keep k with
      | false =>
        -- Nothing after a number that is dropped is kept.
        have dropped : keep n = false := by
          by_cases later : keep n = true
          · rw [below (n - k) k (by rwa [Nat.add_sub_cancel' (by omega)])] at kept
            cases kept
          · simpa using later
        simpa [dropped, kept] using earlier
      | true =>
        rw [kept] at earlier
        simp only [Bool.true_eq_false, iff_false, Nat.not_le] at earlier ⊢
        omega

/-- A number below a power of ten has at most that many digits, and at least one. -/
theorem count_le_iff {n places : Nat} (some : 0 < places) (few : places ≤ 19) :
    count n ≤ places ↔ n < power places := by
  -- The powers grow, so those that a number has reached are the first ones of the table.
  have counted := length_filter_range (fun i => decide (power (i + 1) ≤ n))
    (fun i kept => by
      have reached : power (i + 1 + 1) ≤ n := of_decide_eq_true kept
      simp only [power] at reached
      exact decide_eq_true (by simp only [power]; omega)) 19 (places - 1) (by omega)
  rw [Nat.sub_add_cancel some] at counted
  simp only [count]
  rw [show n < power places ↔ decide (power places ≤ n) = false by simp, ← counted]
  omega

/-- There is always a digit. -/
theorem count_pos (n : Nat) : 0 < count n := by
  -- The count begins at one, for the zero.
  simp only [count]
  omega

/-- There are at most twenty digits. -/
theorem count_le (n : Nat) : count n ≤ 20 := by
  -- The table has nineteen powers, each counted once at most.
  have atMost := List.length_filter_le (fun i => decide (power (i + 1) ≤ n)) (List.range 19)
  simp only [List.length_range] at atMost
  simp only [count]
  omega

/-- A magnitude of 64 bits lies below the power of ten of its digits. -/
theorem lt_power_count {n : Nat} (small : n < power 20) : n < power (count n) := by
  -- With fewer than twenty digits the table itself says so.
  by_cases all : count n = 20
  · rwa [all]
  · exact (count_le_iff (count_pos n) (by have := count_le n; omega)).mp (Nat.le_refl _)

/-- The last digits denote the number without its higher places. -/
theorem value_last (places n : Nat) : value (last places n) = n % power places := by
  -- The digits are read from the front, so the statement is about any number read before them.
  have general : ∀ before, Nat.ofDigitChars 10 (last places n) before =
      power places * before + n % power places := by
    induction places with
    | zero => intro before; simp [last, power, Nat.mod_one]
    | succ places ih =>
      intro before
      -- The highest place comes first, and is worth its digit times its value.
      rw [last, Nat.ofDigitChars_cons_digitChar_of_lt_ten (by omega), ih]
      have split : n % power (places + 1) =
          power places * (n / power places % 10) + n % power places := by
        rw [show power (places + 1) = power places * 10 by simp only [power]; omega,
          Nat.mod_mul, Nat.add_comm]
      rw [split, power, Nat.mul_add, Nat.add_assoc, Nat.mul_comm 10 (power places),
        Nat.mul_assoc]
  rw [value, general, Nat.mul_zero, Nat.zero_add]

/-- A run of digits denotes a number with no more places than there are digits. -/
theorem value_lt_power {digits : List Char} (ascii : ∀ c ∈ digits, Text.isAsciiDigit c = true) :
    value digits < power digits.length := by
  -- As for the last digits, some number may have been read before.
  have general : ∀ before, Nat.ofDigitChars 10 digits before <
      power digits.length * before + power digits.length := by
    induction digits with
    | nil => intro before; simp [power]
    | cons c later ih =>
      intro before
      have digit := ascii c List.mem_cons_self
      simp only [Text.isAsciiDigit, Bool.and_eq_true, decide_eq_true_eq, Char.le_def,
        UInt32.le_iff_toNat_le] at digit
      have nine : c.toNat - '0'.toNat ≤ 9 := Nat.sub_le_of_le_add digit.2
      have rest := ih (fun other listed => ascii other (List.mem_cons_of_mem _ listed))
        (10 * before + (c.toNat - '0'.toNat))
      -- Every further digit is worth at most nine in its place.
      have worth : power later.length * (c.toNat - '0'.toNat) ≤ power later.length * 9 :=
        Nat.mul_le_mul_left _ nine
      rw [Nat.ofDigitChars_cons]
      simp only [List.length_cons, power, Nat.mul_add] at rest ⊢
      have place : power later.length * (10 * before) = 10 * power later.length * before := by
        rw [← Nat.mul_assoc, Nat.mul_comm (power later.length) 10]
      omega
  have whole := general 0
  rwa [Nat.mul_zero, Nat.zero_add] at whole

/-- Every place is written as an ASCII digit. -/
theorem isAsciiDigit_last {places n : Nat} {c : Char} (written : c ∈ last places n) :
    Text.isAsciiDigit c = true := by
  -- The places are written from the highest one on.
  induction places with
  | zero => cases written
  | succ places ih =>
    rcases List.mem_cons.mp written with rfl | later
    · have digit : n / power places % 10 < 10 := by omega
      generalize n / power places % 10 = d at digit
      -- A remainder by ten is one of ten, each with its own character.
      match d, digit with
      | 0, _ | 1, _ | 2, _ | 3, _ | 4, _ | 5, _ | 6, _ | 7, _ | 8, _ | 9, _ => decide
    · exact ih later

/-- The zeros and digits of a number that is not negative. -/
theorem padded_natCast (n width : Nat) :
    padded n width = List.replicate (width - count n) '0' ++ last (count n) n := by
  -- There is no sign to be written.
  simp [padded]

/-- A negative number is its magnitude after a minus sign. -/
theorem padded_neg {n : Int} (negative : n < 0) (width : Nat) :
    padded n width = '-' :: padded n.natAbs width := by
  -- The sign is put in front of what the magnitude alone would be.
  have positive : ¬(n.natAbs : Int) < 0 := by omega
  rw [padded, padded, if_pos negative, if_neg positive, Int.natAbs_natCast]
  rfl

/-- At least the width is written. -/
theorem length_padded (n width : Nat) : (padded n width).length = max width (count n) := by
  -- The zeros make up what the digits lack, if anything.
  rw [padded_natCast, List.length_append, List.length_replicate, length_last]
  omega

/-- Only digits are written for a number that is not negative. -/
theorem isAsciiDigit_padded {n width : Nat} {c : Char} (written : c ∈ padded n width) :
    Text.isAsciiDigit c = true := by
  -- What is put in front are zeros, which are digits as well.
  rw [padded_natCast] at written
  rcases List.mem_append.mp written with zero | digit
  · rw [(List.mem_replicate.mp zero).2]
    decide
  · exact isAsciiDigit_last digit

/-- A padded number denotes itself. -/
theorem value_padded {n : Nat} (small : n < power 20) (width : Nat) :
    value (padded n width) = n := by
  -- The zeros in front denote nothing, and the digits are all that the number has.
  rw [padded_natCast, value, Nat.ofDigitChars_append, Nat.ofDigitChars_replicate_zero,
    Nat.mul_zero]
  show value (last (count n) n) = n
  rw [value_last, Nat.mod_eq_of_lt (lt_power_count small)]

/-- A number that fits into the width is written as exactly its last digits. -/
theorem padded_eq_last {n width : Nat} (positive : 0 < width) (few : width ≤ 19)
    (small : n < power width) : padded n width = last width n := by
  -- Written out to the width, the places above the digits of the number are zeros, like those of
  -- padding.
  have digits := (count_le_iff positive few).mpr small
  have split : ∀ zeros, n < power (count n) →
      List.replicate zeros '0' ++ last (count n) n = last (zeros + count n) n := by
    intro zeros fits
    induction zeros with
    | zero => simp
    | succ zeros ih =>
      -- A place above all digits of the number is a zero.
      have above : n / power (zeros + count n) = 0 := by
        apply Nat.div_eq_of_lt
        have := power_pos zeros
        rw [power_add]
        exact Nat.lt_of_lt_of_le fits (Nat.le_mul_of_pos_left _ this)
      rw [List.replicate_succ, List.cons_append, ih, Nat.add_right_comm, last, above]
      rfl
  have inRange : n < power (count n) :=
    (count_le_iff (count_pos n) (Nat.le_trans digits few)).mp (Nat.le_refl _)
  rw [padded_natCast, split _ inRange, Nat.sub_add_cancel digits]

/-- Two digits are what padding to two digits writes. -/
theorem padded_two {n : Nat} (small : n < 100) : padded n 2 = two n :=
  padded_eq_last (by decide) (by decide) small

/-- A number that is not negative does not begin with a minus sign. -/
theorem padded_ne_minus (n width : Nat) (rest rest' : List Char) :
    padded n width ++ rest ≠ '-' :: rest' := by
  intro same
  -- A padded number has a first character, which is a digit.
  cases written : padded n width with
  | nil =>
    have length := length_padded n width
    have digits := count_pos n
    rw [written, List.length_nil] at length
    omega
  | cons c digits =>
    have digit : Text.isAsciiDigit c = true :=
      isAsciiDigit_padded (show c ∈ padded n width by rw [written]; exact List.mem_cons_self)
    rw [written, List.cons_append, List.cons.injEq] at same
    rw [same.1] at digit
    exact absurd digit (by decide)

/-- A number that is longer than its width does not begin with a zero. -/
theorem padded_of_longer {n width : Nat} (small : n < power 20) (positive : 0 < width)
    (longer : width < (padded n width).length) (rest rest' : List Char) :
    padded n width ++ rest ≠ '0' :: rest' := by
  rw [length_padded] at longer
  -- No zeros are put in front, and the first place has been reached.
  obtain ⟨places, counted⟩ : ∃ places, count n = places + 1 := ⟨count n - 1, by omega⟩
  have reached : power places ≤ n := by
    have atMost := count_le n
    have notBelow : ¬count n ≤ places → ¬n < power places :=
      mt (count_le_iff (by omega) (by omega)).mpr
    omega
  have below := lt_power_count small
  rw [counted, power] at below
  have first : 1 ≤ n / power places := (Nat.one_le_div_iff (power_pos places)).mpr reached
  have first' : n / power places < 10 := (Nat.div_lt_iff_lt_mul (power_pos places)).mpr below
  have written : ∀ digit < 10, 1 ≤ digit → Nat.digitChar (digit % 10) ≠ '0' := by decide
  rw [padded_natCast, counted, show width - (places + 1) = 0 by omega, last]
  intro same
  exact written _ first' first (List.cons.inj same).1

/-- A padded number is told by its text. -/
theorem padded_inj {n m : Int} {width : Nat} (small : n.natAbs < power 20)
    (small' : m.natAbs < power 20) (same : padded n width = padded m width) : n = m := by
  have magnitudes : padded n.natAbs width = padded m.natAbs width → n.natAbs = m.natAbs := by
    intro equal
    have values := congrArg value equal
    rwa [value_padded small, value_padded small'] at values
  -- A minus tells unlike signs apart, and like ones leave the magnitudes to be told apart.
  by_cases negative : n < 0 <;> by_cases negative' : m < 0
  · rw [padded_neg negative, padded_neg negative'] at same
    have equal := magnitudes (List.cons.inj same).2
    omega
  · rw [padded_neg negative, show m = (m.natAbs : Int) by omega] at same
    exact absurd (by simpa using same.symm) (padded_ne_minus m.natAbs width [] _)
  · rw [padded_neg negative', show n = (n.natAbs : Int) by omega] at same
    exact absurd (by simpa using same) (padded_ne_minus n.natAbs width [] _)
  · rw [show n = (n.natAbs : Int) by omega, show m = (m.natAbs : Int) by omega] at same
    have equal := magnitudes same
    omega

/-- A larger number does not have fewer digits. -/
theorem count_mono {n m : Nat} (lower : n ≤ m) (small : m < power 19) : count n ≤ count m := by
  -- The powers that the smaller number has reached are reached by the larger one.
  have fewer : count m ≤ 19 := (count_le_iff (by decide) (Nat.le_refl 19)).mpr small
  have below : m < power (count m) :=
    lt_power_count (Nat.lt_trans small (show power 19 < power 20 by decide))
  exact (count_le_iff (count_pos m) fewer).mpr (Nat.lt_of_le_of_lt lower below)

/-- A number that is one too long for a width begins with a one, and the number before it with a nine. -/
private theorem padded_succ_ne {n width : Nat} (small : n + 1 < power 19) {rest rest' : List Char}
    (longer : max width (count n) < max width (count (n + 1))) :
    padded n width ++ rest ≠ padded (n + 1 : Nat) width ++ rest' := by
  have below : n < power (count n) :=
    lt_power_count (Nat.lt_trans (by omega) (show power 19 < power 20 by decide))
  have fewer : count n ≤ 19 :=
    (count_le_iff (by decide) (Nat.le_refl 19)).mpr (by omega)
  -- The next number has a digit more, so that it is the power of ten itself.
  have reached : n + 1 = power (count n) := by
    have notBelow := mt (count_le_iff (n := n + 1) (count_pos n) fewer).mpr (by omega)
    omega
  have next : count (n + 1) = count n + 1 := by
    have atMost : count (n + 1) ≤ count n + 1 := by
      by_cases most : count n = 19
      · have := count_le (n + 1)
        omega
      · refine (count_le_iff (by omega) (by omega)).mpr ?_
        rw [reached, power]
        have := power_pos (count n)
        omega
    omega
  intro same
  rw [padded_natCast, padded_natCast, next, show width - count n = 0 by omega,
    show width - (count n + 1) = 0 by omega, last] at same
  have one : (n + 1) / power (count n) % 10 = 1 := by
    rw [← reached, Nat.div_self (by omega)]
  obtain ⟨places, placesIs⟩ : ∃ places, count n = places + 1 :=
    ⟨count n - 1, by have := count_pos n; omega⟩
  have nine : n / power places % 10 = 9 := by
    have positive := power_pos places
    have split : n = power places * 9 + (power places - 1) := by
      rw [placesIs, power] at reached
      omega
    rw [split, Nat.mul_add_div positive, Nat.div_eq_of_lt (by omega)]
  rw [placesIs, last, nine, ← placesIs, one] at same
  simp only [List.replicate_zero, List.nil_append, List.cons_append, List.cons.injEq] at same
  exact absurd same.1 (by decide)

/--
Of two numbers that are close to each other, a text that goes on begins with one only.

Numbers that both fit into the width are told apart whatever they are.
-/
theorem padded_append_inj {n m width : Nat} (small : n < power 18) (small' : m < power 18)
    (near : n < power width ∧ m < power width ∨ n ≤ m + 1 ∧ m ≤ n + 1) (positive : 0 < width)
    (few : width ≤ 19) {rest rest' : List Char}
    (same : padded n width ++ rest = padded m width ++ rest') : n = m ∧ rest = rest' := by
  have larger : power 18 < power 19 ∧ power 18 < power 20 := by decide
  -- Only a number with one digit more could make its text longer, and it shows that at once.
  have lengths : max width (count n) = max width (count m) := by
    rcases near with ⟨fits, fits'⟩ | close
    · have digits := (count_le_iff positive few).mpr fits
      have digits' := (count_le_iff positive few).mpr fits'
      omega
    · rcases Nat.lt_trichotomy n m with lower | rfl | upper
      · have fewer := count_mono (Nat.le_of_lt lower) (by omega)
        obtain rfl : m = n + 1 := by omega
        by_cases longer : max width (count n) < max width (count (n + 1))
        · exact absurd same (padded_succ_ne (by omega) longer)
        · omega
      · rfl
      · have fewer := count_mono (Nat.le_of_lt upper) (by omega)
        obtain rfl : n = m + 1 := by omega
        by_cases longer : max width (count m) < max width (count (m + 1))
        · exact absurd same.symm (padded_succ_ne (by omega) longer)
        · omega
  -- Numbers of one length end at the same place, and have the same value.
  have parts := List.append_inj same (by rw [length_padded, length_padded, lengths])
  have values := congrArg value parts.1
  rw [value_padded (by omega), value_padded (by omega)] at values
  exact ⟨values, parts.2⟩

end DatePattern.Digits
