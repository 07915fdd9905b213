import DatePattern.Proofs.Text.Digits
import DatePattern.Text.Bytes

/-! Sorted texts: pieces of equal lengths are compared one by one, and digits like the numbers that they denote. -/

namespace DatePattern

/-- Numbers that are moved by the same amount compare as before. -/
theorem compare_add_right (n m shift : Int) : compare (n + shift) (m + shift) = compare n m := by
  -- Whichever of the two is less, it stays so.
  rcases Int.lt_trichotomy n m with less | rfl | more
  · rw [Int.compare_eq_lt.mpr less, Int.compare_eq_lt.mpr (by omega)]
  · rw [Int.compare_eq_eq.mpr rfl, Int.compare_eq_eq.mpr rfl]
  · rw [Int.compare_eq_gt.mpr more, Int.compare_eq_gt.mpr (by omega)]

/-- Numbers are compared by their higher places, and then by the rest. -/
theorem compare_places {base high high' low low' : Int} (inside : 0 ≤ low ∧ low < base)
    (inside' : 0 ≤ low' ∧ low' < base) :
    (compare high high').then (compare low low') =
      compare (high * base + low) (high' * base + low') := by
  -- A step in the higher places counts more than the rest ever does.
  have apart : ∀ {first second : Int}, first < second → (first + 1) * base ≤ second * base :=
    fun less => Int.mul_le_mul_of_nonneg_right less (by omega)
  -- The higher places decide if they differ, and otherwise drop out on both sides.
  rcases Int.lt_trichotomy high high' with less | rfl | more
  · have step := apart less
    rw [Int.add_mul, Int.one_mul] at step
    have below : high * base + low < high' * base + low' := by omega
    rw [Int.compare_eq_lt.mpr less, Int.compare_eq_lt.mpr below, Ordering.lt_then]
  · rw [Int.compare_eq_eq.mpr rfl, Ordering.eq_then, Int.add_comm, Int.add_comm _ low',
      compare_add_right]
  · have step := apart more
    rw [Int.add_mul, Int.one_mul] at step
    have above : high' * base + low' < high * base + low := by omega
    rw [Int.compare_eq_gt.mpr more, Int.compare_eq_gt.mpr above, Ordering.gt_then]

namespace Text

/-- Texts with as many bytes, whose bytes compare in some way. -/
structure Compares (text other : List Char) (order : Ordering) : Prop where
  /-- Both texts have as many bytes. -/
  length : (bytes text).length = (bytes other).length
  /-- The first bytes that differ decide. -/
  order : compare (bytes text) (bytes other) = order

/-- The bytes of two texts in a row follow each other. -/
theorem bytes_append (text other : List Char) : bytes (text ++ other) = bytes text ++ bytes other :=
  List.flatMap_append

/-- Lists that begin with parts of one length are compared by these parts first. -/
theorem compare_append {front front' : List UInt8} (lengths : front.length = front'.length)
    (back back' : List UInt8) :
    compare (front ++ back) (front' ++ back') =
      (compare front front').then (compare back back') := by
  -- The lists are gone through side by side, as they have one length up to their backs.
  induction front generalizing front' with
  | nil =>
    obtain rfl := List.length_eq_zero_iff.mp lengths.symm
    rfl
  | cons first front ih =>
    cases front' with
    | nil => cases lengths
    | cons first' front' =>
      rw [List.cons_append, List.cons_append, List.compare_cons_cons, List.compare_cons_cons,
        ih (Nat.succ.inj lengths), Ordering.then_assoc]

/-- A text compares equal to itself. -/
theorem Compares.refl (text : List Char) : Compares text text .eq :=
  -- It has as many bytes as itself, and no byte differs.
  ⟨rfl, Std.ReflOrd.compare_self⟩

/-- Of two pieces the first one is compared first. -/
theorem Compares.append {front front' back back' : List Char} {order later : Ordering}
    (first : Compares front front' order) (second : Compares back back' later) :
    Compares (front ++ back) (front' ++ back') (order.then later) where
  -- Both backs begin after as many bytes, so that the fronts are compared first.
  length := by
    rw [bytes_append, bytes_append, List.length_append, List.length_append, first.length,
      second.length]
  order := by
    rw [bytes_append, bytes_append, compare_append first.length, first.order, second.order]

end Text

namespace Digits

/-- Single digits compare like their values. -/
theorem compares_digitChar {n m : Nat} (single : n < 10) (single' : m < 10) :
    Text.Compares [Nat.digitChar n] [Nat.digitChar m] (compare (n : Int) m) := by
  -- There are ten digits, each of one byte, in the order of their values.
  have each : ∀ n < 10, ∀ m < 10, (Text.bytes [Nat.digitChar n]).length =
      (Text.bytes [Nat.digitChar m]).length ∧
        compare (Text.bytes [Nat.digitChar n]) (Text.bytes [Nat.digitChar m]) =
          compare (n : Int) m := by
    decide +kernel
  obtain ⟨length, order⟩ := each n single m single'
  exact ⟨length, order⟩

/-- As many last digits compare like the numbers that they denote. -/
theorem compares_last (places n m : Nat) :
    Text.Compares (last places n) (last places m)
      (compare ((n % power places : Nat) : Int) (m % power places : Nat)) := by
  -- The highest digit is compared first, and is worth more than all digits after it.
  induction places with
  | zero =>
    rw [power, Nat.mod_one, Nat.mod_one]
    exact .refl []
  | succ places ih =>
    -- A number of so many places is its highest digit and the number of the places below.
    have split : ∀ number : Nat, ((number % power (places + 1) : Nat) : Int) =
        (number / power places % 10 : Nat) * (power places : Int) +
          (number % power places : Nat) := by
      intro number
      rw [power, Nat.mul_comm, Nat.mod_mul, Nat.add_comm, Nat.mul_comm (power places)]
      push_cast
      rfl
    have inside : ∀ number : Nat, 0 ≤ ((number % power places : Nat) : Int) ∧
        ((number % power places : Nat) : Int) < power places := by
      intro number
      have below := Nat.mod_lt number (power_pos places)
      omega
    rw [split, split, ← compare_places (inside n) (inside m)]
    exact (compares_digitChar (Nat.mod_lt _ (by decide)) (Nat.mod_lt _ (by decide))).append ih

/-- Numbers that fit into some digits compare like the digits. -/
theorem compares_of_fits {places : Nat} {n m : Int} (inside : 0 ≤ n ∧ n < power places)
    (inside' : 0 ≤ m ∧ m < power places) :
    Text.Compares (last places n.toNat) (last places m.toNat) (compare n m) := by
  -- Numbers that fit into their places are not cut off by them.
  have compared := compares_last places n.toNat m.toNat
  rw [Nat.mod_eq_of_lt (by omega), Nat.mod_eq_of_lt (by omega), Int.toNat_of_nonneg inside.1,
    Int.toNat_of_nonneg inside'.1] at compared
  exact compared

/-- Numbers that fit into a width compare like their padded digits. -/
theorem compares_padded {width : Nat} (positive : 0 < width) (few : width ≤ 19) {n m : Int}
    (inside : 0 ≤ n ∧ n < power width) (inside' : 0 ≤ m ∧ m < power width) :
    Text.Compares (padded n width) (padded m width) (compare n m) := by
  -- A number that fits into the width is padded to exactly so many digits.
  have exactly : ∀ {number : Int}, 0 ≤ number ∧ number < power width →
      padded number width = last width number.toNat := by
    intro number bounds
    rw [← padded_eq_last positive few (by omega : number.toNat < power width),
      Int.toNat_of_nonneg bounds.1]
  rw [exactly inside, exactly inside']
  exact compares_of_fits inside inside'

end Digits

end DatePattern
