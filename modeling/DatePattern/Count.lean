/-! Signed counts of 64 bits: what fits, what is held at the ends, what has no answer, and what wraps around. -/

namespace DatePattern.Count

/-- The least count of 64 bits. -/
def least : Int := -9223372036854775808

/-- The greatest count of 64 bits. -/
def greatest : Int := 9223372036854775807

/-- A number that a 64-bit count can hold. -/
def Fits (n : Int) : Prop := least ≤ n ∧ n ≤ greatest

instance (n : Int) : Decidable (Fits n) := inferInstanceAs (Decidable (_ ∧ _))

/-- The nearest number that fits. -/
def clamp (n : Int) : Int :=
  -- Numbers past either end are held at that end.
  max least (min n greatest)

/-- The number itself when it fits, and nothing otherwise. -/
def within? (n : Int) : Option Int :=
  if Fits n then some n else none

/-- The unsigned word that a number is cast to, where there are so many words. -/
def word (words : Nat) (n : Int) : Nat := (n % words).toNat

/-- The signed count that an unsigned word of 64 bits is cast to. -/
def ofWord (word : Nat) : Int := Int.bmod word 18446744073709551616

/-- A number that fits is its own clamp. -/
@[simp] theorem clamp_of_fits {n : Int} (fits : Fits n) : clamp n = n := by
  -- Neither end moves a number between the two.
  simp only [Fits, least, greatest] at fits
  simp only [clamp, least, greatest]
  omega

/-- Clamping always lands on a number that fits. -/
theorem fits_clamp (n : Int) : Fits (clamp n) := by
  -- Both ends are applied, and the lower one is below the upper one.
  simp only [Fits, clamp, least, greatest]
  omega

/-- A number is sure to fit when it is as near to zero as the greatest count. -/
theorem fits_of_natAbs_le {n : Int} (near : n.natAbs ≤ 9223372036854775807) : Fits n := by
  simp only [Fits, least, greatest]
  omega

/-- A number that fits is its own exact count. -/
@[simp] theorem within?_of_fits {n : Int} (fits : Fits n) : within? n = some n := if_pos fits

/-- An exact count exists for precisely the numbers that fit. -/
theorem within?_eq_some_iff {n m : Int} : within? n = some m ↔ Fits n ∧ n = m := by
  -- The only answer there can be is the number itself.
  simp [within?]

end DatePattern.Count
