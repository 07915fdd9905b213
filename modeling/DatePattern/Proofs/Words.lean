import DatePattern.Count
import DatePattern.Proofs.Text.Digits

/-!
Words: what numbers of either sign become when they are divided towards zero and cast to words.

A magnitude is kept by a cast, and a negative number is taken off the range of the words. No two of the minutes or
seconds of an hour, of either sign, become words that are written alike.
-/

namespace DatePattern

namespace Digits

/-- A word below one hundred is written as its two digits. -/
theorem twoOfWord_eq_two {word : Nat} (small : word < 100) : twoOfWord word = two word := by
  -- Both digits are below ten, and each of the ten has its character.
  have digit : ∀ n < 10, Char.ofNat (('0'.toNat + n) % 256) = Nat.digitChar n := by decide
  have tens : word / power 1 % 10 = word / 10 := by
    rw [show power 1 = 10 from rfl]
    omega
  have ones : word / power 0 % 10 = word % 10 := by rw [show power 0 = 1 from rfl, Nat.div_one]
  rw [two, last, last, last, tens, ones, twoOfWord, digit _ (by omega), digit _ (by omega)]

/-- The characters of a word are always two. -/
@[simp] theorem length_twoOfWord (word : Nat) : (twoOfWord word).length = 2 := by
  -- Each of the two digits is one character, whatever the word is.
  rfl

/-- Words written alike differ by a multiple of ten times 256. -/
theorem twoOfWord_inj {word other : Nat} (same : twoOfWord word = twoOfWord other) :
    word % 2560 = other % 2560 := by
  -- A byte is the code point of its character.
  have bytes : ∀ n m, Char.ofNat (n % 256) = Char.ofNat (m % 256) → n % 256 = m % 256 := by
    intro n m equal
    have valid : ∀ code, (code % 256).isValidChar := fun code => .inl (by omega)
    have codes := congrArg Char.toNat equal
    rwa [Char.ofNat, dif_pos (valid n), Char.ofNat, dif_pos (valid m)] at codes
  simp only [twoOfWord, List.cons.injEq, and_true] at same
  have tens := bytes _ _ same.1
  have ones := bytes _ _ same.2
  omega

end Digits

namespace Count

/-- Division towards zero takes the magnitude apart and gives both parts the sign of the number. -/
theorem tdiv_tmod (n divisor : Int) :
    0 ≤ n ∧ n.tdiv divisor = n / divisor ∧ n.tmod divisor = n % divisor ∨
      n < 0 ∧ n.tdiv divisor = -(-n / divisor) ∧ n.tmod divisor = -(-n % divisor) := by
  -- A negative number is divided like its magnitude, with both signs turned.
  by_cases nonneg : 0 ≤ n
  · exact .inl ⟨nonneg, Int.tdiv_eq_ediv_of_nonneg nonneg, Int.tmod_eq_emod_of_nonneg nonneg⟩
  · refine .inr ⟨Int.not_le.mp nonneg, ?_, ?_⟩
    · rw [← Int.tdiv_eq_ediv_of_nonneg (by omega), Int.neg_tdiv, Int.neg_neg]
    · rw [← Int.tmod_eq_emod_of_nonneg (by omega), Int.neg_tmod, Int.neg_neg]

/-- A magnitude that fits into a word is its own word. -/
theorem word_natCast {words n : Nat} (small : n < words) : word words n = n := by
  -- A magnitude is its own remainder.
  rw [word, Int.emod_eq_of_lt (Int.natCast_nonneg n) (by omega), Int.toNat_natCast]

/-- The word of a negative number is as far below the end of the words as the number is below zero. -/
theorem word_neg {words n : Nat} (positive : 0 < n) (small : n ≤ words) :
    word words (-n) = words - n := by
  -- Adding all of the words once does not change the remainder.
  rw [word, ← Int.add_emod_right, Int.emod_eq_of_lt] <;> omega

/-- Every word is cast to a count of 64 bits. -/
theorem natAbs_ofWord_le (word : Nat) : (ofWord word).natAbs ≤ 9223372036854775808 := by
  -- The remainder lies in the middle half of the words around zero.
  have lower := Int.le_bmod (x := word) (m := 18446744073709551616) (by decide)
  have upper := Int.bmod_lt (x := word) (m := 18446744073709551616) (by decide)
  unfold ofWord
  omega

/-- The lower half of the words are the counts that are not negative. -/
theorem ofWord_of_small {word : Nat} (small : word < 9223372036854775808) :
    ofWord word = word := by
  -- Below the half a word is its own remainder nearest to zero.
  unfold ofWord
  exact Int.bmod_eq_of_le (by omega) (by omega)

/-- The last words are the counts just below zero. -/
theorem ofWord_of_large {missing : Nat} (positive : 0 < missing)
    (small : missing ≤ 9223372036854775808) :
    ofWord (18446744073709551616 - missing) = -missing := by
  have cast : ((18446744073709551616 - missing : Nat) : Int) =
      -(missing : Int) + (18446744073709551616 : Nat) := by
    omega
  -- Adding all of the words once does not change the count.
  unfold ofWord
  rw [cast, Int.add_bmod_right]
  exact Int.bmod_eq_of_le (by omega) (by omega)

/-- Minutes and seconds of either sign are told by the characters of their words. -/
theorem word_inj {n m : Int} (small : n.natAbs < 60) (small' : m.natAbs < 60)
    (same : Digits.twoOfWord (word 4294967296 n) = Digits.twoOfWord (word 4294967296 m)) : n = m := by
  have words : ∀ k : Int, k.natAbs < 60 →
      0 ≤ k ∧ word 4294967296 k = k.toNat ∨ k < 0 ∧ word 4294967296 k = 4294967296 - k.natAbs := by
    intro k near
    -- A number is its magnitude or the negative of it, of which zero is both.
    obtain ⟨size, rfl | rfl⟩ := Int.eq_nat_or_neg k
    · exact .inl ⟨Int.natCast_nonneg _, word_natCast (by omega)⟩
    by_cases zero : size = 0
    · subst zero
      exact .inl ⟨by decide, rfl⟩
    · refine .inr ⟨by omega, ?_⟩
      rw [word_neg (by omega) (by omega), Int.natAbs_neg, Int.natAbs_natCast]
  -- Words of different signs are too far apart to leave the same remainder.
  have remainders := Digits.twoOfWord_inj same
  have either := words n small
  have either' := words m small'
  omega

end Count

end DatePattern
