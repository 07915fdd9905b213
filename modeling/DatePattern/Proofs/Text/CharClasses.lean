import DatePattern.Text.Blank
import DatePattern.Text.CaseFold
import DatePattern.Text.DecimalDigit

/-! Classes of characters: decimal digits are told apart from what may stand next to them, and letters from their look-alikes and from all that has one case. -/

namespace DatePattern.Text

/-- A character is in none of the ranges that lie apart from those it is in. -/
theorem inRanges_apart {ranges others : List (Nat × Nat)}
    (apart : ∀ range ∈ ranges, ∀ other ∈ others, range.2 < other.1 ∨ other.2 < range.1) {c : Char}
    (inside : inRanges ranges c = true) : inRanges others c = false := by
  -- A character in two ranges would lie between their ends, which no two ranges share.
  simp only [inRanges, List.any_eq_true, Bool.and_eq_true, decide_eq_true_eq] at inside
  simp only [inRanges, List.any_eq_false, Bool.and_eq_true, decide_eq_true_eq]
  obtain ⟨range, listed, lower, upper⟩ := inside
  intro other among within
  have := apart range listed other among
  omega

/-- Decimal digits are a table of ranges, of which the ASCII digits are the first. -/
theorem isDecimalDigit_eq (c : Char) :
    isDecimalDigit c = inRanges ((0x30, 0x39) :: decimalDigitRanges) c := by
  rfl

/-- A decimal digit is no blank. -/
theorem isBlank_of_decimalDigit {c : Char} (digit : isDecimalDigit c = true) :
    isBlank c = false := by
  -- Digits and blanks are tables of ranges, and no two of their ranges meet.
  rw [isDecimalDigit_eq] at digit
  exact inRanges_apart (by decide +kernel) digit

/-- A decimal digit is no colon. -/
theorem ne_colon_of_decimalDigit {c : Char} (digit : isDecimalDigit c = true) : c ≠ ':' := by
  -- The colon itself is looked up in the table of digits.
  rintro rfl
  exact absurd digit (by decide +kernel)

/-- A decimal digit has no capital. -/
theorem upperAscii_of_decimalDigit {c : Char} (digit : isDecimalDigit c = true) :
    upperAscii c = c := by
  rw [isDecimalDigit_eq] at digit
  -- The classes are given by ranges, which are apart.
  have notSmall : inRanges [(0x61, 0x7A)] c = false := inRanges_apart (by decide +kernel) digit
  -- A small letter would be in its own range, in which no digit is.
  refine if_neg fun small => ?_
  have inside : inRanges [(0x61, 0x7A)] c = true := by
    simp only [inRanges, List.any_cons, List.any_nil, Bool.or_false, Bool.and_eq_true,
      decide_eq_true_eq]
    exact small
  rw [notSmall] at inside
  cases inside

/-- Only the 26 capitals have another small letter than themselves. -/
theorem lowerAscii_eq_or_capital (c : Char) :
    lowerAscii c = c ∨ ∃ code ∈ List.range' 65 26, Char.ofNat code = c := by
  -- The capitals of ASCII are 26 codes from 65 on.
  by_cases capital : 'A' ≤ c ∧ c ≤ 'Z'
  · have lower : 65 ≤ c.toNat := capital.1
    have upper : c.toNat ≤ 90 := capital.2
    exact .inr ⟨c.toNat, List.mem_range'_1.mpr (by omega), Char.ofNat_toNat c⟩
  · exact .inl (if_neg capital)

/-- Only the 26 small letters have another capital than themselves. -/
theorem upperAscii_eq_or_small (c : Char) :
    upperAscii c = c ∨ ∃ code ∈ List.range' 97 26, Char.ofNat code = c := by
  -- The small letters of ASCII are 26 codes from 97 on.
  by_cases small : 'a' ≤ c ∧ c ≤ 'z'
  · have lower : 97 ≤ c.toNat := small.1
    have upper : c.toNat ≤ 122 := small.2
    exact .inr ⟨c.toNat, List.mem_range'_1.mpr (by omega), Char.ofNat_toNat c⟩
  · exact .inl (if_neg small)

/-- A letter and its small letter have one capital. -/
theorem upperAscii_lowerAscii (c : Char) : upperAscii (lowerAscii c) = upperAscii c := by
  -- Only capitals change, and there are few enough to look at each.
  have each : ∀ code ∈ List.range' 65 26,
      upperAscii (lowerAscii (Char.ofNat code)) = upperAscii (Char.ofNat code) := by decide
  rcases lowerAscii_eq_or_capital c with same | ⟨code, listed, rfl⟩
  · rw [same]
  · exact each code listed

/-- A small letter is its own small letter. -/
theorem lowerAscii_lowerAscii (c : Char) : lowerAscii (lowerAscii c) = lowerAscii c := by
  -- Only capitals change, and what they change to is no capital.
  have each : ∀ code ∈ List.range' 65 26,
      lowerAscii (lowerAscii (Char.ofNat code)) = lowerAscii (Char.ofNat code) := by decide
  rcases lowerAscii_eq_or_capital c with same | ⟨code, listed, rfl⟩
  · rw [same, same]
  · exact each code listed

/-- A capital is its own capital. -/
theorem upperAscii_upperAscii (c : Char) : upperAscii (upperAscii c) = upperAscii c := by
  -- Only small letters change, and what they change to is no small letter.
  have each : ∀ code ∈ List.range' 97 26,
      upperAscii (upperAscii (Char.ofNat code)) = upperAscii (Char.ofNat code) := by decide
  rcases upperAscii_eq_or_small c with same | ⟨code, listed, rfl⟩
  · rw [same, same]
  · exact each code listed

/-- A character beyond ASCII is folded into ASCII only if it looks like s or k. -/
theorem foldCase_beyond {c : Char} (beyond : 0x80 ≤ c.toNat) :
    0x80 ≤ (foldCase c).toNat ∨ foldCase c ∈ ['s', 'k', '\x00'] := by
  have each : ∀ shift ∈ foldShifts, 0x80 ≤ shift.first + shift.distance ∨
      shift.first = shift.last ∧ (shift.first + shift.distance = 's'.toNat ∨
        shift.first + shift.distance = 'k'.toNat) := by
    decide +kernel
  -- The table moves no range of characters into ASCII, but two single ones.
  rw [foldCase, if_neg (by omega), shifted]
  cases found : foldShifts.find? (·.moves c.toNat) with
  | none => exact .inl beyond
  | some shift =>
    have moves := List.find?_some found
    simp only [Shift.moves, Bool.and_eq_true, decide_eq_true_eq] at moves
    show 0x80 ≤ (Char.ofNat (c.toNat + shift.distance).toNat).toNat ∨
      Char.ofNat (c.toNat + shift.distance).toNat ∈ ['s', 'k', '\x00']
    rcases each shift (List.mem_of_find?_eq_some found) with high | ⟨one, sign⟩
    · -- The shift leads to a character beyond ASCII, or to no character at all, which counts as the
      -- null character.
      by_cases valid : (c.toNat + shift.distance).toNat.isValidChar
      · left
        have code : (Char.ofNatAux _ valid).toNat = (c.toNat + shift.distance).toNat := rfl
        rw [Char.ofNat, dif_pos valid, code]
        omega
      · right
        have null : Char.ofNat (c.toNat + shift.distance).toNat = '\x00' := by
          rw [Char.ofNat, dif_neg valid]
          rfl
        rw [null]
        decide
    · right
      -- The range holds one character, which the long s or the sign of Kelvin is.
      have only : (c.toNat : Int) = shift.first := by omega
      rw [only]
      rcases sign with same | same <;> rw [same] <;> decide

/-- What is folded like one of the letters of GMT is that letter in one of its two cases. -/
theorem foldCase_eq_iff {letter : Char} (among : letter ∈ ['G', 'M', 'T']) (c : Char) :
    foldCase letter = foldCase c ↔ lowerAscii c = lowerAscii letter := by
  -- In ASCII folding is the same as lowering, so the two sides are the same equation.
  by_cases ascii : c.toNat < 0x80
  · have each : (['G', 'M', 'T'].all fun letter => foldCase letter == lowerAscii letter) = true := by
      decide
    rw [beq_iff_eq.mp (List.all_eq_true.mp each letter among), foldCase, if_pos ascii]
    exact eq_comm
  · -- Beyond ASCII nothing is folded to one of these letters, nor is anything one of them.
    have each : (['G', 'M', 'T'].all fun letter => decide
        (¬(0x80 ≤ (foldCase letter).toNat ∨ foldCase letter ∈ ['s', 'k', '\x00']) ∧
          (lowerAscii letter).toNat < 0x80)) = true := by
      decide
    obtain ⟨near, small⟩ := of_decide_eq_true (List.all_eq_true.mp each letter among)
    have far := foldCase_beyond (Nat.le_of_not_lt ascii)
    have own : lowerAscii c = c := by
      refine if_neg fun capital => ascii ?_
      have : c.toNat ≤ 90 := capital.2
      omega
    refine iff_of_false (fun same => near (same ▸ far)) fun same => ascii ?_
    rw [← own, same]
    exact small

end DatePattern.Text
