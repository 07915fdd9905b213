/-! Decimal digits: how many a number has, its last few, and zero-padded writing. -/

namespace DatePattern.Digits

/-- The value of one in the decimal place after some other places. -/
def power : (places : Nat) → Nat
  | 0 => 1
  | places + 1 => 10 * power places

/-- The count of decimal digits of a magnitude, from one up to twenty. -/
def count (n : Nat) : Nat :=
  -- One digit is always there, and every power of ten reached adds another.
  1 + ((List.range 19).filter fun places => power (places + 1) ≤ n).length

/-- The last `places` decimal digits of a number, highest place first. -/
def last : (places : Nat) → (n : Nat) → List Char
  | 0, _ => []
  | places + 1, n => Nat.digitChar (n / power places % 10) :: last places n

/-- A number in at least `width` digits, with a minus sign that is not counted. -/
def padded (value : Int) (width : Nat) : List Char :=
  -- The zeros make up for the digits that the magnitude lacks.
  (if value < 0 then ['-'] else []) ++
    List.replicate (width - count value.natAbs) '0' ++ last (count value.natAbs) value.natAbs

/-- A number below one hundred in exactly two digits. -/
def two (n : Nat) : List Char := last 2 n

/-- Two characters for a word of 32 bits, of which the first is a digit only below one hundred. -/
def twoOfWord (word : Nat) : List Char :=
  -- The tens and the ones are bytes counted from the digit zero, and bytes wrap around.
  [Char.ofNat (('0'.toNat + word / 10) % 256), Char.ofNat (('0'.toNat + word % 10) % 256)]

/-- The number that a run of decimal digits denotes. -/
def value (digits : List Char) : Nat := Nat.ofDigitChars 10 digits 0

/-- Exactly the requested number of places is written. -/
@[simp] theorem length_last (places n : Nat) : (last places n).length = places := by
  -- Every place adds one character.
  induction places with
  | zero => rfl
  | succ places ih => simp [last, ih]

/-- Two digits are always two characters. -/
@[simp] theorem length_two (n : Nat) : (two n).length = 2 := length_last 2 n

end DatePattern.Digits
