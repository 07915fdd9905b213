import DatePattern.Count
import DatePattern.Text.Digits

/-! Instants: points on the UTC timeline, held as whole seconds and nanoseconds. -/

namespace DatePattern

/-- A point on the UTC timeline, counted from the first moment of 1970. -/
structure Instant where
  /-- Whole seconds since the epoch, rounded down. -/
  second : Int
  /-- Nanoseconds past that second. -/
  nano : Nat
deriving DecidableEq, Repr

namespace Instant

/-- The first moment of 1970. -/
def epoch : Instant := ⟨0, 0⟩

/-- The instant `nano` nanoseconds past a second, where whole seconds are carried over. -/
def ofSecond (second : Int) (nano : Nat) : Instant :=
  -- The carry is held at the greatest second when it would pass it.
  ⟨Count.clamp (second + nano / 1000000000), nano % 1000000000⟩

/-- The instant of a count of milliseconds since the epoch. -/
def ofMillis (millis : Int) : Instant :=
  -- Rounding down keeps the nanoseconds positive before the epoch too.
  ⟨millis / 1000, (millis % 1000).toNat * 1000000⟩

/-- The instant some nanoseconds, less than a million, past a millisecond. -/
def ofMillisAndNanos (millis : Int) (nanos : Nat) : Instant :=
  ⟨(ofMillis millis).second, (ofMillis millis).nano + nanos⟩

/-- Milliseconds since the epoch, where each of the two steps is held in range. -/
def millis (instant : Instant) : Int :=
  Count.clamp (Count.clamp (instant.second * 1000) + (instant.nano / 1000000 : Nat))

/-- Nanoseconds past the last whole millisecond. -/
def nanoOfMilli (instant : Instant) : Nat := instant.nano % 1000000

/-- The instant some nanoseconds later, or earlier when they are negative. -/
def addNanos? (instant : Instant) (nanos : Int) : Option Instant := do
  -- The sum of nanoseconds and the sum of seconds must both be representable.
  let total ← Count.within? (instant.nano + nanos)
  let second ← Count.within? (instant.second + total / 1000000000)
  return ⟨second, (total % 1000000000).toNat⟩

/-- The first second of the civil range, which begins with the year -262143. -/
def firstCivilSecond : Int := -8334601228800

/-- The last second of the civil range, which ends with the year 262142. -/
def lastCivilSecond : Int := 8210266876799

/-- Whether the civil range covers an instant. -/
def InCivilRange (instant : Instant) : Prop :=
  firstCivilSecond ≤ instant.second ∧ instant.second ≤ lastCivilSecond

instance (instant : Instant) : Decidable instant.InCivilRange :=
  inferInstanceAs (Decidable (_ ∧ _))

/-- Earlier instants come first, by second and then by nanosecond. -/
def notAfter (first second : Instant) : Bool :=
  first.second < second.second || (first.second == second.second && first.nano ≤ second.nano)

/-- The seconds and nine digits of nanoseconds, with a point between them. -/
def render (instant : Instant) : String :=
  String.ofList (Digits.padded instant.second 1 ++ ['.'] ++ Digits.padded instant.nano 9)

end Instant

end DatePattern
