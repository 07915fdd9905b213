/-! Tables over code points: which ones have a property, and which ones a mapping moves. -/

namespace DatePattern.Text

/-- Membership in a table of inclusive code point ranges. -/
def inRanges (ranges : List (Nat × Nat)) (c : Char) : Bool :=
  ranges.any fun range => range.1 ≤ c.toNat && c.toNat ≤ range.2

/-- Evenly spaced code points that a mapping moves by the same distance. -/
structure Shift where
  /-- The first code point that moves. -/
  first : Nat
  /-- The last code point that moves. -/
  last : Nat
  /-- The spacing of the code points that move. -/
  step : Nat
  /-- How far each of them moves. -/
  distance : Int
deriving Repr, DecidableEq

/-- Whether a shift moves a code point. -/
def Shift.moves (shift : Shift) (code : Nat) : Bool :=
  shift.first ≤ code && code ≤ shift.last && (code - shift.first) % shift.step == 0

/-- The image of a character, which is itself when no shift moves it. -/
def shifted (shifts : List Shift) (c : Char) : Char :=
  match shifts.find? (·.moves c.toNat) with
  | some shift => Char.ofNat (c.toNat + shift.distance).toNat
  | none => c

/-- An ASCII capital as its small letter, and every other character as it is. -/
def lowerAscii (c : Char) : Char :=
  if 'A' ≤ c ∧ c ≤ 'Z' then Char.ofNat (c.toNat + 32) else c

/-- An ASCII small letter as its capital, and every other character as it is. -/
def upperAscii (c : Char) : Char :=
  if 'a' ≤ c ∧ c ≤ 'z' then Char.ofNat (c.toNat - 32) else c

/-- One of the 52 ASCII letters. -/
def isAsciiLetter (c : Char) : Bool :=
  ('a' ≤ c && c ≤ 'z') || ('A' ≤ c && c ≤ 'Z')

/-- One of the ten ASCII digits. -/
def isAsciiDigit (c : Char) : Bool := '0' ≤ c && c ≤ '9'

end DatePattern.Text
