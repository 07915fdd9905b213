import DatePattern.Text.CaseFold
import DatePattern.Text.DecimalDigit
import DatePattern.Text.Digits

/-! Numeric offsets: how they are written, and the shapes of text that may be one. -/

namespace DatePattern

/-- How much of an offset is written, and whether a colon divides it. -/
inductive OffsetForm where
  /-- The hours alone, such as -08. -/
  | hours
  /-- Hours and minutes, such as -0800. -/
  | hoursMinutes
  /-- Hours and minutes with a colon, such as -08:00. -/
  | hoursColonMinutes
deriving DecidableEq, Repr

/-- A place in a shape of text. -/
inductive Slot where
  /-- A plus or a minus sign. -/
  | sign
  /-- A decimal digit of any script. -/
  | digit
  /-- One character in any case. -/
  | letter (c : Char)
  /-- One character as it is. -/
  | mark (c : Char)
deriving DecidableEq, Repr

/-- Whether a character may stand in a place. -/
def Slot.accepts : Slot → Char → Bool
  | .sign, c => c == '+' || c == '-'
  | .digit, c => Text.isDecimalDigit c
  | .letter l, c => Text.foldCase l == Text.foldCase c
  | .mark m, c => m == c

/-- The front of a text that has a shape, and the text after it. -/
def takeShape? : (shape : List Slot) → (text : List Char) → Option (List Char × List Char)
  | [], text => some ([], text)
  | _ :: _, [] => none
  | slot :: shape, c :: text =>
    if slot.accepts c then (takeShape? shape text).map fun (taken, rest) => (c :: taken, rest)
    else none

namespace OffsetForm

/-- The characters that an offset below one hundred hours takes. -/
def length : OffsetForm → Nat
  | .hours => 3
  | .hoursMinutes => 5
  | .hoursColonMinutes => 6

/-- An offset in milliseconds, where a zero offset has a plus sign. -/
def render (form : OffsetForm) (offset : Int) : List Char :=
  let minutes := Digits.two (offset.natAbs % 3600000 / 60000)
  [if offset < 0 then '-' else '+'] ++ Digits.padded (offset.natAbs / 3600000 : Nat) 2 ++
    match form with
    | .hours => []
    | .hoursMinutes => minutes
    | .hoursColonMinutes => ':' :: minutes

/-- An offset in milliseconds, where Z stands for a zero offset. -/
def renderZulu (form : OffsetForm) (offset : Int) : List Char :=
  if offset = 0 then ['Z'] else form.render offset

/-- The shape of offsets of a form. -/
def shape : OffsetForm → List Slot
  | .hours => [.sign, .digit, .digit]
  | .hoursMinutes => [.sign, .digit, .digit, .digit, .digit]
  | .hoursColonMinutes => [.sign, .digit, .digit, .mark ':', .digit, .digit]

/-- The Z or the offset that a text begins with, and the text after it. -/
def takeZulu? (form : OffsetForm) (text : List Char) : Option (List Char × List Char) :=
  (takeShape? [.mark 'Z'] text).or (takeShape? form.shape text)

end OffsetForm

end DatePattern
