/-! Byte positions in UTF-8 text, counted over its characters. -/

namespace DatePattern.Text

/-- The bytes that a text takes in UTF-8. -/
def byteLength : (text : List Char) → Nat
  | [] => 0
  | c :: rest => c.utf8Size + byteLength rest

/-- The UTF-8 encoding of a text. -/
def bytes (text : List Char) : List UInt8 := text.flatMap String.utf8EncodeChar

/-- The text from a byte position on, when the position lies between two characters. -/
def from? : (text : List Char) → (position : Nat) → Option (List Char)
  | text, 0 => some text
  | [], _ + 1 => none
  | c :: rest, position =>
    -- A position inside the first character starts no text.
    if c.utf8Size ≤ position then from? rest (position - c.utf8Size) else none

/-- The count of leading bytes that two texts share. -/
def sharedBytes (left right : List Char) : Nat :=
  (((bytes left).zip (bytes right)).takeWhile fun pair => pair.1 == pair.2).length

/-- What follows `lead` in a text that begins with it. -/
def after? : (lead text : List Char) → Option (List Char)
  | [], text => some text
  | _ :: _, [] => none
  | l :: lead, c :: text => if l = c then after? lead text else none

/-- No characters take no bytes. -/
@[simp] theorem byteLength_nil : byteLength [] = 0 := rfl

/-- A first character adds its own width. -/
@[simp] theorem byteLength_cons (c : Char) (text : List Char) :
    byteLength (c :: text) = c.utf8Size + byteLength text := rfl

/-- The bytes of two texts in a row add up. -/
@[simp] theorem byteLength_append (left right : List Char) :
    byteLength (left ++ right) = byteLength left + byteLength right := by
  -- Widths are summed one character at a time.
  induction left with
  | nil => simp
  | cons c left ih => simp [ih, Nat.add_assoc]

/-- A text continues after `lead` exactly when it is `lead` and that continuation. -/
theorem after?_eq_some_iff {lead text rest : List Char} :
    after? lead text = some rest ↔ text = lead ++ rest := by
  -- Both sides peel off one equal character at a time.
  induction lead generalizing text with
  | nil => simp [after?]
  | cons l lead ih =>
    cases text with
    | nil => simp [after?]
    | cons c text =>
      by_cases same : l = c
      · simp [after?, same, ih]
      · simp [after?, same, Ne.symm same]

end DatePattern.Text
