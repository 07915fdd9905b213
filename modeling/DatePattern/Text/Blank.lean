import DatePattern.Text.CodePoints

/-! White space in the sense of the Unicode property, and trimming. -/

namespace DatePattern.Text

/-- The ranges of the property White_Space. -/
def blankRanges : List (Nat × Nat) := [
    (0x9, 0xD), (0x20, 0x20), (0x85, 0x85), (0xA0, 0xA0), (0x1680, 0x1680), (0x2000, 0x200A),
    (0x2028, 0x2029), (0x202F, 0x202F), (0x205F, 0x205F), (0x3000, 0x3000)]

/-- A white space character. -/
def isBlank (c : Char) : Bool := inRanges blankRanges c

/-- A text without the blanks that it begins with. -/
def trimStart (text : List Char) : List Char := text.dropWhile isBlank

/-- A text without the blanks that it begins or ends with. -/
def trim (text : List Char) : List Char :=
  -- Blanks at the end come first when the text is turned around.
  (trimStart (trimStart text).reverse).reverse

end DatePattern.Text
