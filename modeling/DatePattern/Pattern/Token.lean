import DatePattern.Pattern.Error
import DatePattern.Text.CodePoints

/-! Pattern tokens: runs of one letter, and the literal text between them. -/

namespace DatePattern

/-- A piece of a pattern. -/
inductive Token where
  /-- Text that stands for itself, without its quotes. -/
  | literal (text : List Char)
  /-- A letter and how many times it is repeated. -/
  | letters (letter : Char) (width : Nat)
deriving DecidableEq, Repr

/-- A character of a pattern once quotes are taken out. -/
inductive Mark where
  /-- A character that stands for itself. -/
  | text (c : Char)
  /-- A letter that stands for a part of the date. -/
  | letter (c : Char)
deriving DecidableEq, Repr

/-- The marks of a pattern, unless a quote is left open; `quoted` tells whether one is. -/
def Mark.scan? : (quoted : Bool) → List Char → Option (List Mark)
  | quoted, [] => if quoted then none else some []
  -- Two quotes in a row are a quote, inside a quotation or not.
  | quoted, '\x27' :: '\x27' :: rest => (scan? quoted rest).map (.text '\x27' :: ·)
  | quoted, '\x27' :: rest => scan? (!quoted) rest
  | quoted, c :: rest =>
    (scan? quoted rest).map ((if quoted || !Text.isAsciiLetter c then .text c else .letter c) :: ·)

namespace Token

/-- The text that a token stands for in a pattern, without quotes. -/
def component : Token → List Char
  | .literal text => text
  | .letters letter width => List.replicate width letter

/-- A mark joins the token after it where it continues that token. -/
def cons : Mark → List Token → List Token
  | .text c, .literal text :: rest => .literal (c :: text) :: rest
  | .text c, tokens => .literal [c] :: tokens
  | .letter c, .letters letter width :: rest =>
    if c = letter then .letters letter (width + 1) :: rest
    else .letters c 1 :: .letters letter width :: rest
  | .letter c, tokens => .letters c 1 :: tokens

/-- The longest tokens that marks make up. -/
def ofMarks (marks : List Mark) : List Token := marks.foldr cons []

/-- The tokens of a pattern. -/
def ofPattern (pattern : String) : Except PatternError (List Token) :=
  match Mark.scan? false pattern.toList with
  | some marks => .ok (ofMarks marks)
  | none => .error .unterminatedQuote

end Token

end DatePattern
