import DatePattern.Text.Printable

/-! Quoted text for messages: every character that would not show is written by its code. -/

namespace DatePattern.Text

/-- One character as it stands between quotation marks. -/
def escaped (c : Char) : List Char :=
  match c with
  | '"' => ['\\', '"']
  | '\\' => ['\\', '\\']
  | '\n' => ['\\', 'n']
  | '\r' => ['\\', 'r']
  | '\t' => ['\\', 't']
  | '\x00' => ['\\', '0']
  | c =>
    -- A combining mark would join the character before it, so its code is written too.
    if isPrintable c && !isCombining c then [c]
    else ['\\', 'u', '\x7b'] ++ Nat.toDigits 16 c.toNat ++ ['\x7d']

/-- A text between quotation marks. -/
def quoted (text : List Char) : List Char :=
  ['"'] ++ text.flatMap escaped ++ ['"']

end DatePattern.Text
