import DatePattern.Text.Bytes
import DatePattern.Text.CodePoints

/-! Byte positions: a text can be cut between its characters, and each of its bytes can be looked at. -/

namespace DatePattern.Text

/-- A byte position between two characters of a text, or at one of its ends. -/
def Boundary (text : List Char) (index : Nat) : Prop :=
  ∃ front rest, text = front ++ rest ∧ byteLength front = index

/-- The front of a text of some bytes, when it ends between two characters. -/
def upTo? : (text : List Char) → (size : Nat) → Option (List Char)
  | _, 0 => some []
  | [], _ + 1 => none
  | c :: rest, size =>
    if c.utf8Size ≤ size then (upTo? rest (size - c.utf8Size)).map (c :: ·) else none

/-- The text between two byte positions, when they are in order and lie between characters. -/
def slice? (text : List Char) (first last : Nat) : Option (List Char) :=
  if last < first then none else (from? text first).bind (upTo? · (last - first))

/-- The byte at a position inside a text. -/
def byte? (text : List Char) (index : Nat) : Option UInt8 := (bytes text)[index]?

/-- One of the bytes of the ten ASCII digits. -/
def isDigitByte (byte : UInt8) : Bool := 0x30 ≤ byte && byte ≤ 0x39

/-- A text goes on after a front as it does without it. -/
theorem from?_append_add (front text : List Char) (index : Nat) :
    from? (front ++ text) (byteLength front + index) = from? text index := by
  -- Each character of the front gives up its own bytes of the position.
  induction front with
  | nil => rw [List.nil_append, byteLength_nil, Nat.zero_add]
  | cons c front ih =>
    have positive := c.utf8Size_pos
    have nonzero : c.utf8Size + byteLength front + index ≠ 0 := by omega
    rw [List.cons_append, byteLength_cons, from?, if_pos (by omega), Nat.add_assoc,
      Nat.add_sub_cancel_left, ih]
    exact nonzero

/-- A text continues from the end of its front. -/
theorem from?_append (front rest : List Char) :
    from? (front ++ rest) (byteLength front) = some rest := by
  -- The front uses up its bytes, and nothing is left of the position.
  rw [← Nat.add_zero (byteLength front), from?_append_add]
  cases rest <;> rfl

/-- A text from a position on is the rest of it after a front that ends there. -/
theorem from?_eq_some_iff {text rest : List Char} {index : Nat} :
    from? text index = some rest ↔ ∃ front, text = front ++ rest ∧ byteLength front = index := by
  constructor
  · intro found
    -- Stepping over a character moves the front on by its bytes, and may not end inside of them.
    fun_induction from? text index with
    | case1 text =>
      cases found
      exact ⟨[], rfl, rfl⟩
    | case2 => cases found
    | case3 c text index _ inside ih =>
      obtain ⟨front, rfl, ends⟩ := ih found
      exact ⟨c :: front, rfl, by rw [byteLength_cons]; omega⟩
    | case4 => cases found
  · rintro ⟨front, rfl, rfl⟩
    exact from?_append front rest

/-- A text can be cut at the boundaries between its characters. -/
theorem boundary_iff {text : List Char} {index : Nat} :
    Boundary text index ↔ ∃ rest, from? text index = some rest := by
  -- Both say that the text is a front of so many bytes and a rest.
  simp only [from?_eq_some_iff]
  exact exists_comm

instance (text : List Char) (index : Nat) : Decidable (Boundary text index) :=
  decidable_of_iff ((from? text index).isSome = true)
    (Option.isSome_iff_exists.trans boundary_iff.symm)

/-- The front of a text is taken by its bytes. -/
theorem upTo?_append (front rest : List Char) :
    upTo? (front ++ rest) (byteLength front) = some front := by
  -- Each character of the front takes its bytes from the size, until none is left.
  induction front with
  | nil => cases rest <;> rfl
  | cons c front ih =>
    have positive := c.utf8Size_pos
    have nonzero : c.utf8Size + byteLength front ≠ 0 := by omega
    rw [List.cons_append, byteLength_cons, upTo?, if_pos (by omega), Nat.add_sub_cancel_left, ih]
    · rfl
    · exact nonzero

/-- What lies between two fronts of a text is cut out by their ends. -/
theorem slice?_append (front middle rest : List Char) :
    slice? (front ++ (middle ++ rest)) (byteLength front) (byteLength front + byteLength middle) =
      some middle := by
  -- The front is skipped first, and what follows is cut to the bytes of the middle.
  rw [slice?, if_neg (by omega), from?_append, Option.bind_some, Nat.add_sub_cancel_left,
    upTo?_append]

/-- A text has as many bytes as its length says. -/
theorem length_bytes (text : List Char) : (bytes text).length = byteLength text := by
  -- Each character is encoded in as many bytes as its size says.
  induction text with
  | nil => rfl
  | cons c text ih =>
    rw [bytes, List.flatMap_cons, List.length_append, String.length_utf8EncodeChar,
      byteLength_cons, ← ih, bytes]

/-- The bytes of a string are those of its characters. -/
theorem byteLength_toList (text : String) : byteLength text.toList = text.utf8ByteSize := by
  -- A string is stored as the encoding of its characters.
  rw [← length_bytes, bytes, String.utf8ByteSize, ← String.utf8Encode_toList, List.utf8Encode,
    List.size_toByteArray]

/-- The valid positions of a string are those between its characters. -/
theorem boundary_toList_iff {text : String} {index : Nat} :
    Boundary text.toList index ↔ String.Pos.Raw.IsValid text ⟨index⟩ := by
  -- Both say that the text is divided into two, with so many bytes in the first part.
  rw [String.Pos.Raw.isValid_iff_exists_append]
  constructor
  · rintro ⟨front, rest, split, ends⟩
    refine ⟨String.ofList front, String.ofList rest, ?_, ?_⟩
    · rw [← String.ofList_append, ← split, String.ofList_toList]
    · rw [String.rawEndPos, ← byteLength_toList, String.toList_ofList, ends]
  · rintro ⟨front, rest, rfl, ends⟩
    refine ⟨front.toList, rest.toList, String.toList_append, ?_⟩
    rw [byteLength_toList]
    exact (congrArg String.Pos.Raw.byteIdx ends).symm

/-- The code of a byte shows whether it is that of a digit. -/
theorem isDigitByte_ofNat {code : Nat} (small : code < 256) :
    isDigitByte (UInt8.ofNat code) = (decide (48 ≤ code) && decide (code ≤ 57)) := by
  -- A byte compares like its code, which is below 256.
  have own : (UInt8.ofNat code).toNat = code := UInt8.toNat_ofNat_of_lt' small
  have lower : 0x30 ≤ UInt8.ofNat code ↔ 48 ≤ code := by
    rw [UInt8.le_iff_toNat_le, own]
    rfl
  have upper : UInt8.ofNat code ≤ 0x39 ↔ code ≤ 57 := by
    rw [UInt8.le_iff_toNat_le, own]
    rfl
  rw [isDigitByte, decide_eq_decide.mpr lower, decide_eq_decide.mpr upper]

/-- The first byte of a character shows whether it is an ASCII digit. -/
theorem utf8EncodeChar_first (c : Char) :
    ∃ first later, String.utf8EncodeChar c = first :: later ∧
      isDigitByte first = isAsciiDigit c := by
  -- The first byte of a character of ASCII is its code.
  have digit : isAsciiDigit c = (decide (48 ≤ c.toNat) && decide (c.toNat ≤ 57)) := rfl
  rw [digit]
  -- A longer encoding begins with a byte above those of ASCII.
  have long : ∀ code, 128 ≤ code → code < 256 → 128 ≤ c.toNat →
      isDigitByte (UInt8.ofNat code) = (decide (48 ≤ c.toNat) && decide (c.toNat ≤ 57)) := by
    intro code high small far
    rw [isDigitByte_ofNat small]
    have above : ¬code ≤ 57 := by omega
    have beyond : ¬c.toNat ≤ 57 := by omega
    simp [above, beyond]
  unfold String.utf8EncodeChar
  have same : c.val.toNat = c.toNat := rfl
  simp only [same]
  -- Encodings of one byte keep the code, and those of two, three and four bytes begin high.
  split
  next short => exact ⟨_, _, rfl, isDigitByte_ofNat (by omega)⟩
  next =>
    split
    next => exact ⟨_, _, rfl, long _ (by omega) (by omega) (by omega)⟩
    next =>
      split
      next => exact ⟨_, _, rfl, long _ (by omega) (by omega) (by omega)⟩
      next => exact ⟨_, _, rfl, long _ (by omega) (by omega) (by omega)⟩

/-- The byte after a front shows whether an ASCII digit follows. -/
theorem byte?_append (front : List Char) (c : Char) (rest : List Char) :
    ∃ byte, byte? (front ++ c :: rest) (byteLength front) = some byte ∧
      isDigitByte byte = isAsciiDigit c := by
  obtain ⟨first, later, encoded, same⟩ := utf8EncodeChar_first c
  refine ⟨first, ?_, same⟩
  -- The bytes of the front are as many as the position says.
  rw [byte?, bytes, List.flatMap_append, ← length_bytes, bytes, List.flatMap_cons, encoded,
    List.getElem?_append_right (Nat.le_refl _), Nat.sub_self]
  rfl

/-- A digit of ASCII is one byte. -/
theorem byteLength_digits {digits : List Char} (ascii : ∀ c ∈ digits, isAsciiDigit c = true) :
    byteLength digits = digits.length := by
  -- By induction, with one byte for each digit.
  induction digits with
  | nil => rfl
  | cons c digits ih =>
    obtain ⟨here, later⟩ := List.forall_mem_cons.mp ascii
    -- No digit lies beyond the last one, whose code is below 128.
    have one : c.utf8Size = 1 := by
      rw [Char.utf8Size_eq_one_iff]
      simp only [isAsciiDigit, Bool.and_eq_true, decide_eq_true_eq] at here
      have upper : c.val ≤ '9'.val := here.2
      exact UInt32.le_trans upper (by decide)
    rw [byteLength_cons, one, ih later, List.length_cons, Nat.add_comm]

/-- Texts share no more bytes than the one of them has. -/
theorem sharedBytes_le (left right : List Char) : sharedBytes left right ≤ byteLength right := by
  -- The bytes are compared in pairs, of which there are no more than bytes on either side.
  have few := (List.takeWhile_sublist (fun pair : UInt8 × UInt8 => pair.1 == pair.2)
    (l := (bytes left).zip (bytes right))).length_le
  rw [List.length_zip, length_bytes, length_bytes] at few
  rw [sharedBytes]
  omega

end DatePattern.Text
