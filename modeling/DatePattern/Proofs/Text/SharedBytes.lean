import DatePattern.Proofs.Text.Positions

/-! Where two texts part: the count of their shared leading bytes may end inside a character. -/

namespace DatePattern.Text

/-- Whether literal text parts from a text at two characters whose first bytes are the same. -/
def partsInside : (lead text : List Char) → Bool
  | l :: lead, c :: text =>
    if l = c then partsInside lead text
    else (String.utf8EncodeChar l).head? == (String.utf8EncodeChar c).head?
  | _, _ => false

/-- Literal text that parts from a text is not what the text begins with. -/
theorem after?_of_partsInside {lead text : List Char} (inside : partsInside lead text = true) :
    after? lead text = none := by
  -- The same characters are passed by both, up to the first that differ.
  fun_induction partsInside lead text with
  | case1 lead c text ih => rw [after?, if_pos rfl, ih inside]
  | case2 l lead c text differ => rw [after?, if_neg differ]
  | case3 lead text short => cases inside

/-- A character is told by its own bytes, whatever bytes follow them. -/
theorem utf8EncodeChar_append_inj {c d : Char} {left right : List UInt8}
    (same : String.utf8EncodeChar c ++ left = String.utf8EncodeChar d ++ right) : c = d := by
  -- Decoding gives the first character back from either side.
  have decoded : ∀ (e : Char) (later : List UInt8),
      (String.utf8EncodeChar e ++ later).toByteArray.utf8DecodeChar? 0 = some e := by
    intro e later
    rw [List.toByteArray_append, ByteArray.utf8DecodeChar?_utf8EncodeChar_append]
  have first := decoded c left
  rw [same, decoded d right] at first
  exact (Option.some.inj first).symm

/-- The leading bytes that two texts share are the same in both. -/
theorem take_sharedBytes (left right : List Char) :
    (bytes left).take (sharedBytes left right) = (bytes right).take (sharedBytes left right) := by
  rw [sharedBytes]
  generalize bytes left = front
  generalize bytes right = other
  -- Bytes are compared in pairs, for as long as both texts have any.
  induction front generalizing other with
  | nil => rfl
  | cons a front ih =>
    cases other with
    | nil => rfl
    | cons b other =>
      rw [List.zip_cons_cons, List.takeWhile_cons]
      by_cases same : a = b
      · simp only [same, beq_self_eq_true, if_true, List.length_cons, List.take_succ_cons, ih]
      · simp [same]

/-- Texts that begin with the same character share its bytes. -/
theorem sharedBytes_cons_self (c : Char) (left right : List Char) :
    sharedBytes (c :: left) (c :: right) = c.utf8Size + sharedBytes left right := by
  simp only [sharedBytes, bytes, List.flatMap_cons, ← String.length_utf8EncodeChar c]
  -- The bytes of the character are passed one by one.
  induction String.utf8EncodeChar c with
  | nil => simp
  | cons byte own ih =>
    rw [List.cons_append, List.cons_append, List.zip_cons_cons, List.takeWhile_cons]
    simp only [beq_self_eq_true, if_true, List.length_cons, ih]
    omega

/-- Texts that begin with different characters part before the end of the second one's. -/
theorem sharedBytes_cons_lt {c d : Char} (differ : c ≠ d) (left right : List Char) :
    sharedBytes (c :: left) (d :: right) < d.utf8Size := by
  refine Nat.lt_of_not_le fun whole => differ ?_
  -- Were all bytes of the second one shared, then the first text began with them.
  have shared := congrArg (List.take d.utf8Size) (take_sharedBytes (c :: left) (d :: right))
  rw [List.take_take, List.take_take, Nat.min_eq_left whole] at shared
  have own : (bytes (d :: right)).take d.utf8Size = String.utf8EncodeChar d := by
    rw [bytes, List.flatMap_cons, ← String.length_utf8EncodeChar d, List.take_left]
  have begins : String.utf8EncodeChar c ++ bytes left =
      String.utf8EncodeChar d ++ (bytes (c :: left)).drop d.utf8Size := by
    rw [← own, ← shared, List.take_append_drop, bytes, bytes, List.flatMap_cons]
  exact utf8EncodeChar_append_inj begins

/-- Texts share nothing exactly when the first bytes of their first characters differ. -/
theorem sharedBytes_cons_eq_zero_iff {c d : Char} (left right : List Char) :
    sharedBytes (c :: left) (d :: right) = 0 ↔
      (String.utf8EncodeChar c).head? ≠ (String.utf8EncodeChar d).head? := by
  -- Every character has a first byte, and the first pair of bytes decides.
  obtain ⟨a, later, first, -⟩ := utf8EncodeChar_first c
  obtain ⟨b, others, second, -⟩ := utf8EncodeChar_first d
  simp only [sharedBytes, bytes, List.flatMap_cons, first, second, List.cons_append,
    List.zip_cons_cons, List.takeWhile_cons, List.head?_cons]
  by_cases same : a = b <;> simp [same]

/-- A position is a boundary behind a front as it is one without it. -/
theorem boundary_append_add (front : List Char) {text : List Char} {index : Nat} :
    Boundary (front ++ text) (byteLength front + index) ↔ Boundary text index := by
  -- The text goes on behind the front as it does without it.
  rw [boundary_iff, boundary_iff, from?_append_add]

/-- A boundary before the end of the first character is the start of the text. -/
theorem boundary_cons_iff {c : Char} {text : List Char} {index : Nat}
    (inside : index < c.utf8Size) : Boundary (c :: text) index ↔ index = 0 := by
  -- The first character has no boundary inside of it.
  rw [boundary_iff]
  cases index with
  | zero => exact ⟨fun _ => rfl, fun _ => ⟨c :: text, rfl⟩⟩
  | succ index =>
    rw [from?, if_neg (Nat.not_le_of_lt inside)]
    · simp
    · simp

/-- The shared bytes of literal text end between characters, unless it parts from the text inside one. -/
theorem boundary_sharedBytes_iff {lead text : List Char} (unlike : after? lead text = none) :
    Boundary text (sharedBytes lead text) ↔ partsInside lead text = false := by
  -- Characters that are the same are passed, and the first that differ decide.
  fun_induction partsInside lead text with
  | case1 lead c text ih =>
    rw [after?, if_pos rfl] at unlike
    rw [sharedBytes_cons_self, ← ih unlike]
    exact boundary_append_add [c]
  | case2 l lead c text differ =>
    rw [boundary_cons_iff (sharedBytes_cons_lt differ lead text), sharedBytes_cons_eq_zero_iff]
    simp
  | case3 lead text short =>
    cases lead with
    | nil => cases unlike
    | cons l lead =>
      cases text with
      | nil => simp [sharedBytes, bytes, boundary_iff, from?]
      | cons c text => exact absurd rfl (short l lead c text rfl)

end DatePattern.Text
