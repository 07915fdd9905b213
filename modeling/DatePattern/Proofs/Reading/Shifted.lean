import DatePattern.Proofs.Reading.Contract

/-! Texts further on: a reading from a position depends on the text from there only. -/

namespace DatePattern

/-- The position that is as far into a text when the text stands behind some more bytes. -/
def Position.shift (bytes : Nat) (position : Position) : Position :=
  ⟨bytes + position.index, position.errorIndex.map (bytes + ·)⟩

namespace Reader

/-- What is read behind a front is what is read without it, with the positions moved on. -/
theorem readInto_shift (reader : Reader) (front text : String) (position : Position)
    (collected : Collected) :
    reader.readInto (front ++ text) (position.shift front.utf8ByteSize) collected =
      ((reader.readInto text position collected).1,
        (reader.readInto text position collected).2.1.shift front.utf8ByteSize,
        (reader.readInto text position collected).2.2) := by
  -- The steps are given the text from the position on, which is the same one.
  have same : Text.from? (front ++ text).toList (front.utf8ByteSize + position.index) =
      Text.from? text.toList position.index := by
    rw [String.toList_append, ← Text.byteLength_toList front, Text.from?_append_add]
  rw [readInto, readInto, Position.shift, same]
  cases Text.from? text.toList position.index with
  | none => rfl
  | some rest =>
    simp only
    cases (reader.readSteps reader.steps rest).2 with
    | ok unread => simp only [Position.shift, Nat.add_assoc]
    | error skipped => simp only [Position.shift, Option.map_some, Nat.add_assoc]

/-- An instant that is read behind a front is the one that is read without it. -/
theorem readAt_shift (reader : Reader) (front text : String) (position : Position) :
    reader.readAt (front ++ text) (position.shift front.utf8ByteSize) =
      ((reader.readAt text position).1,
        (reader.readAt text position).2.shift front.utf8ByteSize) := by
  rw [readAt, readAt, readInto_shift]
  rcases reader.readInto text position .empty with ⟨success, after, collected⟩
  cases success with
  | false => rfl
  | true =>
    simp only
    -- Fields that do not resolve take both positions back to where they were.
    cases collected.resolve? reader.zone reader.calendar with
    | none => rfl
    | some instant => rfl

/-- Readings depend on the text from their position only, byte positions in the whole text included. -/
theorem reading_local (reader : Reader) (front text : String) (position : Position)
    (collected : Collected) :
    (∃ success after found,
      reader.readInto text position collected = (success, after, found) ∧
      reader.readInto (front ++ text) (position.shift front.utf8ByteSize) collected =
        (success, after.shift front.utf8ByteSize, found) ∧
      reader.checkedInto? (front ++ text) (position.shift front.utf8ByteSize) collected =
        some (success, after.shift front.utf8ByteSize, found)) ∧
    ∃ instant after,
      reader.readAt text position = (instant, after) ∧
      reader.readAt (front ++ text) (position.shift front.utf8ByteSize) =
        (instant, after.shift front.utf8ByteSize) ∧
      reader.checkedAt? (front ++ text) (position.shift front.utf8ByteSize) =
        some (instant, after.shift front.utf8ByteSize) := by
  have into := reader.readInto_shift front text position collected
  have moment := reader.readAt_shift front text position
  rcases read : reader.readInto text position collected with ⟨success, after, found⟩
  rcases told : reader.readAt text position with ⟨instant, reached⟩
  rw [read] at into
  rw [told] at moment
  -- The readers by byte positions count them from the first byte of the whole text.
  exact ⟨⟨success, after, found, rfl, into, by rw [checkedInto?_eq, into]⟩,
    instant, reached, rfl, moment, by rw [checkedAt?_eq, moment]⟩

end Reader

end DatePattern
