import DatePattern.Proofs.Reading.Checked

/-! The contract of positions: how far a reading goes, and which place it blames when it fails. -/

namespace DatePattern

/-- What holds after a reading that succeeded, of the positions before and after it. -/
structure Position.Reached (text : String) (before after : Position) : Prop where
  /-- Reading does not go back. -/
  forward : before.index ≤ after.index
  /-- It ends inside the text. -/
  inside : after.index ≤ text.utf8ByteSize
  /-- It ends between two characters. -/
  boundary : String.Pos.Raw.IsValid text ⟨after.index⟩
  /-- No other place is blamed. -/
  unblamed : after.errorIndex = before.errorIndex

/-- What holds after a reading that failed, of the positions before and after it. -/
structure Position.Failed (text : String) (before after : Position) : Prop where
  /-- The position is where it was. -/
  restored : after.index = before.index
  /-- A place is blamed that is not before the position, nor beyond the text if that was valid. -/
  blamed : ∃ place, after.errorIndex = some place ∧ before.index ≤ place ∧
    (String.Pos.Raw.IsValid text ⟨before.index⟩ → place ≤ text.utf8ByteSize)

/-- What holds of the positions before and after a reading, by whether it succeeded. -/
def Position.Settled (text : String) (success : Bool) (before after : Position) : Prop :=
  if success then before.Reached text after else before.Failed text after

namespace Reader

/-- The position itself may be blamed, wherever it is. -/
theorem failed_atStart (text : String) (before : Position) :
    before.Failed text { before with errorIndex := some before.index } where
  -- A valid position is the end of a front of the text, so that it does not lie beyond the text.
  restored := rfl
  blamed := by
    refine ⟨before.index, rfl, Nat.le_refl _, fun valid => ?_⟩
    obtain ⟨front, rest, split, ends⟩ := Text.boundary_toList_iff.mpr valid
    rw [← Text.byteLength_toList, split, Text.byteLength_append, ends]
    omega

/-- A text that is read by byte positions is read alike, and no look goes outside it. -/
theorem checkedInto?_eq (reader : Reader) (text : String) (position : Position)
    (collected : Collected) :
    reader.checkedInto? text position collected =
      some (reader.readInto text position collected) := by
  rw [checkedInto?, readInto]
  -- A position inside a character or beyond the text is refused before any look at the text.
  cases begun : Text.from? text.toList position.index with
  | none =>
    have invalid : ¬Text.Boundary text.toList position.index := by
      rw [Text.boundary_iff, begun]
      exact nofun
    rw [if_pos invalid]
    rfl
  | some rest =>
    have valid : Text.Boundary text.toList position.index := Text.boundary_iff.mpr ⟨rest, begun⟩
    obtain ⟨front, split, ends⟩ := Text.from?_eq_some_iff.mp begun
    have steps := reader.checkedSteps?_append reader.steps front rest
    rw [← split, ends] at steps
    simp only [not_true, if_false, valid, steps, Option.bind_eq_bind, Option.bind_some]
    cases (reader.readSteps reader.steps rest).2 with
    | ok unread => rfl
    | error skipped => rfl

/-- An instant that is read by byte positions is read alike, and no look goes outside the text. -/
theorem checkedAt?_eq (reader : Reader) (text : String) (position : Position) :
    reader.checkedAt? text position = some (reader.readAt text position) := by
  rw [checkedAt?, readAt, checkedInto?_eq, Option.bind_eq_bind, Option.bind_some]
  -- The checked looks of the steps are settled, so both resolve what the same reading found.
  rcases reader.readInto text position .empty with ⟨success, after, collected⟩
  cases success with
  | false => rfl
  | true =>
    simp only
    cases collected.resolve? reader.zone reader.calendar with
    | none => rfl
    | some instant => rfl

/-- Steps that are read end further on in the text, or blame a place there. -/
theorem settled_readInto (reader : Reader) (text : String) (position : Position)
    (collected : Collected) :
    position.Settled text (reader.readInto text position collected).1
      (reader.readInto text position collected).2.1 := by
  rw [readInto]
  cases begun : Text.from? text.toList position.index with
  -- A position that is refused is blamed itself.
  | none => exact failed_atStart text position
  | some rest =>
    -- The steps are read from the rest of the text, whose end is that of the text.
    obtain ⟨front, split, ends⟩ := Text.from?_eq_some_iff.mp begun
    have within := reader.within_readSteps reader.steps rest
    have size : text.utf8ByteSize = position.index + Text.byteLength rest := by
      rw [← Text.byteLength_toList, split, Text.byteLength_append, ends]
    simp only
    cases ended : (reader.readSteps reader.steps rest).2 with
    | ok unread =>
      rw [ended] at within
      obtain ⟨taken, rfl⟩ := within
      have read : Text.byteLength (taken ++ unread) - Text.byteLength unread =
          Text.byteLength taken := by
        rw [Text.byteLength_append, Nat.add_sub_cancel]
      rw [Text.byteLength_append] at size
      simp only [read]
      exact {
        forward := Nat.le_add_right _ _
        inside := by
          simp only
          omega
        boundary := Text.boundary_toList_iff.mp
          ⟨front ++ taken, unread, by rw [split, List.append_assoc],
            by rw [Text.byteLength_append, ends]⟩
        unblamed := rfl }
    | error skipped =>
      rw [ended] at within
      exact {
        restored := rfl
        blamed := ⟨_, rfl, Nat.le_add_right _ _, fun _ => by omega⟩ }

/-- An instant that is read leaves a position further on, and a failure blames a place. -/
theorem settled_readAt (reader : Reader) (text : String) (position : Position) :
    position.Settled text (reader.readAt text position).1.isSome
      (reader.readAt text position).2 := by
  -- Resolving comes after reading, and moves the position only where it fails.
  have read := reader.settled_readInto text position .empty
  rw [readAt]
  rcases outcome : reader.readInto text position .empty with ⟨success, after, collected⟩
  rw [outcome] at read
  cases success with
  | false => exact read
  | true =>
    simp only
    -- Fields that do not resolve take the position back to where it was.
    cases collected.resolve? reader.zone reader.calendar with
    | none => exact failed_atStart text position
    | some instant => exact read

/-- Every reading looks only inside the text, and leaves a position that says how it went. -/
theorem position_contract (reader : Reader) (text : String) (position : Position)
    (collected : Collected) :
    (∃ success after found,
      reader.checkedInto? text position collected = some (success, after, found) ∧
      reader.readInto text position collected = (success, after, found) ∧
      position.Settled text success after) ∧
    ∃ instant after,
      reader.checkedAt? text position = some (instant, after) ∧
      reader.readAt text position = (instant, after) ∧
      position.Settled text instant.isSome after :=
  -- Each reading agrees with its checked form, and settles the position either way.
  ⟨⟨_, _, _, reader.checkedInto?_eq text position collected, rfl,
      reader.settled_readInto text position collected⟩,
    ⟨_, _, reader.checkedAt?_eq text position, rfl, reader.settled_readAt text position⟩⟩

end Reader

end DatePattern
