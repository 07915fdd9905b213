import DatePattern.Names.TextMatcher
import DatePattern.Names.ZoneMatcher
import Mathlib.Data.List.Forall2

/-! Taken texts: what a shape or a name takes is the front of the text, and the rest follows it. -/

namespace DatePattern

/-- A name takes the front of a text that equals it up to case. -/
theorem Text.takeFolded?_eq_some_iff {name text taken rest : List Char} :
    takeFolded? name text = some (taken, rest) ↔
      text = taken ++ rest ∧ name.map foldCase = taken.map foldCase := by
  -- Name and text give up one character each at a time.
  induction name generalizing text taken rest with
  | nil =>
    simp only [takeFolded?, Option.some.injEq, Prod.mk.injEq, List.map_nil]
    constructor
    · rintro ⟨rfl, rfl⟩
      exact ⟨rfl, rfl⟩
    · rintro ⟨rfl, same⟩
      rw [List.map_eq_nil_iff.mp same.symm]
      exact ⟨rfl, rfl⟩
  | cons n name ih =>
    cases text with
    | nil =>
      -- A name with characters left takes nothing from an empty text.
      refine iff_of_false nofun ?_
      rintro ⟨none, same⟩
      rw [(List.append_eq_nil_iff.mp none.symm).1] at same
      cases same
    | cons c text =>
      simp only [takeFolded?, Option.ite_none_right_eq_some, Option.map_eq_some_iff, Prod.exists,
        ih, Prod.mk.injEq, List.map_cons]
      constructor
      · rintro ⟨first, taken, rest, ⟨rfl, later⟩, rfl, rfl⟩
        exact ⟨rfl, by rw [List.map_cons, first, later]⟩
      · rintro ⟨split, same⟩
        cases taken with
        | nil => cases same
        | cons other taken =>
          cases split
          obtain ⟨first, later⟩ := List.cons.inj same
          exact ⟨first, taken, rest, ⟨rfl, later⟩, rfl, rfl⟩

/-- A text has a shape if each of its characters may stand in its place. -/
abbrev Slot.Filled : (shape : List Slot) → (text : List Char) → Prop :=
  List.Forall₂ fun slot c => slot.accepts c = true

/-- A shape takes the front of a text that has it. -/
theorem takeShape?_eq_some_iff {shape : List Slot} {text taken rest : List Char} :
    takeShape? shape text = some (taken, rest) ↔ text = taken ++ rest ∧ Slot.Filled shape taken := by
  -- Shape and text give up one place and one character at a time.
  induction shape generalizing text taken rest with
  | nil =>
    simp only [takeShape?, Option.some.injEq, Prod.mk.injEq, List.forall₂_nil_left_iff]
    constructor
    · rintro ⟨rfl, rfl⟩
      exact ⟨rfl, rfl⟩
    · rintro ⟨rfl, rfl⟩
      exact ⟨rfl, rfl⟩
  | cons slot shape ih =>
    cases text with
    | nil =>
      -- A shape with places left takes nothing from an empty text.
      refine iff_of_false nofun ?_
      rintro ⟨none, filled⟩
      rw [(List.append_eq_nil_iff.mp none.symm).1] at filled
      cases filled
    | cons c text =>
      simp only [takeShape?, Option.ite_none_right_eq_some, Option.map_eq_some_iff, Prod.exists,
        ih, Prod.mk.injEq]
      constructor
      · rintro ⟨first, taken, rest, ⟨rfl, later⟩, rfl, rfl⟩
        exact ⟨rfl, .cons first later⟩
      · rintro ⟨split, filled⟩
        cases filled with
        | cons first later =>
          cases split
          exact ⟨first, _, rest, ⟨rfl, later⟩, rfl, rfl⟩

namespace Slot

/-- Digits are as many as their places. -/
theorem filled_digits {count : Nat} {text : List Char} :
    Filled (List.replicate count .digit) text ↔
      text.length = count ∧ ∀ c ∈ text, Text.isDecimalDigit c = true := by
  -- Places and digits are counted down together.
  induction count generalizing text with
  | zero =>
    simp only [List.replicate_zero, List.forall₂_nil_left_iff, List.length_eq_zero_iff]
    exact ⟨fun none => ⟨none, by simp [none]⟩, And.left⟩
  | succ count ih =>
    cases text with
    | nil => simp [List.replicate_succ]
    | cons c text =>
      rw [List.forall_mem_cons, List.length_cons, Nat.succ_inj, and_left_comm]
      exact List.forall₂_cons.trans (and_congr Iff.rfl ih)

/-- A text has two shapes in a row if its front has the one and the rest of it has the other. -/
theorem filled_append {left right : List Slot} {text : List Char} :
    Filled (left ++ right) text ↔
      ∃ front back, text = front ++ back ∧ Filled left front ∧ Filled right back := by
  constructor
  · intro filled
    -- By induction on the first shape, each slot of which takes one character.
    induction left generalizing text with
    | nil => exact ⟨[], text, rfl, .nil, filled⟩
    | cons slot left ih =>
      cases filled with
      | cons first later =>
        obtain ⟨front, back, rfl, here, there⟩ := ih later
        exact ⟨_ :: front, back, rfl, .cons first here, there⟩
  · rintro ⟨front, back, rfl, here, there⟩
    exact List.rel_append here there

end Slot

namespace Lexicon

variable {α : Type} {lexicon : Lexicon α} {text taken rest : List Char}

/-- A lexicon takes the front of a text that is one of its names in some case. -/
theorem take?_eq_some (found : lexicon.take? text = some (taken, rest)) :
    text = taken ++ rest ∧
      ∃ entry ∈ lexicon.entries, entry.1.map Text.foldCase = taken.map Text.foldCase := by
  -- The entries are tried in order, and the first that takes a front decides.
  obtain ⟨entry, listed, spelled⟩ := List.exists_of_findSome?_eq_some found
  obtain ⟨split, same⟩ := Text.takeFolded?_eq_some_iff.mp spelled
  exact ⟨split, entry, listed, same⟩

/-- A lexicon takes nothing from a text whose first character begins none of its names. -/
theorem take?_eq_none {c : Char} (apart : ∀ entry ∈ lexicon.entries,
    (entry.1.head?.any fun first => Text.foldCase first != Text.foldCase c) = true) :
    lexicon.take? (c :: text) = none := by
  -- Every entry is tried, and each one fails at its first character.
  refine List.findSome?_eq_none_iff.mpr fun entry listed => ?_
  obtain ⟨first, head, differ⟩ := (Option.any_eq_true _ _).mp (apart entry listed)
  obtain ⟨name, begins⟩ := List.head?_eq_some_iff.mp head
  show Text.takeFolded? entry.1 (c :: text) = none
  rw [begins, Text.takeFolded?, if_neg (by simpa using differ)]

end Lexicon

section Split

variable {text taken rest : List Char}

/-- A matched name is the front of the text. -/
theorem TextMatcher.split_of_match? {matcher : TextMatcher} {value : Int}
    (matched : matcher.match? text = some (value, taken, rest)) : text = taken ++ rest := by
  -- What is matched is what the lexicon of the names takes.
  simp only [match?, Option.bind_eq_bind, Option.bind_eq_some_iff, pure, Option.some.injEq,
    Prod.mk.injEq] at matched
  obtain ⟨⟨taken, rest⟩, found, value, -, rfl, rfl, rfl⟩ := matched
  exact (Lexicon.take?_eq_some found).1

/-- A number is the front of the text. -/
theorem ZoneMatcher.split_of_takeNumeric? (found : takeNumeric? text = some (taken, rest)) :
    text = taken ++ rest := by
  -- A number has one of three shapes, each of which takes a front.
  simp only [takeNumeric?, Option.or_eq_some_iff] at found
  rcases found with (found | ⟨-, found⟩) | ⟨-, found⟩ <;>
    exact (takeShape?_eq_some_iff.mp found).1

/-- A matched zone is the front of the text. -/
theorem ZoneMatcher.split_of_match? {matcher : ZoneMatcher} {mention : ZoneMention}
    (matched : matcher.match? text = some (mention, taken, rest)) : text = taken ++ rest := by
  -- Numbers are tried first, and names after them.
  simp only [match?, Option.bind_eq_bind, Option.bind_eq_some_iff, pure, Option.some.injEq,
    Prod.mk.injEq] at matched
  obtain ⟨⟨taken, rest⟩, found, mention, -, rfl, rfl, rfl⟩ := matched
  rcases Option.or_eq_some_iff.mp found with number | ⟨-, name⟩
  · exact split_of_takeNumeric? number
  · exact (Lexicon.take?_eq_some name).1

/-- A name that is matched has its value as its meaning. -/
theorem TextMatcher.meaning_of_match? {matcher : TextMatcher} {value : Int}
    (matched : matcher.match? text = some (value, taken, rest)) :
    matcher.names.meaning? taken = some value := by
  -- The name that is taken is looked up, and a match without a meaning is none.
  simp only [match?, Option.bind_eq_bind, Option.bind_eq_some_iff, pure, Option.some.injEq,
    Prod.mk.injEq] at matched
  obtain ⟨⟨name, after⟩, -, meant, known, rfl, rfl, -⟩ := matched
  exact known

/-- A zone that is matched by its name is the meaning of the name. -/
theorem ZoneMatcher.meaning_of_match? {matcher : ZoneMatcher} {named : NamedZone}
    (matched : matcher.match? text = some (.named named, taken, rest)) :
    matcher.names.meaning? taken = some named := by
  -- The text that is taken decides whether it is an offset or a name.
  simp only [match?, Option.bind_eq_bind, Option.bind_eq_some_iff, pure, Option.some.injEq,
    Prod.mk.injEq] at matched
  obtain ⟨⟨name, after⟩, -, mention, known, rfl, rfl, -⟩ := matched
  -- What begins with a sign or with GMT is taken as an offset.
  cases name with
  | nil => cases known
  | cons c name =>
    simp only [mention?] at known
    split at known
    · cases known
    · split at known
      · cases known
      · obtain ⟨meant, found, same⟩ := Option.map_eq_some_iff.mp known
        cases same
        exact found

/-- A Z or an offset is the front of the text. -/
theorem OffsetForm.split_of_takeZulu? {form : OffsetForm}
    (found : form.takeZulu? text = some (taken, rest)) : text = taken ++ rest := by
  -- The letter Z is a shape as well, and is tried first.
  rcases Option.or_eq_some_iff.mp found with found | ⟨-, found⟩ <;>
    exact (takeShape?_eq_some_iff.mp found).1

end Split

end DatePattern
