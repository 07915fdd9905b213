import DatePattern.Proofs.Reading.Legible

/-! What the tokens of a text tell together: each field that is written, and the offset. -/

namespace DatePattern

namespace CalendarFields

/-- The fields with the nanoseconds cut off after some places. -/
def cutOff (fields : CalendarFields) (places : Nat) : CalendarFields :=
  { fields with nanoOfSecond := (Instant.leadingNanos fields.nanoOfSecond.toNat places : Nat) }

/-- Only the nanoseconds are cut off. -/
theorem get_cutOff (fields : CalendarFields) (places : Nat) {field : Field}
    (kept : field ≠ .nanoOfSecond) : (fields.cutOff places).get field = fields.get field := by
  cases field <;> first | rfl | exact absurd rfl kept

end CalendarFields

namespace Token

/-- Whether some token writes a field. -/
def writes (field : Field) (tokens : List Token) : Bool := tokens.any (·.field? == some field)

/-- A field that a token among some writes as a number is written by them. -/
theorem writes_of_numberField? {token : Token} {tokens : List Token} {field : Field}
    (listed : token ∈ tokens) (written : token.numberField? = some field) :
    writes field tokens = true := by
  -- The token itself is one that writes the field.
  rw [writes, List.any_eq_true]
  exact ⟨token, listed, by rw [field?, written, Option.some_or, beq_self_eq_true]⟩

/-- Whether some token writes the offset. -/
def writesOffset (tokens : List Token) : Bool := tokens.any (·.offsetForm?.isSome)

/-- A token that writes the offset writes no field. -/
theorem field?_of_offsetForm? {token : Token} {form : OffsetForm}
    (written : token.offsetForm? = some form) : token.field? = none := by
  -- There are five ways to write the offset, and none of them is among those of fields.
  cases token with
  | literal text => rfl
  | letters letter width =>
    have listed := mem_of_lookup written
    simp only [offsetForms, List.mem_cons, Prod.mk.injEq, List.not_mem_nil, or_false] at listed
    rcases listed with ⟨⟨rfl, rfl⟩, -⟩ | ⟨⟨rfl, rfl⟩, -⟩ | ⟨⟨rfl, rfl⟩, -⟩ | ⟨⟨rfl, rfl⟩, -⟩ |
      ⟨⟨rfl, rfl⟩, -⟩ <;> rfl

/-- No token writes the standard offset as a field. -/
theorem writes_zoneOffset (tokens : List Token) : writes .zoneOffset tokens = false := by
  -- No letter has the standard offset as its field.
  simp only [writes, List.any_eq_false, beq_iff_eq]
  intro token _ written
  exact (field?_ne_offset written).1 rfl

end Token

namespace Collected

variable {fields : CalendarFields} {tokens : List Token} {founds : List (List Finding)}

/-- One token sets its field to what was written, and no other field but the week year. -/
theorem value?_add_of_tells {token : Token} {found : List Finding}
    (tells : token.Tells fields found) {places : Nat}
    (width : ∀ width, token = .letters 'n' width → width = places) {field : Field}
    (kept : field ≠ .weekYear) (start : Collected) :
    (start.addAll found).value? field =
      if token.field? = some field then some ((fields.cutOff places).get field)
      else start.value? field := by
  -- What is found in one token is one value or one zone at most.
  cases tells with
  | literal text => rfl
  | @field _ own written exact =>
    rw [written]
    -- The field of the token is the one that is asked for, or another one that is set.
    by_cases same : field = own
    · subst same
      rw [if_pos rfl, fields.get_cutOff places exact.2]
      exact value?_set_self _ _ _
    · rw [if_neg (fun equal => same (Option.some.inj equal).symm)]
      exact value?_set_of_ne _ _ same
  | weekYear written year =>
    rw [written, if_neg (fun equal => kept (Option.some.inj equal).symm)]
    exact value?_set_of_ne _ _ kept
  | fraction size =>
    have written : (Token.letters 'n' size).field? = some .nanoOfSecond := rfl
    rw [written]
    by_cases same : field = .nanoOfSecond
    · subst same
      rw [if_pos rfl, ← width size rfl]
      exact value?_set_self _ _ _
    · rw [if_neg (fun equal => same (Option.some.inj equal).symm)]
      exact value?_set_of_ne _ _ same
  | offset written exact =>
    rw [Token.field?_of_offsetForm? written, if_neg nofun]
    rfl

/-- Every field that some token writes is known by what was written, and others are as before. -/
theorem value?_addAll (tell : List.Forall₂ (Token.Tells fields) tokens founds) {places : Nat}
    (width : ∀ width, .letters 'n' width ∈ tokens → width = places) {field : Field}
    (kept : field ≠ .weekYear) (start : Collected) :
    (start.addAll founds.flatten).value? field =
      if Token.writes field tokens then some ((fields.cutOff places).get field)
      else start.value? field := by
  -- A token that writes the field again writes the same value.
  induction tell generalizing start with
  | nil => rfl
  | @cons token found tokens founds tells others ih =>
    have first := value?_add_of_tells tells
      (fun size same => width size (same ▸ List.mem_cons_self)) kept start
    have later := ih (fun other listed => width other (List.mem_cons_of_mem _ listed))
      (start.addAll found)
    have split : start.addAll (found :: founds).flatten =
        (start.addAll found).addAll founds.flatten := by
      rw [List.flatten_cons, addAll, List.foldl_append]
      rfl
    have any : Token.writes field (token :: tokens) =
        (token.field? == some field || Token.writes field tokens) := List.any_cons
    rw [split, later, first, any]
    by_cases again : Token.writes field tokens = true
    · rw [again, Bool.or_true, if_pos rfl, if_pos rfl]
    · rw [Bool.not_eq_true] at again
      simp only [again, Bool.or_false, beq_iff_eq, Bool.false_eq_true, if_false]

/-- A zone that has the offset of some fields at all times. -/
def HasOffset (fields : CalendarFields) (zone : Zone) : Prop :=
  zone = .utc ∧ fields.zoneOffset + fields.dstOffset = 0 ∨
    zone = .fixed (fields.zoneOffset + fields.dstOffset)

/-- One token sets the zone if it writes the offset, and otherwise leaves it. -/
theorem zone?_add_of_tells {token : Token} {found : List Finding}
    (tells : token.Tells fields found) (start : Collected) :
    token.offsetForm? = none ∧ (start.addAll found).zone? = start.zone? ∨
      token.offsetForm?.isSome = true ∧
        ∃ zone, (start.addAll found).zone? = some zone ∧ HasOffset fields zone := by
  -- A token that writes a field does not write the offset as well.
  have unwritten : ∀ {field : Field}, token.field? = some field → token.offsetForm? = none := by
    intro field written
    cases form : token.offsetForm? with
    | none => rfl
    | some other =>
      rw [Token.field?_of_offsetForm? form] at written
      cases written
  -- Only an offset finds a zone, so that the other tokens leave it.
  cases tells with
  | literal text => exact .inl ⟨rfl, rfl⟩
  | field written exact => exact .inl ⟨unwritten written, rfl⟩
  | weekYear written year => exact .inl ⟨unwritten written, rfl⟩
  | fraction size =>
    exact .inl ⟨unwritten (show (Token.letters _ size).field? = some .nanoOfSecond from rfl), rfl⟩
  | offset written exact => exact .inr ⟨by rw [written]; rfl, _, rfl, exact⟩

/-- The zone is one of the offset that some token writes, or is as before where none does. -/
theorem zone?_addAll (tell : List.Forall₂ (Token.Tells fields) tokens founds)
    (start : Collected) :
    Token.writesOffset tokens = false ∧ (start.addAll founds.flatten).zone? = start.zone? ∨
      Token.writesOffset tokens = true ∧
        ∃ zone, (start.addAll founds.flatten).zone? = some zone ∧ HasOffset fields zone := by
  -- Findings are taken in one token after the other, so that a later zone replaces an earlier one.
  induction tell generalizing start with
  | nil => exact .inl ⟨rfl, rfl⟩
  | @cons token found tokens founds tells others ih =>
    have split : start.addAll (found :: founds).flatten =
        (start.addAll found).addAll founds.flatten := by
      rw [List.flatten_cons, addAll, List.foldl_append]
      rfl
    have any : Token.writesOffset (token :: tokens) =
        (token.offsetForm?.isSome || Token.writesOffset tokens) := List.any_cons
    rw [split, any]
    -- The last token that writes the offset counts.
    rcases ih (start.addAll found) with ⟨noLater, kept⟩ | ⟨later, zone, known, exact⟩
    · rw [noLater, kept, Bool.or_false]
      rcases zone?_add_of_tells tells start with ⟨notHere, kept⟩ | ⟨here, known⟩
      · exact .inl ⟨by rw [notHere]; rfl, kept⟩
      · exact .inr ⟨here, known⟩
    · exact .inr ⟨by rw [later, Bool.or_true], zone, known, exact⟩

end Collected

end DatePattern
