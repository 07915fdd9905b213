import DatePattern.Proofs.Text.CharClasses
import DatePattern.Proofs.Text.Taken
import DatePattern.Proofs.Zone.OffsetForm

/-! Spelled offsets: which zone a sign, hours and minutes are looked up as, also where they name none. -/

namespace DatePattern

/-- A sign, hours and minutes as a text may spell them, in decimal digits of any script. -/
structure SpelledOffset where
  /-- The sign. -/
  sign : Char
  /-- The digits of the hours. -/
  hours : List Char
  /-- Whether a colon stands between hours and minutes. -/
  colon : Bool
  /-- The digits of the minutes. -/
  minutes : List Char
  /-- The sign is a plus or a minus. -/
  signed : sign = '+' ∨ sign = '-'
  /-- There are only decimal digits. -/
  digits : ∀ c ∈ hours ++ minutes, Text.isDecimalDigit c = true
  /-- The hours have two digits, or one before a colon. -/
  hoursWidth : hours.length = 2 ∨ hours.length = 1 ∧ colon = true
  /-- The minutes have two digits, or are left out with the colon. -/
  minutesWidth : minutes.length = 2 ∨ minutes = [] ∧ colon = false

namespace SpelledOffset

variable (spelled : SpelledOffset)

/-- What follows the sign. -/
def body : List Char :=
  spelled.hours ++ ((if spelled.colon then [':'] else []) ++ spelled.minutes)

/-- The whole text. -/
def text : List Char := spelled.sign :: spelled.body

/-- The digits are ASCII digits of at most 23 hours and at most 59 minutes. -/
def Admissible : Prop :=
  (∀ c ∈ spelled.hours ++ spelled.minutes, Text.isAsciiDigit c = true) ∧
    Digits.value spelled.hours ≤ 23 ∧ Digits.value spelled.minutes ≤ 59

instance : Decidable spelled.Admissible :=
  decidable_of_iff
    ((spelled.hours ++ spelled.minutes).all Text.isAsciiDigit = true ∧
      Digits.value spelled.hours ≤ 23 ∧ Digits.value spelled.minutes ≤ 59)
    (and_congr_left' List.all_eq_true)

/-- The milliseconds that the digits denote without the sign. -/
def magnitude : Int :=
  Digits.value spelled.hours * 3600000 + Digits.value spelled.minutes * 60000

/-- The offset that the sign and the digits denote, in milliseconds. -/
def offset : Int := if spelled.sign = '-' then -spelled.magnitude else spelled.magnitude

/-- The region of a table that is named by the text after GMT, which is Greenwich where there is none. -/
def region (regions : List Region) : Region :=
  (Region.named? regions (String.ofList (['G', 'M', 'T'] ++ spelled.text))).getD Region.greenwich

/-- The zone that the text is read as, which is a region where it denotes no admissible offset. -/
def zone (regions : List Region) : Zone :=
  if spelled.Admissible then .fixed spelled.offset else .region (spelled.region regions)

/-- What holds of a plus and of a minus holds of the sign. -/
@[elab_as_elim]
theorem sign_cases {motive : Char → Prop} (plus : motive '+') (minus : motive '-') :
    motive spelled.sign := by
  -- There are only these two.
  rcases spelled.signed with same | same
  · rw [same]
    exact plus
  · rw [same]
    exact minus

/-- Hours and minutes are parted as they are spelled. -/
theorem hoursMinutes?_body :
    CustomZone.hoursMinutes? spelled.body = some (spelled.hours, spelled.minutes) := by
  have noColon : ':' ∉ spelled.hours ++ spelled.minutes := fun listed =>
    Text.ne_colon_of_decimalDigit (spelled.digits _ listed) rfl
  rw [CustomZone.hoursMinutes?_eq_some_iff, body]
  -- A colon parts the digits where it stands, and without one their places do.
  cases parted : spelled.colon with
  | true => exact .inl ⟨by simp, fun listed => noColon (List.mem_append_left _ listed)⟩
  | false =>
    -- Without a colon there are two digits of hours, and then two of minutes or none.
    have hours : spelled.hours.length = 2 := by simpa [parted] using spelled.hoursWidth
    refine .inr ⟨by simp, by simpa using noColon, ?_⟩
    rcases spelled.minutesWidth with two | ⟨none, -⟩
    · exact .inr ⟨hours, two⟩
    · exact .inl ⟨Nat.le_of_eq hours, none⟩

/-- A character that follows the sign is a digit or a colon. -/
theorem mem_body {c : Char} :
    c ∈ spelled.body ↔ c ∈ spelled.hours ++ spelled.minutes ∨ spelled.colon = true ∧ c = ':' := by
  -- Without a colon only the digits are left.
  rw [body]
  cases spelled.colon <;> simp [or_left_comm, or_comm]

/-- What follows the sign is written in ASCII precisely if the digits are. -/
theorem all_body : (spelled.body.all fun c => Text.isAsciiDigit c || c == ':') = true ↔
    ∀ c ∈ spelled.hours ++ spelled.minutes, Text.isAsciiDigit c = true := by
  -- A colon is no digit, and so the digits have to pass the test by themselves.
  simp only [List.all_eq_true, mem_body, Bool.or_eq_true, beq_iff_eq]
  constructor
  · intro written c listed
    exact (written c (.inl listed)).resolve_right
      (Text.ne_colon_of_decimalDigit (spelled.digits c listed))
  · rintro ascii c (listed | ⟨-, colon⟩)
    · exact .inl (ascii c listed)
    · exact .inr colon

/-- The milliseconds of what follows the sign, if its digits are admissible. -/
theorem magnitude?_body : CustomZone.magnitude? spelled.body =
    if spelled.Admissible then some spelled.magnitude else none := by
  have parted := spelled.hoursMinutes?_body
  have hours : spelled.hours ≠ [] ∧ spelled.hours.length ≤ 2 := by
    rcases spelled.hoursWidth with two | ⟨one, -⟩
    · exact ⟨List.ne_nil_of_length_pos (by omega), by omega⟩
    · exact ⟨List.ne_nil_of_length_pos (by omega), by omega⟩
  have nonempty : spelled.body ≠ [] := by
    rw [body]
    simp [hours.1]
  have apart : ¬spelled.minutes.contains ':' = true := by
    rw [List.contains_eq_mem, decide_eq_true_eq]
    intro listed
    exact Text.ne_colon_of_decimalDigit (spelled.digits _ (List.mem_append_right _ listed)) rfl
  have complete : spelled.minutes = [] ∨ spelled.minutes.length = 2 :=
    spelled.minutesWidth.symm.imp_left And.left
  have written := spelled.all_body
  -- The shape of the text is right in any case, so that only the digits decide.
  by_cases admissible : spelled.Admissible
  · rw [if_pos admissible]
    exact CustomZone.magnitude?_eq ⟨nonempty, written.mpr admissible.1⟩ parted
      ⟨hours.1, hours.2, apart⟩ complete admissible.2
  · rw [if_neg admissible, Option.eq_none_iff_forall_ne_some]
    intro total given
    obtain ⟨⟨-, ascii⟩, _, _, parted', -, -, small, -⟩ :=
      CustomZone.magnitude?_eq_some_iff.mp given
    rw [parted] at parted'
    cases parted'
    exact admissible ⟨written.mp ascii, small⟩

/-- What follows the sign ends with a digit. -/
theorem body_eq_concat : ∃ front last, spelled.body = front ++ [last] ∧
    Text.isDecimalDigit last = true := by
  have ends : ∀ {digits : List Char}, digits ≠ [] → (∀ c ∈ digits, Text.isDecimalDigit c = true) →
      ∃ front last, digits = front ++ [last] ∧ Text.isDecimalDigit last = true := by
    intro digits nonempty decimal
    exact ⟨_, _, (List.dropLast_concat_getLast nonempty).symm, decimal _ (List.getLast_mem nonempty)⟩
  rw [body]
  -- The last digit is one of the minutes, or of the hours where there are no minutes.
  rcases spelled.minutesWidth with two | ⟨none, plain⟩
  · obtain ⟨front, last, same, digit⟩ := ends (List.ne_nil_of_length_pos (by omega))
      fun c listed => spelled.digits c (List.mem_append_right _ listed)
    rw [same, ← List.append_assoc, ← List.append_assoc]
    exact ⟨_, last, rfl, digit⟩
  · have hours : spelled.hours ≠ [] := by
      rcases spelled.hoursWidth with two | ⟨one, -⟩ <;> exact List.ne_nil_of_length_pos (by omega)
    obtain ⟨front, last, same, digit⟩ := ends hours
      fun c listed => spelled.digits c (List.mem_append_left _ listed)
    refine ⟨front, last, ?_, digit⟩
    simp [none, plain, same]

/-- After GMT the text names the offset that it denotes if that is admissible, and otherwise a region or nothing. -/
theorem ofId?_text (regions : List Region) :
    Zone.ofId? regions (String.ofList (['G', 'M', 'T'] ++ spelled.text)) =
      if spelled.Admissible then some (.fixed spelled.offset)
      else (Region.named? regions (String.ofList (['G', 'M', 'T'] ++ spelled.text))).map
        .region := by
  -- There are no blanks to be trimmed at the ends of the identifier.
  have kept : Text.trim ('G' :: 'M' :: 'T' :: spelled.text) = 'G' :: 'M' :: 'T' :: spelled.text := by
    obtain ⟨front, last, split, digit⟩ := spelled.body_eq_concat
    have whole : 'G' :: 'M' :: 'T' :: spelled.text =
        'G' :: (('M' :: 'T' :: spelled.sign :: front) ++ [last]) := by
      rw [text, split]
      rfl
    rw [whole]
    exact Text.trim_eq_self (by decide) (Text.isBlank_of_decimalDigit digit)
  have custom : CustomZone.offset? ('G' :: 'M' :: 'T' :: spelled.text) =
      if spelled.Admissible then some spelled.offset else none := by
    rw [text, CustomZone.offset?, if_neg (by decide), magnitude?_body, offset]
    rcases spelled.signed with plus | minus
    · have differ : '+' ≠ '-' := by decide
      rw [plus, if_pos rfl, if_neg differ]
    · have differ : '-' ≠ '+' := by decide
      rw [minus, if_neg differ, if_pos rfl, if_pos rfl]
      split <;> rfl
  rw [Zone.ofId?, String.toList_ofList]
  simp only [List.cons_append, List.nil_append, kept, custom]
  rw [if_neg (by simp)]
  by_cases admissible : spelled.Admissible
  · simp only [if_pos admissible]
  · simp only [if_neg admissible]

/-- After GMT the text is read as its zone. -/
theorem ofId_text (regions : List Region) :
    Zone.ofId regions (String.ofList (['G', 'M', 'T'] ++ spelled.text)) =
      spelled.zone regions := by
  rw [Zone.ofId, ofId?_text, zone, region]
  -- An offset that is not admissible may be the name of a region, and else it is Greenwich.
  split
  · rfl
  · cases Region.named? regions (String.ofList (['G', 'M', 'T'] ++ spelled.text)) <;> rfl

end SpelledOffset

end DatePattern
