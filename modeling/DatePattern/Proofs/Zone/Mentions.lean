import DatePattern.Proofs.Zone.Spelled

/-! Zones in texts: the numeric ones are those that are spelled in the right places, whatever they denote. -/

namespace DatePattern

namespace OffsetForm

/-- Whether a form has a colon. -/
def hasColon : OffsetForm → Bool
  | .hoursColonMinutes => true
  | .hours | .hoursMinutes => false

/-- How many digits a form has for the minutes. -/
def minuteDigits : OffsetForm → Nat
  | .hours => 0
  | .hoursMinutes | .hoursColonMinutes => 2

end OffsetForm

namespace SpelledOffset

variable (spelled : SpelledOffset)

/-- A text that has the parts of a form. -/
structure Fits (form : OffsetForm) : Prop where
  /-- The hours have two digits. -/
  hours : spelled.hours.length = 2
  /-- There is a colon if the form has one. -/
  colon : spelled.colon = form.hasColon
  /-- There are the digits of the minutes that the form has. -/
  minutes : spelled.minutes.length = form.minuteDigits

/-- The places of a sign, hours of a width, a colon or none, and minutes of a width. -/
def slots (hours : Nat) (colon : Bool) (minutes : Nat) : List Slot :=
  .sign :: (List.replicate hours .digit ++
    ((if colon then [.mark ':'] else []) ++ List.replicate minutes .digit))

/-- The text has the places of its parts. -/
theorem filled_text : Slot.Filled
    (slots spelled.hours.length spelled.colon spelled.minutes.length) spelled.text := by
  -- The parts stand one after the other, as their places do, and each part fills its own.
  have signed : Slot.sign.accepts spelled.sign = true := spelled.sign_cases rfl rfl
  have hours := fun c listed => spelled.digits c (List.mem_append_left _ listed)
  have minutes := fun c listed => spelled.digits c (List.mem_append_right _ listed)
  refine .cons signed (List.rel_append (Slot.filled_digits.mpr ⟨rfl, hours⟩)
    (List.rel_append ?_ (Slot.filled_digits.mpr ⟨rfl, minutes⟩)))
  cases spelled.colon with
  | true => exact .cons (by decide) .nil
  | false => exact .nil

/-- What has places of these widths is spelled in parts of these widths. -/
theorem exists_of_filled {hours minutes : Nat} {colon : Bool}
    (hoursWidth : hours = 2 ∨ hours = 1 ∧ colon = true)
    (minutesWidth : minutes = 2 ∨ minutes = 0 ∧ colon = false) {taken : List Char}
    (filled : Slot.Filled (slots hours colon minutes) taken) :
    ∃ spelled : SpelledOffset, taken = spelled.text ∧ spelled.hours.length = hours ∧
      spelled.colon = colon ∧ spelled.minutes.length = minutes := by
  -- The places are filled in their order: the sign, the hours, the colon and the minutes.
  cases filled with
  | @cons _ sign _ _ signed filled =>
    obtain ⟨front, _, rfl, hoursFilled, filled⟩ := Slot.filled_append.mp filled
    obtain ⟨mark, back, rfl, marked, minutesFilled⟩ := Slot.filled_append.mp filled
    obtain ⟨rfl, hoursDigits⟩ := Slot.filled_digits.mp hoursFilled
    obtain ⟨rfl, minutesDigits⟩ := Slot.filled_digits.mp minutesFilled
    have isMark : mark = if colon then [':'] else [] := by
      cases colon with
      | true =>
        obtain _ | ⟨same, ⟨⟩⟩ := marked
        rw [← beq_iff_eq.mp same]
        rfl
      | false =>
        cases marked
        rfl
    refine ⟨⟨sign, front, colon, back, by simpa [Slot.accepts] using signed, ?_, hoursWidth, ?_⟩,
      by rw [isMark]; rfl, rfl, rfl, rfl⟩
    · exact fun c listed => (List.mem_append.mp listed).elim (hoursDigits c) (minutesDigits c)
    · exact minutesWidth.imp_right (And.imp_left List.length_eq_zero_iff.mp)

/-- What has the shape of a form is what is spelled as an offset that fits the form. -/
theorem filled_shape_iff {form : OffsetForm} {taken : List Char} :
    Slot.Filled form.shape taken ↔
      ∃ spelled : SpelledOffset, spelled.Fits form ∧ taken = spelled.text := by
  -- All forms have two digits for the hours, and only one has no minutes.
  have shape : form.shape = slots 2 form.hasColon form.minuteDigits := by cases form <;> rfl
  have widths : form.minuteDigits = 2 ∨ form.minuteDigits = 0 ∧ form.hasColon = false := by
    cases form <;> simp [OffsetForm.minuteDigits, OffsetForm.hasColon]
  rw [shape]
  constructor
  · intro filled
    obtain ⟨spelled, rfl, hours, colon, minutes⟩ := exists_of_filled (.inl rfl) widths filled
    exact ⟨spelled, ⟨hours, colon, minutes⟩, rfl⟩
  · rintro ⟨spelled, fits, rfl⟩
    rw [← fits.hours, ← fits.colon, ← fits.minutes]
    exact spelled.filled_text

end SpelledOffset

/-- What a form takes is a Z or an offset that fits the form. -/
theorem OffsetForm.takeZulu?_eq_some_iff {form : OffsetForm} {text taken rest : List Char} :
    form.takeZulu? text = some (taken, rest) ↔ text = taken ++ rest ∧
      (taken = ['Z'] ∨ ∃ spelled : SpelledOffset, spelled.Fits form ∧ taken = spelled.text) := by
  -- The shape of Z has one place, which only that letter fills.
  have zulu : ∀ {taken}, Slot.Filled [.mark 'Z'] taken ↔ taken = ['Z'] := by
    intro taken
    constructor
    · intro filled
      obtain _ | ⟨same, ⟨⟩⟩ := filled
      rw [← beq_iff_eq.mp same]
    · rintro rfl
      exact .cons (by decide) .nil
  rw [takeZulu?, Option.or_eq_some_iff]
  simp only [takeShape?_eq_some_iff, zulu, SpelledOffset.filled_shape_iff]
  constructor
  · rintro (⟨split, rfl⟩ | ⟨-, split, spelled⟩)
    · exact ⟨split, .inl rfl⟩
    · exact ⟨split, .inr spelled⟩
  · rintro ⟨split, rfl | ⟨spelled, fits, rfl⟩⟩
    · exact .inl ⟨split, rfl⟩
    · -- A sign is not the letter Z.
      refine .inr ⟨?_, split, spelled, fits, rfl⟩
      have notZulu : ¬(Slot.mark 'Z').accepts spelled.sign = true :=
        spelled.sign_cases (by decide) (by decide)
      rw [split, SpelledOffset.text, List.cons_append, takeShape?, if_neg notZulu]

namespace ZoneMatcher

/-- The letters of GMT are those that are folded like them. -/
theorem filled_greenwich {letters : List Char} :
    Slot.Filled [.letter 'G', .letter 'M', .letter 'T'] letters ↔
      letters.map Text.lowerAscii = ['g', 'm', 't'] := by
  have folded : ∀ letter ∈ ['G', 'M', 'T'], ∀ c, (Slot.letter letter).accepts c = true ↔
      Text.lowerAscii c = Text.lowerAscii letter := by
    intro letter among c
    rw [← Text.foldCase_eq_iff among]
    exact beq_iff_eq
  have g := folded 'G' (by decide)
  have m := folded 'M' (by decide)
  have t := folded 'T' (by decide)
  -- Three slots are filled by three characters, each by the one in its place.
  constructor
  · intro filled
    obtain _ | ⟨first, _ | ⟨second, _ | ⟨third, ⟨⟩⟩⟩⟩ := filled
    simp only [List.map_cons, List.map_nil, (g _).mp first, (m _).mp second, (t _).mp third]
    rfl
  · intro spelled
    obtain ⟨first, second, third, rfl⟩ :=
      List.length_eq_three.mp (by simpa using congrArg List.length spelled)
    simp only [List.map_cons, List.map_nil, List.cons.injEq, and_true] at spelled
    obtain ⟨isG, isM, isT⟩ := spelled
    exact .cons ((g _).mpr isG) (.cons ((m _).mpr isM) (.cons ((t _).mpr isT) .nil))

/-- A number is hours and minutes in a row, or GMT in any case and an offset with a colon. -/
inductive Numeric : (taken : List Char) → (spelled : SpelledOffset) → Prop
  /-- The offset stands by itself. -/
  | plain {spelled : SpelledOffset} (fits : spelled.Fits .hoursMinutes) :
      Numeric spelled.text spelled
  /-- The offset stands after GMT. -/
  | greenwich {letters : List Char} {spelled : SpelledOffset}
      (gmt : letters.map Text.lowerAscii = ['g', 'm', 't']) (colon : spelled.colon = true) :
      Numeric (letters ++ spelled.text) spelled

/-- What has the shape of an offset after GMT is what is spelled so, with as many digits of hours. -/
theorem filled_greenwichShape_iff {hours : Nat} (few : hours = 2 ∨ hours = 1) {taken : List Char} :
    Slot.Filled (greenwichShape (List.replicate hours .digit)) taken ↔
      ∃ letters, ∃ spelled : SpelledOffset, letters.map Text.lowerAscii = ['g', 'm', 't'] ∧
        spelled.colon = true ∧ spelled.hours.length = hours ∧ taken = letters ++ spelled.text := by
  have shape : greenwichShape (List.replicate hours .digit) =
      [.letter 'G', .letter 'M', .letter 'T'] ++ SpelledOffset.slots hours true 2 := by
    simp [greenwichShape, SpelledOffset.slots]
  -- The letters of GMT stand in front of the places of an offset with a colon.
  rw [shape, Slot.filled_append]
  simp only [filled_greenwich]
  constructor
  · rintro ⟨letters, back, rfl, gmt, filled⟩
    obtain ⟨spelled, rfl, width, colon, -⟩ := SpelledOffset.exists_of_filled
      (few.imp_right fun one => ⟨one, rfl⟩) (.inl rfl) filled
    exact ⟨letters, spelled, gmt, colon, width, rfl⟩
  · rintro ⟨letters, spelled, gmt, colon, rfl, rfl⟩
    have minutes : spelled.minutes.length = 2 := by simpa [colon] using spelled.minutesWidth
    refine ⟨letters, _, rfl, gmt, ?_⟩
    rw [← minutes, ← colon]
    exact spelled.filled_text

/-- No sign is a letter of GMT. -/
theorem lowerAscii_sign {sign : Char} (signed : sign = '+' ∨ sign = '-') :
    Text.lowerAscii sign ≠ 'g' := by
  -- There are only two signs.
  rcases signed with rfl | rfl <;> decide

/-- An offset after GMT does not begin like an offset by itself. -/
theorem takeShape?_after_greenwich {letters : List Char}
    (gmt : letters.map Text.lowerAscii = ['g', 'm', 't']) (rest : List Char) :
    takeShape? OffsetForm.hoursMinutes.shape (letters ++ rest) = none := by
  -- Whatever it took would be an offset that begins the text.
  refine Option.eq_none_iff_forall_ne_some.mpr ?_
  rintro ⟨taken, later⟩ found
  obtain ⟨split, filled⟩ := takeShape?_eq_some_iff.mp found
  obtain ⟨spelled, -, rfl⟩ := SpelledOffset.filled_shape_iff.mp filled
  -- The one begins with a letter, the other with a sign.
  cases letters with
  | nil => cases gmt
  | cons first letters =>
    obtain ⟨rfl, -⟩ := List.cons.inj split
    exact lowerAscii_sign spelled.signed (List.cons.inj gmt).1

/-- A single digit of hours before a colon is not taken as two. -/
theorem takeShape?_single_hour {letters : List Char} {spelled : SpelledOffset}
    (gmt : letters.map Text.lowerAscii = ['g', 'm', 't']) (colon : spelled.colon = true)
    (one : spelled.hours.length = 1) (rest : List Char) :
    takeShape? (greenwichShape [.digit, .digit]) (letters ++ spelled.text ++ rest) = none := by
  -- Otherwise the text would have two digits of hours after the same letters.
  refine Option.eq_none_iff_forall_ne_some.mpr ?_
  rintro ⟨taken, later⟩ found
  obtain ⟨split, filled⟩ := takeShape?_eq_some_iff.mp found
  obtain ⟨letters', other, gmt', -, two, rfl⟩ := (filled_greenwichShape_iff (.inl rfl)).mp filled
  have same : letters.length = letters'.length := by
    rw [← List.length_map (f := Text.lowerAscii), gmt, ← gmt', List.length_map]
  rw [List.append_assoc, List.append_assoc] at split
  obtain ⟨-, split⟩ := List.append_inj split same
  obtain ⟨-, split⟩ := List.cons.inj split
  -- The second digit would have to be the colon.
  obtain ⟨a, hours⟩ := List.length_eq_one_iff.mp one
  obtain ⟨b, c, hours'⟩ := List.length_eq_two.mp two
  rw [SpelledOffset.body, SpelledOffset.body, hours, hours', colon] at split
  obtain ⟨-, split⟩ := List.cons.inj split
  obtain ⟨mark, -⟩ := List.cons.inj split
  exact Text.ne_colon_of_decimalDigit (other.digits c (by simp [hours'])) mark.symm

/-- What is taken as a number is one, and a number is taken up to its end. -/
theorem takeNumeric?_eq_some_iff {text taken rest : List Char} :
    takeNumeric? text = some (taken, rest) ↔
      text = taken ++ rest ∧ ∃ spelled, Numeric taken spelled := by
  have two : Slot.Filled (greenwichShape [.digit, .digit]) taken ↔ _ :=
    filled_greenwichShape_iff (.inl rfl)
  have one : Slot.Filled (greenwichShape [.digit]) taken ↔ _ := filled_greenwichShape_iff (.inr rfl)
  -- The three shapes are tried in turn, and a text has no more than one of them.
  rw [takeNumeric?, Option.or_eq_some_iff, Option.or_eq_some_iff]
  constructor
  · rintro ((found | ⟨-, found⟩) | ⟨-, found⟩) <;>
      obtain ⟨split, filled⟩ := takeShape?_eq_some_iff.mp found
    · obtain ⟨spelled, fits, rfl⟩ := SpelledOffset.filled_shape_iff.mp filled
      exact ⟨split, spelled, .plain fits⟩
    · obtain ⟨letters, spelled, gmt, colon, -, rfl⟩ := two.mp filled
      exact ⟨split, spelled, .greenwich gmt colon⟩
    · obtain ⟨letters, spelled, gmt, colon, -, rfl⟩ := one.mp filled
      exact ⟨split, spelled, .greenwich gmt colon⟩
  · rintro ⟨rfl, spelled, fits | ⟨gmt, colon⟩⟩
    · exact .inl (.inl (takeShape?_eq_some_iff.mpr
        ⟨rfl, SpelledOffset.filled_shape_iff.mpr ⟨spelled, fits, rfl⟩⟩))
    · have noOffset := takeShape?_after_greenwich gmt (spelled.text ++ rest)
      rw [← List.append_assoc] at noOffset
      rcases spelled.hoursWidth with width | ⟨width, -⟩
      · exact .inl (.inr ⟨noOffset, takeShape?_eq_some_iff.mpr
          ⟨rfl, two.mpr ⟨_, spelled, gmt, colon, width, rfl⟩⟩⟩)
      · refine .inr ⟨?_, takeShape?_eq_some_iff.mpr
          ⟨rfl, one.mpr ⟨_, spelled, gmt, colon, width, rfl⟩⟩⟩
        rw [noOffset, takeShape?_single_hour gmt colon width, Option.or_none]

/-- An offset is the same in capitals. -/
theorem map_upperAscii_text (spelled : SpelledOffset) :
    spelled.text.map Text.upperAscii = spelled.text := by
  -- Signs, digits and the colon have no case.
  refine (List.map_congr_left fun c listed => ?_).trans (List.map_id spelled.text)
  rcases List.mem_cons.mp listed with rfl | later
  · exact spelled.sign_cases rfl rfl
  · rcases spelled.mem_body.mp later with digit | ⟨-, rfl⟩
    · exact Text.upperAscii_of_decimalDigit (spelled.digits c digit)
    · decide

/-- GMT in any case is GMT in capitals. -/
theorem map_upperAscii_gmt {letters : List Char}
    (gmt : letters.map Text.lowerAscii = ['g', 'm', 't']) :
    letters.map Text.upperAscii = ['G', 'M', 'T'] := by
  -- The case that the letters had before is lost in capitals.
  have twice : (letters.map Text.lowerAscii).map Text.upperAscii = letters.map Text.upperAscii := by
    rw [List.map_map]
    exact List.map_congr_left fun c _ => Text.upperAscii_lowerAscii c
  rw [← twice, gmt]
  rfl

/-- A number means the zone that it is spelled as, whatever names there are. -/
theorem mention?_numeric (matcher : ZoneMatcher) {taken : List Char} {spelled : SpelledOffset}
    (numeric : Numeric taken spelled) :
    matcher.mention? taken = some (.offset (spelled.zone matcher.regions)) := by
  -- An offset by itself begins with its sign, and the other one with the letters of GMT.
  cases numeric with
  | plain fits =>
    have named := spelled.ofId_text matcher.regions
    rw [SpelledOffset.text] at named ⊢
    rw [mention?, if_pos spelled.signed, named]
  | @greenwich letters _ gmt colon =>
    -- The identifier is the whole text in capitals, where the offset stays as it is.
    have named := spelled.ofId_text matcher.regions
    rw [← map_upperAscii_gmt gmt, ← map_upperAscii_text spelled, ← List.map_append] at named
    have begins : startsGreenwich (letters ++ spelled.text) = true := by
      have three : letters.length = 3 := by simpa using congrArg List.length gmt
      rw [startsGreenwich, ← three, List.take_left, gmt]
      rfl
    cases letters with
    | nil => cases gmt
    | cons first letters =>
      have unsigned : ¬(first = '+' ∨ first = '-') :=
        fun signed => lowerAscii_sign signed (List.cons.inj gmt).1
      rw [List.cons_append] at begins named ⊢
      rw [mention?, if_neg unsigned, if_pos begins, named]

end ZoneMatcher

end DatePattern
