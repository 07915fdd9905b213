import DatePattern.Proofs.Zone.OffsetForm

/-! Custom zone names: the forms in which an offset may be spelled after GMT, and the open form that is taken besides. -/

namespace DatePattern.CustomZone

/-- The character of a digit. -/
def digit (d : Fin 10) : Char := Nat.digitChar d

/-- One or two digits of hours. -/
inductive Hours : (text : List Char) → (hours : Nat) → Prop
  /-- A single digit, such as 5. -/
  | one (d : Fin 10) : Hours [digit d] d
  /-- Two digits, such as 05. -/
  | two (tens ones : Fin 10) : Hours [digit tens, digit ones] (10 * tens + ones)

/-- Hours and minutes in one of the forms h, hh, hhmm, h:mm and hh:mm. -/
inductive Clock : (text : List Char) → (hours minutes : Nat) → Prop
  /-- Hours may stand alone. -/
  | whole {text : List Char} {hours : Nat} (spelled : Hours text hours) : Clock text hours 0
  /-- Four digits are two of hours and two of minutes. -/
  | plain (a b c d : Fin 10) :
      Clock [digit a, digit b, digit c, digit d] (10 * a + b) (10 * c + d)
  /-- A colon stands before two digits of minutes. -/
  | colon {text : List Char} {hours : Nat} (spelled : Hours text hours) (c d : Fin 10) :
      Clock (text ++ [':', digit c, digit d]) hours (10 * c + d)

/-- Hours with a colon after them but no minutes, which is none of the forms of a clock. -/
inductive OpenClock : (text : List Char) → (hours minutes : Nat) → Prop
  /-- The minutes are missing. -/
  | colon {text : List Char} {hours : Nat} (spelled : Hours text hours) :
      OpenClock (text ++ [':']) hours 0

/-- A clock as it is read, which may be open. -/
def AnyClock (text : List Char) (hours minutes : Nat) : Prop :=
  Clock text hours minutes ∨ OpenClock text hours minutes

/-- The names of an offset: GMT in any case, a sign, and hours and minutes of a day in some forms. -/
inductive Spells (forms : List Char → Nat → Nat → Prop) :
    (name : List Char) → (offset : Int) → Prop
  /-- A plus is ahead of Greenwich. -/
  | ahead {letters text : List Char} {hours minutes : Nat}
      (gmt : letters.map Text.lowerAscii = ['g', 'm', 't']) (spelled : forms text hours minutes)
      (day : hours ≤ 23 ∧ minutes ≤ 59) :
      Spells forms (letters ++ '+' :: text) ((hours * 60 + minutes : Nat) * 60000)
  /-- A minus is behind Greenwich. -/
  | behind {letters text : List Char} {hours minutes : Nat}
      (gmt : letters.map Text.lowerAscii = ['g', 'm', 't']) (spelled : forms text hours minutes)
      (day : hours ≤ 23 ∧ minutes ≤ 59) :
      Spells forms (letters ++ '-' :: text) (-((hours * 60 + minutes : Nat) * 60000))

/-- The character of a digit is an ASCII digit. -/
theorem isAsciiDigit_digit (d : Fin 10) : Text.isAsciiDigit (digit d) = true := by
  -- There are ten of them.
  revert d
  decide

/-- Every ASCII digit is the character of a digit. -/
theorem exists_digit {c : Char} (ascii : Text.isAsciiDigit c = true) : ∃ d, c = digit d := by
  simp only [Text.isAsciiDigit, Bool.and_eq_true, decide_eq_true_eq] at ascii
  have lower : 48 ≤ c.toNat := ascii.1
  have upper : c.toNat ≤ 57 := ascii.2
  -- The digits have the ten code points from that of 0 on.
  have each : ∀ d : Fin 10, digit d = Char.ofNat (48 + d) := by decide
  refine ⟨⟨c.toNat - 48, by omega⟩, ?_⟩
  rw [each, Nat.add_sub_cancel' lower, Char.ofNat_toNat]

/-- One digit denotes itself. -/
theorem value_one (d : Fin 10) : Digits.value [digit d] = d := by
  -- Each of the ten is looked at.
  revert d
  decide

/-- Of two digits, the first one counts tens. -/
theorem value_two (tens ones : Fin 10) :
    Digits.value [digit tens, digit ones] = 10 * tens + ones := by
  -- Each pair of the hundred is looked at.
  revert tens ones
  decide

/-- Two ASCII digits are the characters of two digits. -/
theorem exists_two {text : List Char} (two : text.length = 2)
    (ascii : ∀ c ∈ text, Text.isAsciiDigit c = true) :
    ∃ tens ones, text = [digit tens, digit ones] := by
  -- The text is opened up into its two characters.
  match text, two with
  | [c, c'], _ =>
    obtain ⟨tens, rfl⟩ := exists_digit (ascii c (by simp))
    obtain ⟨ones, rfl⟩ := exists_digit (ascii c' (by simp))
    exact ⟨tens, ones, rfl⟩

/-- Hours are spelled by one or two ASCII digits, which denote them. -/
theorem hours_iff {text : List Char} {hours : Nat} :
    Hours text hours ↔
      (text ≠ [] ∧ text.length ≤ 2) ∧ (∀ c ∈ text, Text.isAsciiDigit c = true) ∧
        Digits.value text = hours := by
  -- The two constructors are the two lengths that the condition allows.
  constructor
  · rintro (⟨d⟩ | ⟨tens, ones⟩)
    · exact ⟨by simp, by simp [isAsciiDigit_digit], value_one d⟩
    · exact ⟨by simp, by simp [isAsciiDigit_digit], value_two tens ones⟩
  · rintro ⟨⟨nonempty, short⟩, ascii, rfl⟩
    have positive := List.length_pos_iff.mpr nonempty
    -- The two spellings differ in length.
    by_cases single : text.length = 1
    · obtain ⟨c, rfl⟩ := List.length_eq_one_iff.mp single
      obtain ⟨d, rfl⟩ := exists_digit (ascii c (by simp))
      rw [value_one]
      exact .one d
    · obtain ⟨tens, ones, rfl⟩ := exists_two (by omega) ascii
      rw [value_two]
      exact .two tens ones

/-- Digits hold no colon. -/
theorem colon_not_mem {text : List Char} (ascii : ∀ c ∈ text, Text.isAsciiDigit c = true) :
    ':' ∉ text := by
  -- A colon among them would have to be a digit.
  intro listed
  exact absurd (ascii ':' listed) (by decide)

/-- Parts of a text that pass the checks of their shape are those of a clock, which may be open. -/
theorem clock_of_parted {text hours minutes : List Char}
    (written : ∀ c ∈ text, Text.isAsciiDigit c = true ∨ c = ':')
    (parted : hoursMinutes? text = some (hours, minutes)) (shaped : hours ≠ [] ∧ hours.length ≤ 2)
    (apart : ':' ∉ minutes) (complete : minutes = [] ∨ minutes.length = 2) :
    AnyClock text (Digits.value hours) (Digits.value minutes) := by
  -- A part of the text consists of digits once it is known to hold no colon.
  have ascii : ∀ part : List Char, (∀ c ∈ part, c ∈ text) → ':' ∉ part →
      ∀ c ∈ part, Text.isAsciiDigit c = true := by
    intro part inside absent c listed
    exact (written c (inside c listed)).resolve_right fun same => absent (same ▸ listed)
  rcases hoursMinutes?_eq_some_iff.mp parted with ⟨rfl, absent⟩ | ⟨rfl, absent, places⟩
  · have digits := ascii hours (fun c listed => List.mem_append_left _ listed) absent
    have spelled : Hours hours (Digits.value hours) := hours_iff.mpr ⟨shaped, digits, rfl⟩
    -- The minutes behind a colon may be missing, as those of whole hours are.
    rcases complete with rfl | two
    · exact .inr (.colon spelled)
    · obtain ⟨c, d, rfl⟩ := exists_two two
        (ascii minutes (fun c listed => by simp [listed]) apart)
      rw [value_two]
      exact .inl (.colon spelled c d)
  · have digits := ascii (hours ++ minutes) (fun c listed => listed) absent
    have digitsOfHours := fun c listed => digits c (List.mem_append_left minutes listed)
    rcases places with ⟨-, rfl⟩ | ⟨two, two'⟩
    · rw [List.append_nil]
      exact .inl (.whole (hours_iff.mpr ⟨shaped, digitsOfHours, rfl⟩))
    · obtain ⟨a, b, rfl⟩ := exists_two two digitsOfHours
      obtain ⟨c, d, rfl⟩ := exists_two two' fun c listed =>
        digits c (List.mem_append_right _ listed)
      rw [value_two, value_two]
      exact .inl (.plain a b c d)

/-- Hours and minutes are parted as a clock spells them. -/
theorem parted_of_clock {text : List Char} {hours minutes : Nat}
    (spelled : AnyClock text hours minutes) :
    ∃ front back, hoursMinutes? text = some (front, back) ∧ Hours front hours ∧
      (∀ c ∈ back, Text.isAsciiDigit c = true) ∧ (back = [] ∨ back.length = 2) ∧
      Digits.value back = minutes ∧ (text = front ++ back ∨ text = front ++ ':' :: back) := by
  have ascii : ∀ c d : Fin 10, ∀ e ∈ [digit c, digit d], Text.isAsciiDigit e = true := by
    simp [isAsciiDigit_digit]
  -- Without a colon, minutes are the last two of four digits; an open clock has none.
  rcases spelled with spelled | spelled
  · cases spelled with
    | whole spelled =>
      obtain ⟨shaped, digits, -⟩ := hours_iff.mp spelled
      refine ⟨text, [], ?_, spelled, by simp, .inl rfl, rfl, .inl (List.append_nil _).symm⟩
      exact hoursMinutes?_eq_some_iff.mpr
        (.inr ⟨(List.append_nil _).symm, colon_not_mem digits, .inl ⟨shaped.2, rfl⟩⟩)
    | plain a b c d =>
      refine ⟨[digit a, digit b], [digit c, digit d], ?_, .two a b, ascii c d, .inr rfl,
        value_two c d, .inl rfl⟩
      exact hoursMinutes?_eq_some_iff.mpr
        (.inr ⟨rfl, colon_not_mem (by simp [isAsciiDigit_digit]), .inr ⟨rfl, rfl⟩⟩)
    | @colon front _ spelled c d =>
      exact ⟨front, [digit c, digit d], hoursMinutes?_colon
        (colon_not_mem (hours_iff.mp spelled).2.1) _, spelled, ascii c d, .inr rfl, value_two c d,
        .inr rfl⟩
  · obtain ⟨spelled⟩ := spelled
    exact ⟨_, [], hoursMinutes?_colon (colon_not_mem (hours_iff.mp spelled).2.1) [], spelled,
      by simp, .inl rfl, rfl, .inr rfl⟩

/-- A text has milliseconds precisely if it spells hours and minutes of a day, which they make up. -/
theorem magnitude?_eq_some_iff_clock {text : List Char} {total : Int} :
    magnitude? text = some total ↔
      ∃ hours minutes, AnyClock text hours minutes ∧ (hours ≤ 23 ∧ minutes ≤ 59) ∧
        ((hours * 60 + minutes : Nat) * 60000 : Int) = total := by
  -- The shape checks of the reading are those that clocks pass, so each direction carries them
  -- over.
  rw [magnitude?_eq_some_iff]
  constructor
  · rintro ⟨⟨-, written⟩, front, back, parted, ⟨nonempty, short, apart⟩, complete, day, rfl⟩
    have characters : ∀ c ∈ text, Text.isAsciiDigit c = true ∨ c = ':' := by
      simpa using written
    refine ⟨_, _, clock_of_parted characters parted ⟨nonempty, short⟩ (by simpa using apart)
      complete, day, ?_⟩
    omega
  · rintro ⟨hours, minutes, spelled, day, rfl⟩
    obtain ⟨front, back, parted, inFront, digits, complete, rfl, whole⟩ := parted_of_clock spelled
    obtain ⟨⟨nonempty, short⟩, digits', rfl⟩ := hours_iff.mp inFront
    -- Both parts are digits, so a colon between them is the only other character.
    have written : text ≠ [] ∧ ∀ c ∈ text, Text.isAsciiDigit c = true ∨ c = ':' := by
      rcases whole with rfl | rfl
      · refine ⟨by simp [nonempty], fun c listed => .inl ?_⟩
        exact (List.mem_append.mp listed).elim (digits' c) (digits c)
      · refine ⟨by simp, fun c listed => ?_⟩
        rcases List.mem_append.mp listed with first | second
        · exact .inl (digits' c first)
        · exact (List.mem_cons.mp second).symm.imp_left (digits c)
    refine ⟨⟨written.1, by simpa using written.2⟩, front, back, parted,
      ⟨nonempty, short, by simpa using colon_not_mem digits⟩, complete, day, ?_⟩
    omega

/-- A spelling of GMT has three letters. -/
theorem exists_three {letters : List Char} (gmt : letters.map Text.lowerAscii = ['g', 'm', 't']) :
    ∃ g m t, letters = [g, m, t] := by
  -- Lowering keeps the length of the list.
  obtain ⟨g, _, rfl, -, gmt⟩ := List.map_eq_cons_iff.mp gmt
  obtain ⟨m, _, rfl, -, gmt⟩ := List.map_eq_cons_iff.mp gmt
  obtain ⟨t, _, rfl, -, gmt⟩ := List.map_eq_cons_iff.mp gmt
  rw [List.map_eq_nil_iff.mp gmt]
  exact ⟨g, m, t, rfl⟩

/-- A custom name is read as the offset that it spells, also with an open clock. -/
theorem offset?_eq_some_iff_spells {name : List Char} {offset : Int} :
    offset? name = some offset ↔ Spells AnyClock name offset := by
  constructor
  · intro read
    -- The name is opened up to its sign; a shorter one is not read.
    match name with
    | g :: m :: t :: sign :: rest =>
      rw [offset?] at read
      split at read
      case isTrue => cases read
      case isFalse gmt =>
        have letters := Decidable.not_not.mp gmt
        split at read
        case isTrue plus =>
          obtain ⟨hours, minutes, spelled, day, rfl⟩ := magnitude?_eq_some_iff_clock.mp read
          exact plus ▸ .ahead letters spelled day
        case isFalse =>
          split at read
          case isFalse => cases read
          case isTrue minus =>
            obtain ⟨total, given, rfl⟩ := Option.map_eq_some_iff.mp read
            obtain ⟨hours, minutes, spelled, day, rfl⟩ := magnitude?_eq_some_iff_clock.mp given
            exact minus ▸ .behind letters spelled day
    | [] | [_] | [_, _] | [_, _, _] => cases read
  -- The three letters and the sign settle every branch but the one for the clock.
  · rintro (⟨gmt, spelled, day⟩ | ⟨gmt, spelled, day⟩)
    · obtain ⟨g, m, t, rfl⟩ := exists_three gmt
      have given := magnitude?_eq_some_iff_clock.mpr ⟨_, _, spelled, day, rfl⟩
      simp only [List.cons_append, List.nil_append]
      rw [offset?, if_neg (not_not_intro gmt), if_pos rfl, given]
    · obtain ⟨g, m, t, rfl⟩ := exists_three gmt
      have given := magnitude?_eq_some_iff_clock.mpr ⟨_, _, spelled, day, rfl⟩
      simp only [List.cons_append, List.nil_append]
      rw [offset?, if_neg (not_not_intro gmt), if_neg (by decide), if_pos rfl, given,
        Option.map_some]

/-- A name with a clock in one of some forms has it in any forms that include these. -/
theorem Spells.mono {forms wider : List Char → Nat → Nat → Prop} {name : List Char} {offset : Int}
    (included : ∀ text hours minutes, forms text hours minutes → wider text hours minutes)
    (spells : Spells forms name offset) : Spells wider name offset := by
  -- Only the clock is exchanged, on either side of Greenwich.
  cases spells with
  | ahead gmt spelled day => exact .ahead gmt (included _ _ _ spelled) day
  | behind gmt spelled day => exact .behind gmt (included _ _ _ spelled) day

/-- A name with a clock that may be open has a clock of a form, or an open one. -/
theorem spells_any_iff {name : List Char} {offset : Int} :
    Spells AnyClock name offset ↔ Spells Clock name offset ∨ Spells OpenClock name offset := by
  constructor
  · -- The clock is open or not on either side of Greenwich.
    rintro (⟨gmt, spelled | spelled, day⟩ | ⟨gmt, spelled | spelled, day⟩)
    · exact .inl (.ahead gmt spelled day)
    · exact .inr (.ahead gmt spelled day)
    · exact .inl (.behind gmt spelled day)
    · exact .inr (.behind gmt spelled day)
  · rintro (spells | spellsOpen)
    · exact spells.mono fun _ _ _ => Or.inl
    · exact spellsOpen.mono fun _ _ _ => Or.inr

/-- A name ends with its clock. -/
theorem Spells.exists_append {forms : List Char → Nat → Nat → Prop} {name : List Char}
    {offset : Int} (spells : Spells forms name offset) :
    ∃ front text hours minutes, name = front ++ text ∧ forms text hours minutes := by
  -- The front is the letters and the sign.
  cases spells with
  | @ahead letters text hours minutes _ spelled _ =>
    exact ⟨letters ++ ['+'], text, hours, minutes, by simp, spelled⟩
  | @behind letters text hours minutes _ spelled _ =>
    exact ⟨letters ++ ['-'], text, hours, minutes, by simp, spelled⟩

/-- A clock ends with a digit. -/
theorem Clock.exists_append {text : List Char} {hours minutes : Nat}
    (spelled : Clock text hours minutes) : ∃ front d, text = front ++ [digit d] := by
  -- The last character of every form is a digit of the hours or of the minutes.
  cases spelled with
  | whole spelled =>
    cases spelled with
    | one d => exact ⟨[], d, rfl⟩
    | two tens ones => exact ⟨[digit tens], ones, rfl⟩
  | plain a b c d => exact ⟨[digit a, digit b, digit c], d, rfl⟩
  | @colon front _ _ c d => exact ⟨front ++ [':', digit c], d, by simp⟩

/-- No name has both a clock of a form and an open one. -/
theorem not_spells_open {name : List Char} {offset other : Int} (spells : Spells Clock name offset) :
    ¬Spells OpenClock name other := by
  intro spellsOpen
  obtain ⟨front, text, hours, minutes, rfl, spelled⟩ := spells.exists_append
  obtain ⟨middle, d, rfl⟩ := spelled.exists_append
  obtain ⟨front', text', hours', minutes', same, spelled'⟩ := spellsOpen.exists_append
  obtain ⟨spelled'⟩ := spelled'
  -- The last character is a digit in one case, and a colon in the other.
  have last := congrArg List.getLast? same
  simp only [← List.append_assoc, List.getLast?_concat, Option.some.injEq] at last
  have noColon : ∀ d, digit d ≠ ':' := by decide
  exact noColon d last

/--
A custom name is read as what it spells in one of the forms h, hh, hhmm, h:mm and hh:mm, or with an open clock.

The five forms alone are those of the names that are no open ones, such as GMT+5: with its colon.
-/
theorem offset?_eq_some_iff (name : List Char) :
    (∀ offset, offset? name = some offset ↔
      Spells Clock name offset ∨ Spells OpenClock name offset) ∧
    ((∀ offset, offset? name = some offset ↔ Spells Clock name offset) ↔
      ∀ offset, ¬Spells OpenClock name offset) := by
  -- Reading accepts all clocks, and a name has no more than one kind of them.
  have read : ∀ offset, offset? name = some offset ↔
      Spells Clock name offset ∨ Spells OpenClock name offset :=
    fun offset => offset?_eq_some_iff_spells.trans spells_any_iff
  refine ⟨read, fun plain offset spellsOpen => ?_, fun closed offset => ?_⟩
  · have spells := (plain offset).mp ((read offset).mpr (.inr spellsOpen))
    exact not_spells_open spells spellsOpen
  · rw [read, or_iff_left (closed offset)]

/-- A colon may follow the hours of a name without any minutes, which is none of the five forms. -/
theorem offset?_eq_some_iff_openColon :
    offset? ['G', 'M', 'T', '+', '5', ':'] = some 18000000 ∧
      ¬∀ offset, offset? ['G', 'M', 'T', '+', '5', ':'] = some offset ↔
        Spells Clock ['G', 'M', 'T', '+', '5', ':'] offset := by
  -- The open clock is spelled out, and the general statement rules out any other.
  have gmt : ['G', 'M', 'T'].map Text.lowerAscii = ['g', 'm', 't'] := by decide
  have clock : OpenClock ['5', ':'] 5 0 := .colon (.one 5)
  have spellsOpen : Spells OpenClock ['G', 'M', 'T', '+', '5', ':'] 18000000 :=
    .ahead gmt clock (by decide)
  obtain ⟨read, plain⟩ := offset?_eq_some_iff ['G', 'M', 'T', '+', '5', ':']
  exact ⟨(read 18000000).mpr (.inr spellsOpen), fun all => plain.mp all 18000000 spellsOpen⟩

end DatePattern.CustomZone
