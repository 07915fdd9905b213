import DatePattern.Proofs.Calendar.Ranges
import DatePattern.Proofs.Compile
import DatePattern.Proofs.Reading.Numeral

/-! Reading one token: a piece of text that was written for an instant tells its field again. -/

namespace DatePattern

/-- The first places of the nanoseconds of a second, with zeros in the other places. -/
def Instant.leadingNanos (nano places : Nat) : Nat :=
  nano / Digits.power (9 - places) * Digits.power (9 - places)

namespace Token

/-- The letters whose fields are written as they are, and are taken as they are read. -/
def plainFields : List (Char × Field) :=
  [('w', .weekOfYear), ('W', .weekOfMonth), ('d', .dayOfMonth), ('D', .dayOfYear),
    ('F', .dayOfWeekInMonth), ('K', .hour), ('H', .hourOfDay), ('m', .minute), ('s', .second),
    ('S', .millisecond)]

/-- The letters whose fields are written by other numbers, or not always in full. -/
def shiftedFields : List (Char × Field) :=
  [('y', .year), ('Y', .weekYear), ('u', .dayOfWeek), ('h', .hour), ('k', .hourOfDay),
    ('n', .nanoOfSecond)]

/-- The letters that stand for names at any width, and the fields that they write. -/
def nameFields : List (Char × Field) := [('G', .era), ('E', .dayOfWeek), ('a', .amPm)]

/-- The letters that stand for offsets at their widths, in the forms that can be read again. -/
def offsetForms : List ((Char × Nat) × OffsetForm) :=
  [(('X', 1), .hours), (('X', 2), .hoursMinutes), (('X', 3), .hoursColonMinutes),
    (('Z', 1), .hoursMinutes), (('Z', 2), .hoursColonMinutes)]

/-- The field that a token writes as a number. -/
def numberField? : Token → Option Field
  | .literal _ => none
  | .letters letter width =>
    if letter = 'M' then if 3 ≤ width then none else some .month
    else (plainFields ++ shiftedFields).lookup letter

/-- The field that a token writes by its name. -/
def nameField? : Token → Option Field
  | .literal _ => none
  | .letters letter width =>
    if letter = 'M' then if 3 ≤ width then some .month else none
    else nameFields.lookup letter

/-- The field that a token writes, by a number or by a name. -/
def field? (token : Token) : Option Field := token.numberField?.or token.nameField?

/-- The form in which a token writes the offset. -/
def offsetForm? : Token → Option OffsetForm
  | .literal _ => none
  | .letters letter width => offsetForms.lookup (letter, width)

/-- Whether what a token writes can be read again, as its years are written in full. -/
def isReversible : Token → Bool
  | .literal _ => true
  | .letters letter width =>
    ((letters letter width).field?.isSome || (letters letter width).offsetForm?.isSome) &&
      (letter != 'y' || 3 ≤ width)

/-- What reading a token may find, where its text was written for some fields. -/
inductive Tells (fields : CalendarFields) : Token → List Finding → Prop
  /-- Literal text says nothing. -/
  | literal (text : List Char) : Tells fields (.literal text) []
  /-- A field has the value that was written. -/
  | field {token : Token} {field : Field} (writes : token.field? = some field)
      (exact : field ≠ .weekYear ∧ field ≠ .nanoOfSecond) :
      Tells fields token [.value field (fields.get field)]
  /-- The week year may have lost its century. -/
  | weekYear {token : Token} (writes : token.field? = some .weekYear) (year : Int) :
      Tells fields token [.value .weekYear year]
  /-- The nanoseconds have the places that were written. -/
  | fraction (width : Nat) : Tells fields (.letters 'n' width)
      [.value .nanoOfSecond (Instant.leadingNanos fields.nanoOfSecond.toNat width : Nat)]
  /-- A zone has the offset that was written. -/
  | offset {token : Token} {form : OffsetForm} {zone : Zone}
      (writes : token.offsetForm? = some form)
      (exact : zone = .utc ∧ fields.zoneOffset + fields.dstOffset = 0 ∨
        zone = .fixed (fields.zoneOffset + fields.dstOffset)) :
      Tells fields token [.zone zone]

end Token

/-- A value that a table has for a key is listed with it. -/
theorem mem_of_lookup {α β : Type} [BEq α] [LawfulBEq α] {table : List (α × β)} {key : α}
    {value : β} (found : table.lookup key = some value) : (key, value) ∈ table := by
  -- The entry that is found parts the table in two.
  obtain ⟨before, after, split, -⟩ := List.lookup_eq_some_iff.mp found
  rw [split]
  simp

namespace Token

/-- A token that writes a number is a narrow month, or its letter is listed with the field. -/
theorem numberField?_cases {letter : Char} {width : Nat} {field : Field}
    (writes : (letters letter width).numberField? = some field) :
    letter = 'M' ∧ ¬3 ≤ width ∧ field = .month ∨ (letter, field) ∈ plainFields ++ shiftedFields := by
  simp only [numberField?] at writes
  -- A month is looked at by its width, and other letters are looked up.
  by_cases month : letter = 'M'
  · by_cases wide : 3 ≤ width
    · rw [if_pos month, if_pos wide] at writes
      cases writes
    · rw [if_pos month, if_neg wide] at writes
      exact .inl ⟨month, wide, (Option.some.inj writes).symm⟩
  · rw [if_neg month] at writes
    exact .inr (mem_of_lookup writes)

/-- A token that writes a name is a wide month, or its letter is listed with the field. -/
theorem nameField?_cases {letter : Char} {width : Nat} {field : Field}
    (writes : (letters letter width).nameField? = some field) :
    letter = 'M' ∧ 3 ≤ width ∧ field = .month ∨ (letter, field) ∈ nameFields := by
  -- As for numbers, months are told by their width, and other letters are looked up.
  simp only [nameField?] at writes
  by_cases month : letter = 'M'
  · by_cases wide : 3 ≤ width
    · rw [if_pos month, if_pos wide] at writes
      exact .inl ⟨month, wide, (Option.some.inj writes).symm⟩
    · rw [if_pos month, if_neg wide] at writes
      cases writes
  · rw [if_neg month] at writes
    exact .inr (mem_of_lookup writes)

/-- No token writes an offset as a field. -/
theorem field?_ne_offset {token : Token} {field : Field} (writes : token.field? = some field) :
    field ≠ .zoneOffset ∧ field ≠ .dstOffset := by
  cases token with
  | literal text => cases writes
  | letters letter width =>
    have numbers : ∀ entry ∈ plainFields ++ shiftedFields,
        entry.2 ≠ .zoneOffset ∧ entry.2 ≠ .dstOffset := by decide
    have names : ∀ entry ∈ nameFields, entry.2 ≠ .zoneOffset ∧ entry.2 ≠ .dstOffset := by decide
    -- A number or a name is that of the month, or listed in one of the tables.
    rcases Option.or_eq_some_iff.mp writes with number | ⟨-, name⟩
    · rcases numberField?_cases number with ⟨-, -, rfl⟩ | listed
      · decide
      · exact numbers _ listed
    · rcases nameField?_cases name with ⟨-, -, rfl⟩ | listed
      · decide
      · exact names _ listed

end Token

/-- The rule that a step was made with, and its width. -/
theorem ReadStep.MadeFor.rule {source : LocaleData} {locale : Locale} {letter : Char}
    {width : Nat} {step : ReadStep} (made : MadeFor source locale (.letters letter width) step) :
    step.width = width ∧ step.maxWidth = 0 ∧ ∃ before after, before.Faithful ∧
      before.localeData = source ∧ ReadRule.ofLetter locale letter width before =
        .ok step.rule after := by
  -- The rule of the letter comes first, and the step puts the width beside it.
  obtain ⟨before, after, faithful, same, made⟩ := made
  obtain ⟨rule, middle, ruled, wrapped⟩ := bind_eq_ok.mp made
  obtain ⟨rfl, rfl⟩ := pure_eq_ok.mp wrapped
  exact ⟨rfl, rfl, before, _, faithful, same, ruled⟩

/-- The usual rules take the value of their field. -/
theorem NumberRule.valueIn_select (fields : CalendarFields) (field : Field) (width : Nat) :
    (select field width).valueIn fields = fields.get field := by
  -- At every width the rule is one that takes the field as it is.
  unfold select
  split <;> rfl

/-- The rules of years take the year. -/
theorem NumberRule.valueIn_year (fields : CalendarFields) (width : Nat) :
    (WriteRule.yearRule width).valueIn fields = fields.year := by
  -- The rules of two digits and of more take the same year.
  unfold WriteRule.yearRule
  split
  · rfl
  · exact valueIn_select fields .year _

namespace Reader

variable {reader : Reader} {zone : Zone} {source : LocaleData} {locale : Locale} {letter : Char}
  {width : Nat} {rule : WriteRule} {step : ReadStep} {fields : CalendarFields}

/-- A plain field is written by its own number, which is small. -/
theorem plain_token {field : Field} (listed : (letter, field) ∈ Token.plainFields)
    (made : WriteRule.MadeFor zone locale (source.symbols locale) (.letters letter width) rule)
    (readable : ReadStep.MadeFor source locale (.letters letter width) step)
    (ranges : fields.InRange) :
    rule = .number (.select field width) ∧ step.rule = .number field .none ∧
      0 ≤ fields.get field ∧ fields.get field < 1000 := by
  obtain ⟨before, after, made⟩ := made
  obtain ⟨-, -, start, finish, -, -, readable⟩ := readable.rule
  obtain ⟨month, weekOfYear, weekOfMonth, dayOfMonth, dayOfYear, dayOfWeek, dayOfWeekInMonth, amPm,
    hour, hourOfDay, minute, second, millisecond⟩ := ranges
  generalize step.rule = readRule at readable ⊢
  simp only [Token.plainFields, List.mem_cons, Prod.mk.injEq, List.not_mem_nil, or_false] at listed
  -- Both sides have one rule for each of the letters.
  rcases listed with ⟨rfl, rfl⟩ | ⟨rfl, rfl⟩ | ⟨rfl, rfl⟩ | ⟨rfl, rfl⟩ | ⟨rfl, rfl⟩ | ⟨rfl, rfl⟩ |
    ⟨rfl, rfl⟩ | ⟨rfl, rfl⟩ | ⟨rfl, rfl⟩ | ⟨rfl, rfl⟩
  all_goals
    cases made
    cases readable
    refine ⟨rfl, rfl, ?_⟩
    simp only [CalendarFields.get]
    omega

/-- A numeral that was written for a field, from whose number a step makes the value again. -/
structure Written (reader : Reader) (fields : CalendarFields) (field : Field) (modifier : Modifier)
    (piece : List Char) (n : Nat) (value : Int) : Prop where
  /-- The piece of text is a numeral. -/
  numeral : Numeral piece n
  /-- Its number has 64 bits. -/
  fits : Count.Fits n
  /-- The number is made a value. -/
  modified : reader.modify? n modifier = some value
  /-- The value is that of the field, unless it is a week year. -/
  exact : field ≠ .weekYear → value = fields.get field

/-- A number that is made the value of its field again is written for that field. -/
theorem written_of_modified {reader : Reader} {rule : NumberRule} {field : Field}
    {modifier : Modifier}
    (numeral : Numeral (rule.render (rule.valueIn fields)) (rule.valueIn fields).toNat)
    (low : 0 ≤ rule.valueIn fields) (high : rule.valueIn fields < 1000000000000)
    (modified : reader.modify? (rule.valueIn fields) modifier = some (fields.get field)) :
    reader.Written fields field modifier ((WriteRule.number rule).write fields)
      (rule.valueIn fields).toNat (fields.get field) := by
  -- The number is small, so that it is its own magnitude and fits into a count.
  refine ⟨numeral, ?_, ?_, fun _ => rfl⟩
  · exact Count.fits_of_natAbs_le (by omega)
  · rwa [Int.toNat_of_nonneg low]

/-- A year that is written in full is taken as it is. -/
theorem written_year (reader : Reader) (full : 3 ≤ width) (low : 0 ≤ fields.year)
    (high : fields.year < 100000000000) :
    reader.Written fields .year .none
      ((WriteRule.number (WriteRule.yearRule width)).write fields) fields.year.toNat
      fields.year := by
  have valueIs := NumberRule.valueIn_year fields width
  have numeral := NumberRule.numeral_year width low (by omega)
  -- At this width the numeral is the whole year.
  rw [if_neg (by omega), ← valueIs] at numeral
  have written : reader.Written fields .year .none
      ((WriteRule.number (WriteRule.yearRule width)).write fields)
      ((WriteRule.yearRule width).valueIn fields).toNat fields.year :=
    written_of_modified numeral (by omega) (by omega) (congrArg some valueIs)
  rwa [valueIs] at written

/-- A week year is read as some year, which need not be the one that was written. -/
theorem written_weekYear (reader : Reader) (width : Nat) {modifier : Modifier}
    (kind : modifier = .none ∨ modifier = .abbreviatedYear) (low : 0 ≤ fields.weekYear)
    (high : fields.weekYear < 100000000000) :
    ∃ n value, reader.Written fields .weekYear modifier
      ((WriteRule.number (.weekYear (WriteRule.yearRule width))).write fields) n value := by
  have fits : Count.Fits
      (if width = 2 then (fields.weekYear % 100).toNat else fields.weekYear.toNat : Nat) := by
    simp only [Count.Fits, Count.least, Count.greatest]
    split <;> omega
  -- Neither way of taking a year fails.
  have some : ∀ n, ∃ value, reader.modify? n modifier = some value := by
    intro n
    rcases kind with rfl | rfl <;> exact ⟨_, rfl⟩
  have few : fields.weekYear < 1000000000000 := by omega
  obtain ⟨value, modified⟩ := some _
  exact ⟨_, value, NumberRule.numeral_year width low few, fits, modified,
    fun differ => absurd rfl differ⟩

/-- Days of the week are counted from Monday in the text, and from Sunday otherwise. -/
theorem written_dayOfWeek (reader : Reader) (width : Nat) (ranges : fields.InRange) :
    ∃ n, reader.Written fields .dayOfWeek .dayInWeek
      ((WriteRule.number (.dayInWeek (.select .dayOfWeek width))).write fields) n
      fields.dayOfWeek := by
  -- Whichever day it is, the number in the text is one of the first seven.
  have bounds := ranges.dayOfWeek
  have written : 1 ≤ (NumberRule.dayInWeek (.select .dayOfWeek width)).valueIn fields ∧
      (NumberRule.dayInWeek (.select .dayOfWeek width)).valueIn fields ≤ 7 := by
    simp only [NumberRule.valueIn]
    split <;> omega
  refine ⟨_, written_of_modified
    (NumberRule.numeral_select .dayOfWeek width (by omega) (by omega)) (by omega) (by omega) ?_⟩
  -- Sunday is the seventh day in the text, and every other day one less than its number.
  by_cases sunday : fields.dayOfWeek = 1
  · simp only [NumberRule.valueIn, modify?, CalendarFields.get, sunday, if_true]
  · have next : Count.Fits fields.dayOfWeek := Count.fits_of_natAbs_le (by omega)
    have notLast : fields.dayOfWeek - 1 ≠ 7 := by omega
    simp only [NumberRule.valueIn, modify?, CalendarFields.get, sunday, if_false, notLast,
      Int.sub_add_cancel, Count.within?_of_fits next]

/-- Hour 0 of a half day is written as 12. -/
theorem written_twelveHour (reader : Reader) (width : Nat) (ranges : fields.InRange) :
    ∃ n, reader.Written fields .hour .twelveHour
      ((WriteRule.number (.twelveHour (.select .hour width))).write fields) n fields.hour := by
  -- The number in the text is one of the first twelve.
  have bounds := ranges.hour
  have written : 0 ≤ (NumberRule.twelveHour (.select .hour width)).valueIn fields ∧
      (NumberRule.twelveHour (.select .hour width)).valueIn fields ≤ 12 := by
    simp only [NumberRule.valueIn]
    split <;> omega
  refine ⟨_, written_of_modified
    (NumberRule.numeral_select .hour width (by omega) (by omega)) (by omega) (by omega) ?_⟩
  -- No other hour is written as 12, since noon is hour 0 of its half day as well.
  by_cases midnight : fields.hour = 0
  · simp only [NumberRule.valueIn, modify?, CalendarFields.get, midnight, if_true]
  · have notNoon : fields.hour ≠ 12 := by omega
    simp only [NumberRule.valueIn, modify?, CalendarFields.get, midnight, if_false, notNoon]

/-- Hour 0 of the day is written as 24. -/
theorem written_twentyFourHour (reader : Reader) (width : Nat) (ranges : fields.InRange) :
    ∃ n, reader.Written fields .hourOfDay .twentyFourHour
      ((WriteRule.number (.twentyFourHour (.select .hourOfDay width))).write fields) n
      fields.hourOfDay := by
  -- The number in the text is one of the first 24.
  have bounds := ranges.hourOfDay
  have written : 0 ≤ (NumberRule.twentyFourHour (.select .hourOfDay width)).valueIn fields ∧
      (NumberRule.twentyFourHour (.select .hourOfDay width)).valueIn fields ≤ 24 := by
    simp only [NumberRule.valueIn]
    split <;> omega
  refine ⟨_, written_of_modified
    (NumberRule.numeral_select .hourOfDay width (by omega) (by omega)) (by omega) (by omega) ?_⟩
  -- Only midnight is written as another hour, and 24 is taken back to it.
  by_cases midnight : fields.hourOfDay = 0
  · simp only [NumberRule.valueIn, modify?, CalendarFields.get, midnight, if_true]
  · have notLast : fields.hourOfDay ≠ 24 := by omega
    simp only [NumberRule.valueIn, modify?, CalendarFields.get, midnight, if_false, notLast]

/-- A number that was written for a field is a numeral, from which the value is made again. -/
theorem written_token (reader : Reader) {field : Field}
    (listed : (letter, field) ∈ Token.plainFields ++ Token.shiftedFields)
    (notNanos : field ≠ .nanoOfSecond) (full : field = .year → 3 ≤ width)
    (made : WriteRule.MadeFor zone locale (source.symbols locale) (.letters letter width) rule)
    (readable : ReadStep.MadeFor source locale (.letters letter width) step)
    (ranges : fields.InRange)
    (year : field = .year → 0 ≤ fields.year ∧ fields.year < 100000000000)
    (weekYear : field = .weekYear → 0 ≤ fields.weekYear ∧ fields.weekYear < 100000000000) :
    ∃ modifier n value, step.rule = .number field modifier ∧
      reader.Written fields field modifier (rule.write fields) n value := by
  rcases List.mem_append.mp listed with plain | shifted
  · -- A plain field is taken as it was written.
    obtain ⟨rfl, readRule, low, high⟩ := plain_token plain made readable ranges
    have valueIs := NumberRule.valueIn_select fields field width
    refine ⟨.none, _, _, readRule, written_of_modified ?_ ?_ ?_ ?_⟩
    · rw [valueIs]
      exact NumberRule.numeral_select field width low (by omega)
    · omega
    · omega
    · rw [valueIs]
      rfl
  -- Each of the other letters has its own rule on both sides.
  obtain ⟨before, after, made⟩ := made
  obtain ⟨-, -, start, finish, -, -, readable⟩ := readable.rule
  generalize step.rule = readRule at readable ⊢
  simp only [Token.shiftedFields, List.mem_cons, Prod.mk.injEq, List.not_mem_nil, or_false]
    at shifted
  rcases shifted with ⟨rfl, rfl⟩ | ⟨rfl, rfl⟩ | ⟨rfl, rfl⟩ | ⟨rfl, rfl⟩ | ⟨rfl, rfl⟩ | ⟨rfl, rfl⟩
  · cases made
    cases readable
    have wide : 2 < width := full rfl
    rw [if_pos wide]
    exact ⟨_, _, _, rfl, written_year reader wide (year rfl).1 (year rfl).2⟩
  · cases made
    cases readable
    have kind : (if 2 < width then Modifier.none else .abbreviatedYear) = .none ∨
        (if 2 < width then Modifier.none else .abbreviatedYear) = .abbreviatedYear := by
      split
      · exact .inl rfl
      · exact .inr rfl
    obtain ⟨n, value, written⟩ :=
      written_weekYear reader width kind (weekYear rfl).1 (weekYear rfl).2
    exact ⟨_, n, value, rfl, written⟩
  · cases made
    cases readable
    obtain ⟨n, written⟩ := written_dayOfWeek reader width ranges
    exact ⟨_, n, _, rfl, written⟩
  · cases made
    cases readable
    obtain ⟨n, written⟩ := written_twelveHour reader width ranges
    exact ⟨_, n, _, rfl, written⟩
  · cases made
    cases readable
    obtain ⟨n, written⟩ := written_twentyFourHour reader width ranges
    exact ⟨_, n, _, rfl, written⟩
  · exact absurd rfl notNanos

/-- The number of a month is made the month again. -/
theorem written_month (reader : Reader) (narrow : ¬3 ≤ width)
    (made : WriteRule.MadeFor zone locale (source.symbols locale) (.letters 'M' width) rule)
    (readable : ReadStep.MadeFor source locale (.letters 'M' width) step)
    (ranges : fields.InRange) :
    ∃ n, step.rule = .number .month .month ∧
      reader.Written fields .month .month (rule.write fields) n fields.month := by
  -- Months are counted from zero, and their numbers in the text from one.
  obtain ⟨before, after, made⟩ := made
  obtain ⟨-, -, start, finish, -, -, readable⟩ := readable.rule
  have bounds := ranges.month
  have numerals := NumberRule.numeral_month (n := fields.month + 1) (by omega) (by omega)
  have fits : Count.Fits (fields.month + 1 - 1) := Count.fits_of_natAbs_le (by omega)
  have modified : reader.modify? (fields.month + 1) .month = some fields.month := by
    rw [modify?, Count.within?_of_fits fits, Int.add_sub_cancel]
  -- A narrow month has a number rule on both sides.
  generalize step.rule = readRule at readable ⊢
  have wide : ¬4 ≤ width ∧ width ≠ 3 := by omega
  simp only [ReadRule.ofLetter, if_neg narrow] at readable
  simp only [WriteRule.ofToken, WriteRule.ofLetter, WriteRule.monthRule, if_neg wide.1,
    if_neg wide.2] at made
  cases made
  cases readable
  -- The two widths differ in the zeros alone.
  by_cases pair : width = 2
  · rw [if_pos pair]
    exact ⟨_, rfl, written_of_modified numerals.2
      (show 0 ≤ fields.month + 1 by omega) (show fields.month + 1 < _ by omega) modified⟩
  · rw [if_neg pair]
    exact ⟨_, rfl, written_of_modified numerals.1
      (show 0 ≤ fields.month + 1 by omega) (show fields.month + 1 < _ by omega) modified⟩

/-- A name is looked for among all names that the locale has for its field. -/
theorem rule_of_nameField {field : Field}
    (named : (Token.letters letter width).nameField? = some field)
    (readable : ReadStep.MadeFor source locale (.letters letter width) step) :
    step.rule = .text (.ofNames field ((source.symbols locale).displayNames field)) := by
  obtain ⟨-, -, start, finish, faithful, same, ruled⟩ := readable.rule
  rw [← same]
  -- Months have names from a width of three on.
  rcases Token.nameField?_cases named with ⟨rfl, wide, rfl⟩ | listed
  · simp only [ReadRule.ofLetter, if_pos wide] at ruled
    exact ReadRule.eq_of_named faithful ruled
  · simp only [Token.nameFields, List.mem_cons, Prod.mk.injEq, List.not_mem_nil, or_false]
      at listed
    rcases listed with ⟨rfl, rfl⟩ | ⟨rfl, rfl⟩ | ⟨rfl, rfl⟩
    all_goals exact ReadRule.eq_of_named faithful ruled

/-- The leading digits of nanoseconds are read as nanoseconds with zeros in the other places. -/
theorem readStep_nanos (reader : Reader) {current : ReadStep} {rest : List Char}
    (made : WriteRule.MadeFor zone locale (source.symbols locale) (.letters 'n' width) rule)
    (readable : ReadStep.MadeFor source locale (.letters 'n' width) step)
    (same : current.rule = step.rule) (apart : Apart current.maxWidth (rule.write fields) rest)
    (nano : 0 ≤ fields.nanoOfSecond ∧ fields.nanoOfSecond < 1000000000) :
    reader.readStep current (rule.write fields ++ rest) = .ok ([.value .nanoOfSecond
      (Instant.leadingNanos fields.nanoOfSecond.toNat width : Nat)], rest) := by
  -- Both sides have the fraction as their rule, up to nine letters.
  obtain ⟨before, after, made⟩ := made
  obtain ⟨-, -, start, finish, -, -, ruled⟩ := readable.rule
  rw [← same] at ruled
  generalize ruleIs : current.rule = readRule at ruled
  simp only [WriteRule.ofToken, WriteRule.ofLetter] at made
  simp only [ReadRule.ofLetter] at ruled
  by_cases wide : 9 < width
  · rw [if_pos wide] at made
    cases made
  rw [if_neg wide] at made ruled
  cases made
  cases ruled
  have whole := Int.toNat_of_nonneg nano.1
  generalize fields.nanoOfSecond.toNat = nanos at whole ⊢
  have small : nanos < Digits.power 9 := by
    simp only [Digits.power]
    omega
  -- As many places are written as the letters are wide, and the others are cut off.
  have written : (WriteRule.fraction width).write fields =
      Digits.padded (nanos / Digits.power (9 - width) : Nat) width := by
    have held : max 0 (min fields.nanoOfSecond 999999999) = (nanos : Int) := by omega
    simp only [WriteRule.write, held, Int.natCast_ediv]
  have below := Digits.div_power_lt small (Nat.not_lt.mp wide)
  have lessThan : Digits.power width ≤ Digits.power 9 := Digits.power_mono (by omega)
  have numeral := numeral_padded (n := nanos / Digits.power (9 - width))
    (Nat.lt_of_lt_of_le below (Nat.le_trans lessThan (by decide))) width
  have length := Digits.length_padded (nanos / Digits.power (9 - width)) width
  rw [written] at apart ⊢
  by_cases some : width = 0
  · -- A width of zero cannot be had, but would leave a single zero.
    subst some
    have none : nanos / Digits.power (9 - 0) = 0 := Nat.div_eq_of_lt small
    rw [none] at numeral length apart ⊢
    have one : (Digits.padded ((0 : Nat) : Int) 0).length ≤ 9 := by decide
    rw [readStep_fraction ruleIs numeral one apart, Instant.leadingNanos, none, Nat.zero_mul,
      Nat.zero_mul]
  · have digits := (Digits.count_le_iff (by omega) (by omega)).mpr below
    rw [Nat.max_eq_left digits] at length
    rw [readStep_fraction ruleIs numeral (by omega) apart, length, Instant.leadingNanos]

/-- An offset that a form expresses is read as a zone of that offset. -/
theorem readStep_offset (reader : Reader) {current : ReadStep} {rest : List Char}
    {form : OffsetForm} (writes : (Token.letters letter width).offsetForm? = some form)
    (made : WriteRule.MadeFor zone locale (source.symbols locale) (.letters letter width) rule)
    (readable : ReadStep.MadeFor source locale (.letters letter width) step)
    (same : current.rule = step.rule)
    (expressed : form.Expresses (fields.zoneOffset + fields.dstOffset)) :
    ∃ found, reader.readStep current (rule.write fields ++ rest) = .ok ([.zone found], rest) ∧
      (found = .utc ∧ fields.zoneOffset + fields.dstOffset = 0 ∨
        found = .fixed (fields.zoneOffset + fields.dstOffset)) := by
  obtain ⟨before, after, made⟩ := made
  obtain ⟨-, -, start, finish, -, -, readable⟩ := readable.rule
  rw [← same] at readable
  -- All but one of the listed letters have the same ISO form on both sides.
  have iso : current.rule = .isoZone form → rule = .isoZone form →
      ∃ found, reader.readStep current (rule.write fields ++ rest) = .ok ([.zone found], rest) ∧
        (found = .utc ∧ fields.zoneOffset + fields.dstOffset = 0 ∨
          found = .fixed (fields.zoneOffset + fields.dstOffset)) := by
    rintro readRule rfl
    refine ⟨_, readStep_isoZone readRule expressed, ?_⟩
    split
    · exact .inl ⟨rfl, by assumption⟩
    · exact .inr rfl
  have listed := mem_of_lookup writes
  simp only [Token.offsetForms, List.mem_cons, Prod.mk.injEq, List.not_mem_nil, or_false]
    at listed
  generalize ruleIs : current.rule = readRule at readable iso
  rcases listed with ⟨⟨rfl, rfl⟩, rfl⟩ | ⟨⟨rfl, rfl⟩, rfl⟩ | ⟨⟨rfl, rfl⟩, rfl⟩ | ⟨⟨rfl, rfl⟩, rfl⟩ |
    ⟨⟨rfl, rfl⟩, rfl⟩
  · cases made
    cases readable
    exact iso rfl rfl
  · cases made
    cases readable
    exact iso rfl rfl
  · cases made
    cases readable
    exact iso rfl rfl
  · -- One Z writes a zero offset in digits as well, which the matcher for zones takes.
    cases made
    obtain ⟨matcher, -, zoned⟩ := ReadRule.zoneRule_eq_ok.mp readable
    exact ⟨_, readStep_zone (ruleIs.trans zoned) expressed, .inr rfl⟩
  · cases made
    cases readable
    exact iso rfl rfl

/-- The piece of text that a numeric token writes is read as what the token tells. -/
theorem readStep_numberField (reader : Reader) {field : Field} {current : ReadStep}
    {rest : List Char} (number : (Token.letters letter width).numberField? = some field)
    (full : letter ≠ 'y' ∨ 3 ≤ width)
    (made : WriteRule.MadeFor zone locale (source.symbols locale) (.letters letter width) rule)
    (readable : ReadStep.MadeFor source locale (.letters letter width) step)
    (same : current.rule = step.rule) (apart : Apart current.maxWidth (rule.write fields) rest)
    (ranges : fields.InRange)
    (year : field = .year → 0 ≤ fields.year ∧ fields.year < 100000000000)
    (weekYear : field = .weekYear → 0 ≤ fields.weekYear ∧ fields.weekYear < 100000000000)
    (nano : 0 ≤ fields.nanoOfSecond ∧ fields.nanoOfSecond < 1000000000) :
    ∃ found, reader.readStep current (rule.write fields ++ rest) = .ok (found, rest) ∧
      (Token.letters letter width).Tells fields found := by
  -- The field is the month, the nanoseconds, or another one that the letter is listed with.
  have writes : (Token.letters letter width).field? = some field := by
    rw [Token.field?, number, Option.some_or]
  rcases Token.numberField?_cases number with ⟨rfl, wide, rfl⟩ | listed
  · obtain ⟨n, readRule, written⟩ := written_month reader wide made readable ranges
    exact ⟨_, readStep_number (same.trans readRule) written.numeral written.fits
      written.modified apart, .field writes (by decide)⟩
  by_cases nanos : field = .nanoOfSecond
  · -- The only letter for nanoseconds is n.
    subst nanos
    have only : ∀ entry ∈ Token.plainFields ++ Token.shiftedFields,
        entry.2 = .nanoOfSecond → entry.1 = 'n' := by decide
    obtain rfl : letter = 'n' := only _ listed rfl
    exact ⟨_, readStep_nanos reader made readable same apart nano, .fraction width⟩
  have fullYear : field = .year → 3 ≤ width := by
    -- The only letter for the year is y, which is reversible from a width of three on.
    have only : ∀ entry ∈ Token.plainFields ++ Token.shiftedFields,
        entry.2 = .year → entry.1 = 'y' := by decide
    intro isYear
    exact full.resolve_left fun notYear => notYear (only _ listed isYear)
  obtain ⟨modifier, n, value, readRule, written⟩ := written_token reader listed nanos fullYear
    made readable ranges year weekYear
  have read := readStep_number (same.trans readRule) written.numeral written.fits
    written.modified apart
  -- All that is told of a week year is that there is one.
  by_cases isWeekYear : field = .weekYear
  · subst isWeekYear
    exact ⟨_, read, .weekYear writes value⟩
  · rw [written.exact isWeekYear] at read
    exact ⟨_, read, .field writes ⟨isWeekYear, nanos⟩⟩

/--
The piece of text that a reversible token writes is read as what the token tells.

What follows must leave numbers apart, a name must be recognized, and a form must express the offset.
-/
theorem readStep_token (reader : Reader) {token : Token} {current : ReadStep} {rest : List Char}
    (reversible : token.isReversible = true)
    (made : WriteRule.MadeFor zone locale (source.symbols locale) token rule)
    (readable : ReadStep.MadeFor source locale token step) (same : current.rule = step.rule)
    (apart : token.numberField?.isSome = true →
      Apart current.maxWidth (rule.write fields) rest)
    (recognized : ∀ field ∈ token.nameField?, Recognized
      ((source.symbols locale).displayNames field) (fields.get field) (rule.write fields) rest)
    (expressed : ∀ form ∈ token.offsetForm?,
      form.Expresses (fields.zoneOffset + fields.dstOffset))
    (ranges : fields.InRange)
    (year : token.numberField? = some .year → 0 ≤ fields.year ∧ fields.year < 100000000000)
    (weekYear : token.numberField? = some .weekYear →
      0 ≤ fields.weekYear ∧ fields.weekYear < 100000000000)
    (nano : 0 ≤ fields.nanoOfSecond ∧ fields.nanoOfSecond < 1000000000) :
    ∃ found, reader.readStep current (rule.write fields ++ rest) = .ok (found, rest) ∧
      token.Tells fields found := by
  -- A token of letters writes a number, a name or an offset, which are tried in this order.
  cases token with
  | literal text =>
    obtain ⟨before, after, made⟩ := made
    obtain ⟨start, finish, -, -, readable⟩ := readable
    cases made
    cases readable
    exact ⟨[], readStep_literal same, .literal text⟩
  | letters letter width =>
    simp only [Token.isReversible, Bool.and_eq_true, Bool.or_eq_true, bne_iff_ne, ne_eq,
      decide_eq_true_eq] at reversible
    obtain ⟨known, full⟩ := reversible
    cases number : (Token.letters letter width).numberField? with
    | some field =>
      exact readStep_numberField reader number full made readable same (apart (by rw [number]; rfl))
        ranges (fun isYear => year (isYear ▸ number))
        (fun isWeekYear => weekYear (isWeekYear ▸ number)) nano
    | none =>
      cases named : (Token.letters letter width).nameField? with
      | some field =>
        have writes : (Token.letters letter width).field? = some field := by
          rw [Token.field?, number, named, Option.none_or]
        have exact : field ≠ .weekYear ∧ field ≠ .nanoOfSecond := by
          have names : ∀ entry ∈ Token.nameFields,
              entry.2 ≠ .weekYear ∧ entry.2 ≠ .nanoOfSecond := by decide
          rcases Token.nameField?_cases named with ⟨-, -, rfl⟩ | listed
          · decide
          · exact names _ listed
        exact ⟨_, readStep_text (same.trans (rule_of_nameField named readable))
          (recognized field named), .field writes exact⟩
      | none =>
        -- A reversible token that writes no field writes the offset.
        rw [Token.field?, number, named] at known
        obtain ⟨form, writes⟩ : ∃ form, (Token.letters letter width).offsetForm? = some form :=
          Option.isSome_iff_exists.mp (known.resolve_left (by decide))
        obtain ⟨found, read, exact⟩ := readStep_offset reader writes made readable same
          (expressed form writes)
        exact ⟨_, read, .offset writes exact⟩

end Reader

end DatePattern
