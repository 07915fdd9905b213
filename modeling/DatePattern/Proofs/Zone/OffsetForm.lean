import DatePattern.Names.ZoneMatcher
import DatePattern.Proofs.Text.Digits
import DatePattern.Reading.Reader
import Mathlib.Data.Option.Basic

/-! Written offsets: the text of an offset is taken as a whole, and denotes the offset again. -/

namespace DatePattern

/-- Two digits are two ASCII digits that denote the number. -/
theorem Digits.two_eq {n : Nat} (small : n < 100) :
    ∃ tens ones, two n = [tens, ones] ∧ Text.isAsciiDigit tens = true ∧
      Text.isAsciiDigit ones = true ∧ value [tens, ones] = n := by
  -- Both characters are digits, as all characters of a number are.
  have digits : ∀ c ∈ two n, Text.isAsciiDigit c = true := fun c => isAsciiDigit_last
  have denoted : value (two n) = n := by
    rw [two, value_last]
    exact Nat.mod_eq_of_lt small
  refine ⟨_, _, rfl, ?_, ?_, denoted⟩
  · exact digits _ (by simp [two, last])
  · exact digits _ (by simp [two, last])

namespace Text

/-- What a test tells of each of the ten digits, it tells of every digit. -/
private theorem forall_digit {test : Char → Bool} (each : "0123456789".toList.all test = true)
    {c : Char} (digit : isAsciiDigit c = true) : test c = true := by
  -- The code points between those of 0 and 9 are those of the ten digits.
  refine List.all_eq_true.mp each c ?_
  simp only [isAsciiDigit, Bool.and_eq_true, decide_eq_true_eq] at digit
  have lower : 48 ≤ c.toNat := digit.1
  have upper : c.toNat ≤ 57 := digit.2
  have same : c = Char.ofNat c.toNat := (Char.ofNat_toNat c).symm
  generalize c.toNat = code at lower upper same
  subst same
  have listed : ∀ code ∈ List.range' 48 10, Char.ofNat code ∈ "0123456789".toList := by decide
  exact listed code (by rw [List.mem_range'_1]; omega)

/-- A digit is neither a blank nor a colon, and it is a decimal digit of some script. -/
theorem digit_facts {c : Char} (digit : isAsciiDigit c = true) :
    isBlank c = false ∧ c ≠ ':' ∧ isDecimalDigit c = true := by
  -- All three are tests of a character, and there are only ten digits to try.
  have each : ("0123456789".toList.all fun c =>
      !isBlank c && c != ':' && isDecimalDigit c) = true := by decide
  simpa [and_assoc] using forall_digit each digit

/-- A text that neither begins nor ends with a blank is not trimmed. -/
theorem trim_eq_self {first last : Char} {middle : List Char} (begins : isBlank first = false)
    (ends : isBlank last = false) :
    trim (first :: (middle ++ [last])) = first :: (middle ++ [last]) := by
  -- The last character comes first when the text is turned around.
  have turned : (first :: (middle ++ [last])).reverse = last :: (middle.reverse ++ [first]) := by
    simp
  rw [trim, trimStart, trimStart, List.dropWhile_cons_of_neg (by simp [begins]), turned,
    List.dropWhile_cons_of_neg (by simp [ends]), ← turned, List.reverse_reverse]

end Text

/-- A colon parts hours and minutes where it first stands. -/
theorem CustomZone.hoursMinutes?_colon {hours : List Char} (absent : ':' ∉ hours)
    (minutes : List Char) : hoursMinutes? (hours ++ ':' :: minutes) = some (hours, minutes) := by
  -- The hours go on as long as there is no colon.
  have unlike : ∀ c ∈ hours, (c != ':') = true := fun c listed => by
    simpa using fun same : c = ':' => absent (same ▸ listed)
  have contained : (hours ++ ':' :: minutes).contains ':' = true := by simp
  rw [hoursMinutes?, if_pos contained, List.takeWhile_append_of_pos unlike,
    List.dropWhile_append_of_pos unlike]
  simp

/-- Hours and minutes are parted by the first colon, or by their places where there is none. -/
theorem CustomZone.hoursMinutes?_eq_some_iff {text hours minutes : List Char} :
    hoursMinutes? text = some (hours, minutes) ↔
      text = hours ++ ':' :: minutes ∧ ':' ∉ hours ∨
        text = hours ++ minutes ∧ ':' ∉ text ∧
          (hours.length ≤ 2 ∧ minutes = [] ∨ hours.length = 2 ∧ minutes.length = 2) := by
  -- A colon anywhere settles the form, and only without one do the places count.
  by_cases colon : ':' ∈ text
  · constructor
    · intro parted
      obtain ⟨before, after, rfl, absent⟩ := List.eq_append_cons_of_mem colon
      rw [hoursMinutes?_colon absent] at parted
      cases parted
      exact .inl ⟨rfl, absent⟩
    · rintro (⟨rfl, absent⟩ | ⟨-, absent, -⟩)
      · exact hoursMinutes?_colon absent minutes
      · exact absurd colon absent
  · have uncontained : ¬text.contains ':' = true := by simpa using colon
    rw [hoursMinutes?, if_neg uncontained]
    constructor
    · intro parted
      -- Up to two characters are hours alone, and four are hours and minutes.
      split at parted
      · cases parted
        exact .inr ⟨(List.append_nil _).symm, colon, .inl ⟨‹_›, rfl⟩⟩
      · split at parted
        · cases parted
          refine .inr ⟨(List.take_append_drop 2 text).symm, colon, .inr ⟨?_, ?_⟩⟩ <;> simp [*]
        · cases parted
    · rintro (⟨rfl, -⟩ | ⟨rfl, -, ⟨short, rfl⟩ | ⟨two, two'⟩⟩)
      · simp at colon
      · rw [List.append_nil, if_pos short]
      · have four : (hours ++ minutes).length = 4 := by simp [two, two']
        rw [if_neg (by omega), if_pos four, ← two, List.take_left, List.drop_left]

/-- The milliseconds of a text are those of its parts, which are checked one after the other. -/
theorem CustomZone.magnitude?_eq_some_iff {text : List Char} {total : Int} :
    magnitude? text = some total ↔
      (text ≠ [] ∧ (text.all fun c => Text.isAsciiDigit c || c == ':') = true) ∧
        ∃ hours minutes, hoursMinutes? text = some (hours, minutes) ∧
          (hours ≠ [] ∧ hours.length ≤ 2 ∧ ¬minutes.contains ':' = true) ∧
          (minutes = [] ∨ minutes.length = 2) ∧
          (Digits.value hours ≤ 23 ∧ Digits.value minutes ≤ 59) ∧
          (Digits.value hours * 3600000 + Digits.value minutes * 60000 : Int) = total := by
  -- Each check fails or goes on, so that the steps turn into conjuncts.
  simp only [magnitude?, Option.bind_eq_bind, Option.bind_eq_some_iff, Option.guard_eq_some',
    Prod.exists, exists_const, pure, Option.some.injEq]
/-- The milliseconds of hours and minutes that are parted and in their ranges. -/
theorem CustomZone.magnitude?_eq {text hours minutes : List Char}
    (written : text ≠ [] ∧ (text.all fun c => Text.isAsciiDigit c || c == ':') = true)
    (parted : hoursMinutes? text = some (hours, minutes))
    (shaped : hours ≠ [] ∧ hours.length ≤ 2 ∧ ¬minutes.contains ':' = true)
    (complete : minutes = [] ∨ minutes.length = 2)
    (small : Digits.value hours ≤ 23 ∧ Digits.value minutes ≤ 59) :
    magnitude? text =
      some (Digits.value hours * 3600000 + Digits.value minutes * 60000 : Int) :=
  -- There is nothing else to be checked.
  magnitude?_eq_some_iff.mpr ⟨written, hours, minutes, parted, shaped, complete, small, rfl⟩

namespace OffsetForm

/-- The milliseconds of the smallest part that a form writes. -/
def unit : OffsetForm → Nat
  | .hours => 3600000
  | .hoursMinutes | .hoursColonMinutes => 60000

/-- A form expresses offsets of less than a day without parts that it does not write. -/
def Expresses (form : OffsetForm) (offset : Int) : Prop :=
  offset.natAbs < 86400000 ∧ offset.natAbs % form.unit = 0

instance (form : OffsetForm) (offset : Int) : Decidable (form.Expresses offset) :=
  inferInstanceAs (Decidable (_ ∧ _))

/-- The sign of an offset. -/
def sign (offset : Int) : Char := if offset < 0 then '-' else '+'

/-- An offset of less than a day has two digits of hours and two digits of minutes. -/
theorem render_eq (form : OffsetForm) {offset : Int} (small : offset.natAbs < 86400000) :
    form.render offset = sign offset :: (Digits.two (offset.natAbs / 3600000) ++
      match form with
      | .hours => []
      | .hoursMinutes => Digits.two (offset.natAbs % 3600000 / 60000)
      | .hoursColonMinutes => ':' :: Digits.two (offset.natAbs % 3600000 / 60000)) := by
  -- Hours of less than a day have two digits at the most.
  have hours : offset.natAbs / 3600000 < 100 := by omega
  rw [← Digits.padded_two hours]
  cases form <;> rfl

/-- A signed text of hours and minutes after GMT denotes the offset that they make up. -/
theorem ofId_greenwich (regions : List Region) {offset : Int} (first : Char)
    (middle : List Char) {last : Char} (digit : Text.isAsciiDigit last = true)
    (denoted : CustomZone.magnitude? (first :: (middle ++ [last])) = some (offset.natAbs : Int)) :
    Zone.ofId regions
        (String.ofList (['G', 'M', 'T'] ++ sign offset :: first :: (middle ++ [last]))) =
      .fixed offset := by
  -- The name has no spaces around it to be trimmed.
  have kept : Text.trim ('G' :: (['M', 'T', sign offset, first] ++ middle ++ [last])) =
      'G' :: (['M', 'T', sign offset, first] ++ middle ++ [last]) :=
    Text.trim_eq_self (by decide) (Text.digit_facts digit).1
  have custom : CustomZone.offset? ('G' :: 'M' :: 'T' :: sign offset :: first ::
      (middle ++ [last])) = some offset := by
    rw [CustomZone.offset?, if_neg (by decide), denoted]
    -- The sign was taken from the offset, so it gives the magnitude its sign back.
    by_cases negative : offset < 0
    · simp only [sign, negative, if_true, Option.map_some]
      rw [if_neg (by decide)]
      congr 1
      omega
    · simp only [sign, negative, if_false, if_true]
      congr 1
      omega
  simp only [Zone.ofId, Zone.ofId?, String.toList_ofList, List.cons_append, List.nil_append]
    at kept ⊢
  rw [kept, if_neg (by simp), custom, Option.getD_some]

/-- The text of an offset that a form expresses, after GMT, is a name of the offset. -/
theorem ofId_render (regions : List Region) {form : OffsetForm} {offset : Int}
    (expressed : form.Expresses offset) :
    Zone.ofId regions (String.ofList (['G', 'M', 'T'] ++ form.render offset)) = .fixed offset := by
  obtain ⟨small, whole⟩ := expressed
  obtain ⟨a, b, hours, digitA, digitB, hoursAre⟩ :=
    Digits.two_eq (n := offset.natAbs / 3600000) (by omega)
  obtain ⟨c, d, minutes, digitC, digitD, minutesAre⟩ :=
    Digits.two_eq (n := offset.natAbs % 3600000 / 60000) (by omega)
  have notA := (Text.digit_facts digitA).2.1
  have notB := (Text.digit_facts digitB).2.1
  have notC := (Text.digit_facts digitC).2.1
  have notD := (Text.digit_facts digitD).2.1
  rw [render_eq form small, hours, minutes]
  -- Each form is one of the ways in which hours and minutes may be parted.
  cases form with
  | hours =>
    simp only [unit] at whole
    refine ofId_greenwich regions a [] digitB ?_
    have parted : CustomZone.hoursMinutes? [a, b] = some ([a, b], []) := by
      simp [CustomZone.hoursMinutes?, notA.symm, notB.symm]
    have none : Digits.value [] = 0 := rfl
    rw [List.nil_append, CustomZone.magnitude?_eq (by simp [digitA, digitB]) parted (by simp)
      (.inl rfl) (by omega), hoursAre, none]
    congr 1
    omega
  | hoursMinutes =>
    simp only [unit] at whole
    refine ofId_greenwich regions a [b, c] digitD ?_
    have parted : CustomZone.hoursMinutes? [a, b, c, d] = some ([a, b], [c, d]) := by
      simp [CustomZone.hoursMinutes?, notA.symm, notB.symm, notC.symm, notD.symm]
    rw [List.cons_append, List.singleton_append, CustomZone.magnitude?_eq
      (by simp [digitA, digitB, digitC, digitD]) parted (by simp [notC.symm, notD.symm])
      (.inr rfl) (by omega), hoursAre, minutesAre]
    congr 1
    omega
  | hoursColonMinutes =>
    simp only [unit] at whole
    refine ofId_greenwich regions a [b, ':', c] digitD ?_
    have parted : CustomZone.hoursMinutes? [a, b, ':', c, d] = some ([a, b], [c, d]) := by
      simp [CustomZone.hoursMinutes?, notA, notB]
    rw [List.cons_append, List.cons_append, List.singleton_append, CustomZone.magnitude?_eq
      (by simp [digitA, digitB, digitC, digitD]) parted (by simp [notC.symm, notD.symm])
      (.inr rfl) (by omega), hoursAre, minutesAre]
    congr 1
    omega

/-- The shape of a form takes the whole text of an offset. -/
theorem takeShape?_render (form : OffsetForm) {offset : Int} (small : offset.natAbs < 86400000)
    (rest : List Char) :
    takeShape? form.shape (form.render offset ++ rest) = some (form.render offset, rest) := by
  -- Hours and minutes are below 100, so each has two digits.
  obtain ⟨a, b, hours, digitA, digitB, -⟩ :=
    Digits.two_eq (n := offset.natAbs / 3600000) (by omega)
  obtain ⟨c, d, minutes, digitC, digitD, -⟩ :=
    Digits.two_eq (n := offset.natAbs % 3600000 / 60000) (by omega)
  have scriptA := (Text.digit_facts digitA).2.2
  have scriptB := (Text.digit_facts digitB).2.2
  have scriptC := (Text.digit_facts digitC).2.2
  have scriptD := (Text.digit_facts digitD).2.2
  have signed : Slot.sign.accepts (sign offset) = true := by
    by_cases negative : offset < 0 <;> simp [sign, Slot.accepts, negative]
  rw [render_eq form small, hours, minutes]
  have digits : ∀ {c : Char}, Text.isDecimalDigit c = true → Slot.digit.accepts c = true :=
    fun script => script
  have mark : (Slot.mark ':').accepts ':' = true := by decide
  cases form <;>
    simp [shape, takeShape?, signed, mark, digits scriptA, digits scriptB, digits scriptC,
      digits scriptD]

/-- An offset does not begin with the letter Z. -/
theorem takeShape?_zulu (form : OffsetForm) {offset : Int} (small : offset.natAbs < 86400000)
    (rest : List Char) : takeShape? [.mark 'Z'] (form.render offset ++ rest) = none := by
  -- It begins with its sign.
  have signed : (Slot.mark 'Z').accepts (sign offset) = false := by
    by_cases negative : offset < 0 <;> simp [sign, Slot.accepts, negative]
  rw [render_eq form small]
  simp [takeShape?, signed]

/-- The text of an offset that a form expresses is taken as a whole, also where it is Z. -/
theorem takeZulu?_renderZulu {form : OffsetForm} {offset : Int}
    (expressed : form.Expresses offset) (rest : List Char) :
    form.takeZulu? (form.renderZulu offset ++ rest) = some (form.renderZulu offset, rest) := by
  -- Only an offset of zero is written as Z, and no other begins with that letter.
  by_cases zero : offset = 0
  · subst zero
    rfl
  · rw [renderZulu, if_neg zero, takeZulu?, takeShape?_zulu form expressed.1,
      takeShape?_render form expressed.1, Option.none_or]

/-- The text of an offset that a form expresses denotes the offset. -/
theorem isoZone_renderZulu (reader : Reader) {form : OffsetForm} {offset : Int}
    (expressed : form.Expresses offset) :
    reader.isoZone (form.renderZulu offset) = if offset = 0 then .utc else .fixed offset := by
  by_cases zero : offset = 0
  · subst zero
    rfl
  -- The text of an offset begins with its sign, so it is not the Z of UTC.
  · have notZulu : form.render offset ≠ ['Z'] := by
      rw [render_eq form expressed.1]
      simp [sign]
      split <;> simp
    rw [renderZulu, if_neg zero, if_neg zero, Reader.isoZone, if_neg notZulu,
      ofId_render reader.regions expressed]

end OffsetForm

/-- The text of an offset that a form expresses is understood as that offset, whatever names there are. -/
theorem ZoneMatcher.mention?_render (matcher : ZoneMatcher) {form : OffsetForm} {offset : Int}
    (expressed : form.Expresses offset) :
    matcher.mention? (form.render offset) = some (.offset (.fixed offset)) := by
  have named := OffsetForm.ofId_render matcher.regions expressed
  rw [OffsetForm.render_eq _ expressed.1] at named ⊢
  -- The text begins with a sign, so that it is looked up after GMT and not among the names.
  have signed : OffsetForm.sign offset = '+' ∨ OffsetForm.sign offset = '-' := by
    simp only [OffsetForm.sign]
    split
    · exact .inr rfl
    · exact .inl rfl
  rw [mention?, if_pos signed, named]

/-- Hours and minutes are matched as a zone of their offset, whatever names there are. -/
theorem ZoneMatcher.match?_render (matcher : ZoneMatcher) {offset : Int}
    (expressed : OffsetForm.hoursMinutes.Expresses offset) (rest : List Char) :
    matcher.match? (OffsetForm.hoursMinutes.render offset ++ rest) =
      some (.offset (.fixed offset), OffsetForm.hoursMinutes.render offset, rest) := by
  -- The shape of hours and minutes in a row is tried before all others.
  have taken : takeNumeric? (OffsetForm.hoursMinutes.render offset ++ rest) =
      some (OffsetForm.hoursMinutes.render offset, rest) := by
    rw [takeNumeric?, OffsetForm.takeShape?_render _ expressed.1, Option.some_or, Option.some_or]
  simp only [match?, taken, matcher.mention?_render expressed, Option.some_or,
    Option.bind_eq_bind, Option.bind_some, pure]

end DatePattern
