import DatePattern.Proofs.Cache
import DatePattern.Proofs.Names.ZoneMatcher
import DatePattern.Proofs.Reading.Numeral
import DatePattern.Proofs.Text.Taken

/-! Numeric zones: which written offsets are read back, and which ones their own token cannot read. -/

namespace DatePattern

/-- A numeric zone token that writes an offset of less than a day in full. -/
inductive Token.Measures (offset : Int) : Token → Prop
  /-- A single X writes whole hours. -/
  | hours (expressed : OffsetForm.hours.Expresses offset) : Measures offset (.letters 'X' 1)
  /-- Two or three X write whole minutes. -/
  | minutes {width : Nat} (places : width = 2 ∨ width = 3)
      (expressed : OffsetForm.hoursMinutes.Expresses offset) : Measures offset (.letters 'X' width)
  /-- The letter Z writes whole minutes at every width. -/
  | number {width : Nat} (positive : 0 < width)
      (expressed : OffsetForm.hoursMinutes.Expresses offset) : Measures offset (.letters 'Z' width)

/-- The zone of a fixed offset has that offset at every moment. -/
theorem Zone.offsetAt_fixed (offset millis : Int) : (fixed offset).offsetAt millis = offset :=
  Int.add_zero offset

/-- The zone that an offset is read as, where Z stands for none, has that offset at every moment. -/
theorem Zone.offsetAt_zulu (offset millis : Int) :
    (if offset = 0 then utc else fixed offset).offsetAt millis = offset := by
  -- UTC is the zone with the offset zero.
  split
  next zero => exact zero.symm
  next => exact offsetAt_fixed offset millis

/-- A text that begins with an ASCII character begins with the small letter of it in lower case. -/
theorem Text.head?_lowercase {text : List Char} {first : Char} (head : text.head? = some first)
    (ascii : first.toNat < 0x80) : (lowercase text).head? = some (lowerAscii first) := by
  obtain ⟨rest, rfl⟩ := List.head?_eq_some_iff.mp head
  -- Only the letter sigma looks at what comes after it, and that one is not ASCII.
  have noSigma : first ≠ '\u03A3' := by
    rintro rfl
    exact absurd ascii (by decide)
  rw [lowercase, lowercaseAfter, if_neg noSigma, lowerChar, if_pos ascii]
  rfl

namespace ZoneMatcher

/-- Hours and minutes with a colon are not taken as a number, which has its digits in a row. -/
theorem takeNumeric?_colon {offset : Int} (small : offset.natAbs < 86400000) (rest : List Char) :
    takeNumeric? (OffsetForm.hoursColonMinutes.render offset ++ rest) = none := by
  obtain ⟨a, b, hours, -⟩ := Digits.two_eq (n := offset.natAbs / 3600000) (by omega)
  have mark : Slot.digit.accepts ':' = false := by decide
  have letter : (Slot.letter 'G').accepts (OffsetForm.sign offset) = false := by
    by_cases negative : offset < 0 <;> simp only [OffsetForm.sign, negative] <;> decide
  -- Each of the three shapes is missed at the colon or at the sign.
  rw [OffsetForm.render_eq _ small, hours]
  simp [takeNumeric?, takeShape?, OffsetForm.shape, greenwichShape, mark, letter]

/-- Hours and minutes with a colon are matched only as a display name that is spelled like them. -/
theorem match?_colon (matcher : ZoneMatcher) {offset : Int}
    (expressed : OffsetForm.hoursColonMinutes.Expresses offset) (rest : List Char)
    (mention : ZoneMention) (taken : List Char) :
    matcher.match? (OffsetForm.hoursColonMinutes.render offset ++ rest) =
        some (mention, taken, rest) ↔
      mention = .offset (.fixed offset) ∧ taken = OffsetForm.hoursColonMinutes.render offset ∧
        matcher.names.take? (OffsetForm.hoursColonMinutes.render offset ++ rest) =
          some (taken, rest) := by
  -- Only the names are left to match the text, and what they take is understood as the offset.
  rw [match?, takeNumeric?_colon expressed.1, Option.none_or]
  generalize taking : OffsetForm.hoursColonMinutes.render offset = piece
  have understood := matcher.mention?_render expressed
  rw [taking] at understood
  simp only [Option.bind_eq_bind, Option.bind_eq_some_iff, pure, Option.some.injEq, Prod.mk.injEq]
  constructor
  · rintro ⟨⟨taken, rest⟩, found, other, known, rfl, rfl, rfl⟩
    -- What is taken is what stands before the rest.
    have same := List.append_cancel_right (Lexicon.take?_eq_some found).1
    rw [← same, understood] at known
    exact ⟨(Option.some.inj known).symm, same.symm, found⟩
  · rintro ⟨rfl, rfl, found⟩
    exact ⟨_, found, _, understood, rfl, rfl, rfl⟩

end ZoneMatcher

namespace Reader

variable {reader : Reader} {step : ReadStep} {rest : List Char} {offset : Int}

/-- A written offset, or Z where it is zero, is read back. -/
theorem readsBack_isoZone (form : OffsetForm) (rule : step.rule = .isoZone form)
    (expressed : form.Expresses offset) :
    ∃ read : Zone, (∀ millis, read.offsetAt millis = offset) ∧
      reader.readStep step (form.renderZulu offset ++ rest) = .ok ([.zone read], rest) :=
  -- What the form takes is all that was written, and it denotes the offset or UTC.
  ⟨_, Zone.offsetAt_zulu offset, readStep_isoZone rule expressed⟩

/-- Hours and minutes with a colon are read back precisely where a display name is spelled like them. -/
theorem readsBack_colon_iff {matcher : ZoneMatcher} (rule : step.rule = .zone matcher)
    (expressed : OffsetForm.hoursColonMinutes.Expresses offset) :
    (∃ read : Zone, (∀ millis, read.offsetAt millis = offset) ∧
        reader.readStep step (OffsetForm.hoursColonMinutes.render offset ++ rest) =
          .ok ([.zone read], rest)) ↔
      matcher.names.take? (OffsetForm.hoursColonMinutes.render offset ++ rest) =
        some (OffsetForm.hoursColonMinutes.render offset, rest) := by
  -- The matcher takes the whole piece only as a name, and then it understands the offset.
  have matched := matcher.match?_colon expressed
  simp only [readStep, rule]
  generalize OffsetForm.hoursColonMinutes.render offset = piece at matched ⊢
  constructor
  · rintro ⟨read, -, success⟩
    -- The rest of the text is the same, so all of the piece was taken as a mention.
    cases found : matcher.match? (piece ++ rest) with
    | none =>
      rw [found] at success
      cases success
    | some answer =>
      obtain ⟨mention, taken, later⟩ := answer
      rw [found] at success
      obtain ⟨-, rfl⟩ := Prod.mk.inj (Except.ok.inj success)
      obtain ⟨-, rfl, spelled⟩ := (matched later mention taken).mp found
      exact spelled
  · intro spelled
    rw [(matched rest _ piece).mpr ⟨rfl, rfl, spelled⟩]
    exact ⟨_, Zone.offsetAt_fixed offset, rfl⟩

/-- Other than two Z are read by the matcher for zones, if it is built. -/
theorem ofToken_letterZ (locale : Locale) {width : Nat} (other : width ≠ 2) (registry : Registry) :
    ReadStep.ofToken locale (.letters 'Z' width) registry =
      match Registry.zoneMatcher locale registry with
      | .ok matcher left => .ok ⟨.zone matcher, width, 0⟩ left
      | .error reason left => .error reason left := by
  simp only [ReadStep.ofToken, ReadRule.ofLetter, if_neg other, ReadRule.zoneRule]
  show EStateM.bind (EStateM.map ReadRule.zone (Registry.zoneMatcher locale)) _ registry = _
  -- The rule and the step only put the matcher into its place.
  rw [EStateM.bind, EStateM.map]
  cases Registry.zoneMatcher locale registry <;> rfl

/-- Other than two Z have no read step only where the matcher for zones is not built. -/
theorem ofToken_letterZ_eq_error_iff {locale : Locale} {width : Nat} (other : width ≠ 2)
    {registry left : Registry} {reason : PatternError} :
    ReadStep.ofToken locale (.letters 'Z' width) registry = .error reason left ↔
      (Token.letters 'Z' width).isMatched = true ∧
        Registry.zoneMatcher locale registry = .error reason left := by
  -- Such a token always asks for the matcher.
  have matched : (Token.letters 'Z' width).isMatched = true := bne_iff_ne.mpr other
  rw [ofToken_letterZ locale other]
  cases Registry.zoneMatcher locale registry <;> simp [matched]

/-- A read step of other than two Z has a matcher for zones. -/
theorem rule_of_letterZ {locale : Locale} {width : Nat} (other : width ≠ 2)
    {registry left : Registry} {step : ReadStep}
    (made : ReadStep.ofToken locale (.letters 'Z' width) registry = .ok step left) :
    ∃ matcher, step.rule = .zone matcher := by
  -- The registry may refuse the matcher, and there is no step then.
  rw [ofToken_letterZ locale other] at made
  cases looked : Registry.zoneMatcher locale registry with
  | error reason later =>
    rw [looked] at made
    cases made
  | ok matcher later =>
    rw [looked] at made
    cases made
    exact ⟨matcher, rfl⟩

/-- Every numeric zone token reads what it writes, other than three or more Z without a name for it.

These write a colon between hours and minutes, but take numbers only without one. A token has no read step only where it
asks for the matcher of zones and that is not built.
-/
theorem readStep_written_iff {token : Token} (measured : token.Measures offset)
    (zone : Zone) (locale : Locale) (symbols : Symbols) (first second : Registry) :
    ∃ rule after, WriteRule.ofToken zone locale symbols token first = .ok rule after ∧
      (∀ reason left, ReadStep.ofToken locale token second = .error reason left ↔
        token.isMatched = true ∧ Registry.zoneMatcher locale second = .error reason left) ∧
      ∀ step left, ReadStep.ofToken locale token second = .ok step left →
        ∀ (reader : Reader) (fields : CalendarFields) (rest : List Char),
          fields.zoneOffset + fields.dstOffset = offset →
          ((∃ read : Zone, (∀ millis, read.offsetAt millis = offset) ∧
              reader.readStep step (rule.write fields ++ rest) = .ok ([.zone read], rest)) ↔
            ∀ width, token = .letters 'Z' width → 2 < width →
              ∃ matcher, step.rule = .zone matcher ∧
                matcher.names.take? (OffsetForm.hoursColonMinutes.render offset ++ rest) =
                  some (OffsetForm.hoursColonMinutes.render offset, rest)) := by
  -- An ISO form is made in any registry, and reads what it writes.
  cases measured with
  | hours expressed =>
    refine ⟨_, _, rfl, fun reason left => iff_of_false nofun nofun, ?_⟩
    rintro step left ⟨⟩ reader fields rest rfl
    exact iff_of_true (readsBack_isoZone .hours rfl expressed) nofun
  | minutes places expressed =>
    rcases places with rfl | rfl
    · refine ⟨_, _, rfl, fun reason left => iff_of_false nofun nofun, ?_⟩
      rintro step left ⟨⟩ reader fields rest rfl
      exact iff_of_true (readsBack_isoZone .hoursMinutes rfl expressed) nofun
    · refine ⟨_, _, rfl, fun reason left => iff_of_false nofun nofun, ?_⟩
      rintro step left ⟨⟩ reader fields rest rfl
      exact iff_of_true (readsBack_isoZone .hoursColonMinutes rfl expressed) nofun
  | @number width positive expressed =>
    -- One Z is a number without a colon, two are an ISO form, and more are a number with a colon.
    match width, positive with
    | 1, _ =>
      refine ⟨_, _, rfl, fun reason left => ofToken_letterZ_eq_error_iff (by decide), ?_⟩
      rintro step left made reader fields rest rfl
      obtain ⟨matcher, rule⟩ := rule_of_letterZ (by decide) made
      refine iff_of_true ⟨_, Zone.offsetAt_fixed _, readStep_zone rule expressed⟩ ?_
      rintro _ ⟨⟩ wide
      exact absurd wide (by decide)
    | 2, _ =>
      refine ⟨_, _, rfl, fun reason left => iff_of_false nofun nofun, ?_⟩
      rintro step left ⟨⟩ reader fields rest rfl
      refine iff_of_true (readsBack_isoZone .hoursColonMinutes rfl expressed) ?_
      rintro _ ⟨⟩ wide
      exact absurd wide (by decide)
    | width + 3, _ =>
      refine ⟨_, _, rfl, fun reason left => ofToken_letterZ_eq_error_iff (by omega), ?_⟩
      rintro step left made reader fields rest rfl
      obtain ⟨matcher, rule⟩ := rule_of_letterZ (by omega) made
      refine (readsBack_colon_iff rule expressed).trans
        ⟨fun spelled _ _ _ => ⟨matcher, rule, spelled⟩, fun each => ?_⟩
      obtain ⟨same, sameRule, spelled⟩ := each _ rfl (by omega)
      rw [rule] at sameRule
      cases sameRule
      exact spelled

/-- Three Z write the offset of Kolkata with a colon, which they do not read with English names. -/
theorem readStep_unread_kolkata :
    let registry := FormatCache.builtin.registry
    let token := Token.letters 'Z' 3
    token.Measures 19800000 ∧
    ∃ rule step after after',
      WriteRule.ofToken .utc .americanEnglish (Symbols.ofLocale .americanEnglish) token registry =
        .ok rule after ∧
      ReadStep.ofToken .americanEnglish token registry = .ok step after' ∧
      ∀ (reader : Reader) (fields : CalendarFields) (rest : List Char),
        fields.zoneOffset + fields.dstOffset = 19800000 →
        ¬∃ read : Zone, (∀ millis, read.offsetAt millis = 19800000) ∧
          reader.readStep step (rule.write fields ++ rest) = .ok ([.zone read], rest) := by
  intro registry token
  have measured : token.Measures 19800000 := .number (by decide) (by decide)
  -- No English name of a zone begins with a sign.
  have unsigned : ∀ place ∈ ZoneNames.english, ∀ daylight long,
      ((place.name daylight long).front?.any fun first => decide (first.toNat < 0x80) &&
        Text.foldCase (Text.lowerAscii first) != Text.foldCase '+') = true := by
    decide +kernel
  let english := ZoneMatcher.ofTable Region.sample ZoneNames.english
  have apart : ∀ entry ∈ english.names.entries,
      (entry.1.head?.any fun first => Text.foldCase first != Text.foldCase '+') = true := by
    intro entry among
    obtain ⟨place, listed, ⟨_, named⟩, here, key⟩ := ZoneMatcher.mem_entries_ofTable among
    obtain ⟨-, long, -, rfl⟩ := ZoneMatcher.mem_namesOf here
    have begins := unsigned place listed named.daylight long
    rw [String.front?_eq, Option.any_eq_true] at begins
    obtain ⟨first, head, plain⟩ := begins
    rw [Bool.and_eq_true, decide_eq_true_eq] at plain
    rw [← key, Text.head?_lowercase head plain.1]
    exact plain.2
  obtain ⟨rule, after, made, -, exactly⟩ := readStep_written_iff measured .utc
    .americanEnglish (Symbols.ofLocale .americanEnglish) registry registry
  refine ⟨measured, rule, ⟨.zone english, 3, 0⟩, after, _, made, rfl, ?_⟩
  intro reader fields rest total success
  -- If the zone were read back, a name of the table would be spelled like the offset.
  obtain ⟨matcher, same, spelled⟩ :=
    (exactly ⟨.zone english, 3, 0⟩ _ rfl reader fields rest total).mp success 3 rfl (by decide)
  cases same
  have written : OffsetForm.hoursColonMinutes.render 19800000 = "+05:30".toList := by
    decide +kernel
  have unspelled : english.names.take? ("+05:30".toList ++ rest) = none :=
    Lexicon.take?_eq_none apart
  rw [written, unspelled] at spelled
  cases spelled

end Reader

end DatePattern
