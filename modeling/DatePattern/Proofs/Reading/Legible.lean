import DatePattern.Proofs.Reading.Token

/-! Reading a whole text: a legible text is read token by token, up to its end. -/

namespace DatePattern

namespace Token

/-- Whether a token is written as a number. -/
def isNumeric (token : Token) : Bool := token.numberField?.isSome

/-- What lets the piece of text of a token be read where it stands, before the rest of the text. -/
structure Legible (symbols : Symbols) (fields : CalendarFields) (token : Token)
    (piece rest : List Char) (next? : Option Token) : Prop where
  /-- A number directly before a number has as many digits as its token has letters. -/
  filled : token.isNumeric = true → next?.any isNumeric = true →
    piece.length = token.component.length
  /-- Any other number is not followed by a digit. -/
  apart : token.isNumeric = true → next?.any isNumeric = false →
    ∀ c ∈ rest.head?, Text.isAsciiDigit c = false
  /-- A name is recognized as one that means the value of its field. -/
  recognized : ∀ field ∈ token.nameField?,
    Recognized (symbols.displayNames field) (fields.get field) piece rest

instance (symbols : Symbols) (fields : CalendarFields) (token : Token)
    (piece rest : List Char) (next? : Option Token) :
    Decidable (token.Legible symbols fields piece rest next?) :=
  decidable_of_iff
    ((token.isNumeric = true → next?.any isNumeric = true →
        piece.length = token.component.length) ∧
      (token.isNumeric = true → next?.any isNumeric = false →
        (rest.head?.all fun c => !Text.isAsciiDigit c) = true) ∧
      ∀ field ∈ token.nameField?,
        Recognized (symbols.displayNames field) (fields.get field) piece rest)
    ⟨fun ⟨filled, apart, recognized⟩ =>
        ⟨filled, by simpa [Option.all_eq_true] using apart, recognized⟩,
      fun ⟨filled, apart, recognized⟩ =>
        ⟨filled, by simpa [Option.all_eq_true] using apart, recognized⟩⟩

/-- Every piece of a text can be read where it stands. -/
def AllLegible (symbols : Symbols) (fields : CalendarFields) :
    (tokens : List Token) → (pieces : List (List Char)) → Prop
  | token :: tokens, piece :: pieces =>
    token.Legible symbols fields piece pieces.flatten tokens.head? ∧
      AllLegible symbols fields tokens pieces
  | _, _ => True

instance decidableAllLegible (symbols : Symbols) (fields : CalendarFields) :
    (tokens : List Token) → (pieces : List (List Char)) →
      Decidable (AllLegible symbols fields tokens pieces)
  | token :: tokens, piece :: pieces =>
    have := decidableAllLegible symbols fields tokens pieces
    inferInstanceAs (Decidable (token.Legible symbols fields piece pieces.flatten tokens.head? ∧
      AllLegible symbols fields tokens pieces))
  | [], _ => inferInstanceAs (Decidable True)
  | _ :: _, [] => inferInstanceAs (Decidable True)

/-- A token of letters has at least one letter. -/
def HasWidth (token : Token) : Prop := ∀ letter width, token = .letters letter width → 0 < width

/-- A mark in front of tokens makes no token without letters. -/
theorem hasWidth_cons (mark : Mark) {tokens : List Token}
    (widths : ∀ token ∈ tokens, token.HasWidth) : ∀ token ∈ cons mark tokens, token.HasWidth := by
  have literal : ∀ text, (Token.literal text).HasWidth := by
    intro text letter width impossible
    cases impossible
  have letters : ∀ letter width, (Token.letters letter (width + 1)).HasWidth := by
    intro letter width other size same
    cases same
    exact Nat.succ_pos _
  have later : ∀ {first : Token} {rest : List Token}, tokens = first :: rest →
      ∀ token ∈ rest, token.HasWidth := by
    rintro first rest rfl token listed
    exact widths token (List.mem_cons_of_mem _ listed)
  -- A mark either joins the first token or stands in front of all of them.
  unfold cons
  split <;> intro token listed
  · rcases List.mem_cons.mp listed with rfl | among
    · exact literal _
    · exact later rfl token among
  · rcases List.mem_cons.mp listed with rfl | among
    · exact literal _
    · exact widths token among
  · split at listed
    · rcases List.mem_cons.mp listed with rfl | among
      · exact letters _ _
      · exact later rfl token among
    · rcases List.mem_cons.mp listed with rfl | among
      · exact letters _ 0
      · exact widths token among
  · rcases List.mem_cons.mp listed with rfl | among
    · exact letters _ 0
    · exact widths token among

/-- The tokens of a pattern have at least one letter where they are letters. -/
theorem hasWidth_ofPattern {pattern : String} {tokens : List Token}
    (scanned : ofPattern pattern = .ok tokens) : ∀ token ∈ tokens, token.HasWidth := by
  -- By induction on the marks, since one more in front of tokens takes no letter away.
  have general : ∀ marks, ∀ token ∈ ofMarks marks, token.HasWidth := by
    intro marks
    induction marks with
    | nil =>
      intro token impossible
      cases impossible
    | cons mark marks ih => exact hasWidth_cons mark ih
  simp only [ofPattern] at scanned
  split at scanned
  · cases scanned
    exact general _
  · cases scanned

end Token

namespace ReadStep

/-- The step of a token reads digits precisely where the token is written as a number. -/
theorem MadeFor.isNumeric {source : LocaleData} {locale : Locale} {token : Token}
    {step : ReadStep} (made : MadeFor source locale token step) :
    step.rule.isNumeric = token.isNumeric := by
  cases token with
  | literal text =>
    obtain ⟨before, after, -, -, made⟩ := made
    cases made
    rfl
  | letters letter width =>
    obtain ⟨-, -, before, after, -, -, made⟩ := made.rule
    generalize step.rule = rule at made ⊢
    -- Names are not numbers, whichever matcher is found for them.
    have named : ∀ {field}, ReadRule.named locale field before = .ok rule after →
        rule.isNumeric = false := by
      intro field ruled
      obtain ⟨matcher, -, rfl⟩ := ReadRule.named_eq_ok.mp ruled
      rfl
    have zoned : ReadRule.zoneRule locale before = .ok rule after → rule.isNumeric = false := by
      intro ruled
      obtain ⟨matcher, -, rfl⟩ := ReadRule.zoneRule_eq_ok.mp ruled
      rfl
    simp only [ReadRule.ofLetter] at made
    split at made
    -- The letters M, n, X and Z have different rules, or none, at different widths.
    all_goals first
      | exact (named made).trans rfl
      | exact (zoned made).trans rfl
      | (cases made; rfl)
      | contradiction
      | (split at made <;> first
          | exact (zoned made).trans rfl
          | (cases made; rfl)
          | contradiction
          | (cases made; simp [ReadRule.isNumeric, Token.isNumeric, Token.numberField?, *])
          | (rw [named made]; simp [Token.isNumeric, Token.numberField?, *]))

/-- A step has the width of its token, and may read any count of digits by itself. -/
theorem MadeFor.widths {source : LocaleData} {locale : Locale} {token : Token} {step : ReadStep}
    (made : MadeFor source locale token step) :
    (∀ letter width, token = .letters letter width → step.width = width) ∧ step.maxWidth = 0 := by
  -- The width is that of the letters, and bounds are set later on.
  cases token with
  | literal text =>
    obtain ⟨before, after, -, -, made⟩ := made
    cases made
    refine ⟨?_, rfl⟩
    intro letter width impossible
    cases impossible
  | letters letter width =>
    obtain ⟨stepWidth, unbounded, -⟩ := made.rule
    refine ⟨?_, unbounded⟩
    intro other size same
    cases same
    exact stepWidth

/-- Of steps in a row the first one is held to its width if the next one reads digits too. -/
theorem bounded_cons (step : ReadStep) (steps : List ReadStep) :
    ∃ current, bounded (step :: steps) = current :: bounded steps ∧ current.rule = step.rule ∧
      current.maxWidth = if step.rule.isNumeric && steps.head?.any (·.rule.isNumeric) then
        step.width else step.maxWidth := by
  -- The last step has nothing after it, and is never held to its width.
  cases steps with
  | nil => exact ⟨step, rfl, rfl, by simp⟩
  | cons second rest =>
    refine ⟨_, rfl, ?_, ?_⟩
    · split <;> rfl
    · by_cases numbers : (step.rule.isNumeric && second.rule.isNumeric) = true <;>
        simp [numbers]

end ReadStep

/-- The first step reads digits precisely where the first token is written as a number. -/
theorem ReadStep.any_head?_isNumeric {source : LocaleData} {locale : Locale} {tokens : List Token}
    {steps : List ReadStep} (made : List.Forall₂ (MadeFor source locale) tokens steps) :
    steps.head?.any (·.rule.isNumeric) = tokens.head?.any Token.isNumeric := by
  -- There is a first step just where there is a first token.
  cases made with
  | nil => rfl
  | cons first _ => exact first.isNumeric

/-- Fields that tokens write in full: in their ranges, without signs, and in the forms given. -/
structure CalendarFields.Writable (fields : CalendarFields) (tokens : List Token) : Prop where
  /-- The fields that have ranges are in them. -/
  ranges : fields.InRange
  /-- A year that is written has no sign, and is not too large. -/
  year : (∃ token ∈ tokens, token.numberField? = some .year) →
    0 ≤ fields.year ∧ fields.year < 100000000000
  /-- A week year that is written has no sign, and is not too large. -/
  weekYear : (∃ token ∈ tokens, token.numberField? = some .weekYear) →
    0 ≤ fields.weekYear ∧ fields.weekYear < 100000000000
  /-- The nanoseconds are less than a second. -/
  nano : 0 ≤ fields.nanoOfSecond ∧ fields.nanoOfSecond < 1000000000
  /-- The forms of the tokens express the offset. -/
  expressed : ∀ token ∈ tokens, ∀ form ∈ token.offsetForm?,
    form.Expresses (fields.zoneOffset + fields.dstOffset)

/-- Fewer tokens write no more fields. -/
theorem CalendarFields.Writable.tail {fields : CalendarFields} {token : Token}
    {tokens : List Token} (writable : fields.Writable (token :: tokens)) :
    fields.Writable tokens := by
  -- What the later tokens write is among what all of them write.
  have later : ∀ {field : Field}, (∃ other ∈ tokens, other.numberField? = some field) →
      ∃ other ∈ token :: tokens, other.numberField? = some field := by
    rintro field ⟨other, listed, writes⟩
    exact ⟨other, List.mem_cons_of_mem _ listed, writes⟩
  exact ⟨writable.ranges, fun written => writable.year (later written),
    fun written => writable.weekYear (later written), writable.nano,
    fun other listed => writable.expressed other (List.mem_cons_of_mem _ listed)⟩

/--
A legible text is read token by token, up to its end, and each token tells its field.

Steps are held to their widths as they are in a format, where numbers stand directly before numbers.
-/
theorem Reader.readSteps_write (reader : Reader) {zone : Zone} {source : LocaleData}
    {locale : Locale} {fields : CalendarFields} {tokens : List Token} {rules : List WriteRule}
    {steps : List ReadStep}
    (made : List.Forall₂ (WriteRule.MadeFor zone locale (source.symbols locale)) tokens rules)
    (readable : List.Forall₂ (ReadStep.MadeFor source locale) tokens steps)
    (reversible : ∀ token ∈ tokens, token.isReversible = true)
    (widths : ∀ token ∈ tokens, token.HasWidth) (writable : fields.Writable tokens)
    (legible : Token.AllLegible (source.symbols locale) fields tokens
      (rules.map (·.write fields))) :
    ∃ founds, reader.readSteps (ReadStep.bounded steps) (rules.flatMap (·.write fields)) =
        (founds.flatten, .ok []) ∧ List.Forall₂ (Token.Tells fields) tokens founds := by
  -- Along the tokens: what is left of the text after a token is what the later tokens write.
  induction made generalizing steps with
  | nil =>
    cases readable
    exact ⟨[], rfl, .nil⟩
  | @cons token rule tokens rules first others ih =>
    obtain ⟨step, steps, firstStep, otherSteps, rfl⟩ := List.forall₂_cons_left_iff.mp readable
    obtain ⟨legibleHere, legibleLater⟩ := legible
    obtain ⟨founds, read, tell⟩ := ih otherSteps
      (fun other listed => reversible other (List.mem_cons_of_mem _ listed))
      (fun other listed => widths other (List.mem_cons_of_mem _ listed)) writable.tail legibleLater
    obtain ⟨current, bounded, sameRule, maxWidth⟩ := ReadStep.bounded_cons step steps
    obtain ⟨stepWidth, unbounded⟩ := firstStep.widths
    rw [← List.flatMap_def] at legibleHere
    rw [firstStep.isNumeric, ReadStep.any_head?_isNumeric otherSteps, unbounded] at maxWidth
    -- A number ends where its width does before another number, and at the first non-digit else.
    have apart : token.numberField?.isSome = true → Apart current.maxWidth (rule.write fields)
        (rules.flatMap (·.write fields)) := by
      intro numeric
      have isNumeric : token.isNumeric = true := numeric
      rw [maxWidth, isNumeric, Bool.true_and]
      by_cases next : tokens.head?.any Token.isNumeric = true
      · -- The piece fills the width, which is not zero.
        obtain ⟨letter, width, letters⟩ : ∃ letter width, token = .letters letter width := by
          cases token with
          | literal text => cases numeric
          | letters letter width => exact ⟨letter, width, rfl⟩
        have positive := widths token List.mem_cons_self letter width letters
        rw [if_pos next, stepWidth letter width letters, Apart, if_neg (by omega)]
        rw [legibleHere.filled isNumeric next, letters]
        exact List.length_replicate
      · rw [if_neg next, Apart, if_pos rfl]
        exact legibleHere.apart isNumeric (by simpa using next)
    obtain ⟨found, readHere, tells⟩ := readStep_token reader
      (reversible token List.mem_cons_self) first firstStep sameRule apart
      legibleHere.recognized (writable.expressed token List.mem_cons_self) writable.ranges
      (fun writes => writable.year ⟨token, List.mem_cons_self, writes⟩)
      (fun writes => writable.weekYear ⟨token, List.mem_cons_self, writes⟩) writable.nano
    refine ⟨found :: founds, ?_, .cons tells tell⟩
    rw [bounded, List.flatMap_cons, List.flatten_cons]
    simp only [readSteps, readHere, read]
    rfl

end DatePattern
