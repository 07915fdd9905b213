import DatePattern.Proofs.Reading.Legible

/-! Numbers with marks after them are read back without names, whatever text follows the last mark. -/

namespace DatePattern

namespace Reader

variable {reader : Reader} {text rest final : List Char} {found all : List Finding}

/-- Steps succeed when the first one does, and the others do on the rest of the text. -/
theorem readSteps_cons_eq_ok {step : ReadStep} {steps : List ReadStep} :
    reader.readSteps (step :: steps) text = (all, .ok final) ↔
      ∃ found rest later, reader.readStep step text = .ok (found, rest) ∧
        reader.readSteps steps rest = (later, .ok final) ∧ all = found ++ later := by
  rw [readSteps]
  constructor
  · intro read
    -- The first step is settled before the others, whose findings follow its own.
    cases first : reader.readStep step text with
    | error skipped =>
      rw [first] at read
      cases read
    | ok answer =>
      obtain ⟨found, rest⟩ := answer
      simp only [first] at read
      rcases others : reader.readSteps steps rest with ⟨later, outcome⟩
      rw [others] at read
      obtain ⟨rfl, ended⟩ := Prod.mk.inj read
      cases outcome with
      | error skipped => cases ended
      | ok last =>
        cases ended
        exact ⟨found, rest, later, rfl, others, rfl⟩
  · rintro ⟨found, rest, later, first, others, rfl⟩
    simp only [first, others]
    rfl

/-- Steps in two parts succeed when the first part does, and the second does on the rest of the text. -/
theorem readSteps_append_eq_ok {first second : List ReadStep} :
    reader.readSteps (first ++ second) text = (all, .ok final) ↔
      ∃ found rest later, reader.readSteps first text = (found, .ok rest) ∧
        reader.readSteps second rest = (later, .ok final) ∧ all = found ++ later := by
  -- The steps of the first part are taken off one by one.
  induction first generalizing text all with
  | nil =>
    constructor
    · intro read
      exact ⟨[], text, all, rfl, read, rfl⟩
    · rintro ⟨found, rest, later, none, read, rfl⟩
      cases none
      exact read
  | cons step first ih =>
    rw [List.cons_append, readSteps_cons_eq_ok]
    constructor
    · rintro ⟨found, rest, later, here, read, rfl⟩
      obtain ⟨more, reached, last, begun, ended, rfl⟩ := ih.mp read
      exact ⟨found ++ more, reached, last,
        readSteps_cons_eq_ok.mpr ⟨found, rest, more, here, begun, rfl⟩, ended,
        (List.append_assoc ..).symm⟩
    · rintro ⟨found, reached, last, read, ended, rfl⟩
      obtain ⟨here, rest, more, step, begun, rfl⟩ := readSteps_cons_eq_ok.mp read
      exact ⟨here, rest, more ++ last, step, ih.mpr ⟨more, reached, last, begun, ended, rfl⟩,
        List.append_assoc ..⟩

/-- Literal text at the end of a text is what is left of it, and nothing is found there. -/
theorem eq_of_readSteps_literal {lead : List Char} {width maxWidth : Nat}
    (read : reader.readSteps [⟨.literal lead, width, maxWidth⟩] text = (all, .ok [])) :
    text = lead ∧ all = [] := by
  -- There is one step, and it leaves nothing.
  obtain ⟨found, rest, later, here, nothing, rfl⟩ := readSteps_cons_eq_ok.mp read
  cases nothing
  simp only [readStep] at here
  -- The literal leaves nothing over, so it was the whole text.
  cases after : Text.after? lead text with
  | none =>
    rw [after] at here
    cases here
  | some unread =>
    rw [after] at here
    cases here
    rw [Text.after?_eq_some_iff, List.append_nil] at after
    exact ⟨after, rfl⟩

end Reader

namespace Token

/-- Literal text tells nothing. -/
theorem Tells.eq_nil_of_literal {fields : CalendarFields} {text : List Char}
    {found : List Finding} (tells : Tells fields (.literal text) found) : found = [] := by
  -- Literal text is no field and no offset, which leaves the constructor that finds nothing.
  cases tells with
  | literal => rfl
  | field writes => cases writes
  | weekYear writes => cases writes
  | offset writes => cases writes

/-- Whether tokens begin with literal text whose first character is no digit. -/
def beginsMark : List Token → Bool
  | .literal (c :: _) :: _ => !Text.isAsciiDigit c
  | _ => false

/-- Whether each number among tokens is followed by a mark, and none is written by its name. -/
def isMarked : List Token → Bool
  | [] => true
  | token :: tokens =>
    token.nameField?.isNone && (!token.isNumeric || beginsMark tokens) && isMarked tokens

/-- Tokens that begin with a mark begin with literal text. -/
theorem beginsMark_eq_true {tokens : List Token} (begins : beginsMark tokens = true) :
    ∃ c text rest, tokens = .literal (c :: text) :: rest ∧ Text.isAsciiDigit c = false := by
  -- The definition looks at the first character of a first literal text.
  unfold beginsMark at begins
  split at begins
  next c text rest => exact ⟨c, text, rest, rfl, by simpa using begins⟩
  next => cases begins

/-- A first token that is marked has no name, and is no number unless a mark follows. -/
theorem isMarked_cons {token : Token} {tokens : List Token} :
    isMarked (token :: tokens) = true ↔ token.nameField? = none ∧
      (token.isNumeric = true → beginsMark tokens = true) ∧ isMarked tokens = true := by
  -- The condition of the definition holds at once for a token that is no number.
  rw [isMarked, Bool.and_eq_true, Bool.and_eq_true, Option.isNone_iff_eq_none, and_assoc]
  cases token.isNumeric <;> simp

/-- Literal text may follow marked tokens. -/
theorem isMarked_concat {tokens : List Token} (marked : isMarked tokens = true)
    (text : List Char) : isMarked (tokens ++ [.literal text]) = true := by
  -- A mark that follows a number in front follows it still.
  induction tokens with
  | nil => rfl
  | cons token tokens ih =>
    obtain ⟨unnamed, mark, later⟩ := isMarked_cons.mp marked
    refine isMarked_cons.mpr ⟨unnamed, fun numeric => ?_, ih later⟩
    obtain ⟨c, more, rest, rfl, notDigit⟩ := beginsMark_eq_true (mark numeric)
    simp [beginsMark, notDigit]

/-- Every piece of a text of marked tokens can be read where it stands. -/
theorem allLegible_of_isMarked {zone : Zone} {locale : Locale} {symbols : Symbols}
    (fields : CalendarFields) {tokens : List Token} {rules : List WriteRule}
    (made : List.Forall₂ (WriteRule.MadeFor zone locale symbols) tokens rules)
    (marked : isMarked tokens = true) :
    AllLegible symbols fields tokens (rules.map (·.write fields)) := by
  -- The tokens are gone through, each with the pieces that follow its own.
  induction made with
  | nil => trivial
  | @cons token rule tokens rules _ others ih =>
    obtain ⟨unnamed, mark, later⟩ := isMarked_cons.mp marked
    refine ⟨⟨?_, ?_, ?_⟩, ih later⟩
    · intro numeric next
      obtain ⟨c, text, rest, rfl, -⟩ := beginsMark_eq_true (mark numeric)
      cases next
    · -- The rule of the literal text writes it, so that its first character comes next.
      intro numeric _
      obtain ⟨c, text, rest, rfl, notDigit⟩ := beginsMark_eq_true (mark numeric)
      cases others with
      | cons literal _ =>
        obtain ⟨before, after, made⟩ := literal
        cases made
        intro next head
        cases head
        exact notDigit
    · rw [unnamed]
      exact nofun

end Token

/-- No step of marked tokens is held to its width. -/
theorem ReadStep.bounded_of_isMarked {source : LocaleData} {locale : Locale} {tokens : List Token}
    {steps : List ReadStep} (made : List.Forall₂ (MadeFor source locale) tokens steps)
    (marked : Token.isMarked tokens = true) : bounded steps = steps := by
  -- A step is bounded by the one after it, so two of them are looked at together.
  induction made with
  | nil => rfl
  | @cons token step tokens steps first others ih =>
    obtain ⟨-, mark, later⟩ := Token.isMarked_cons.mp marked
    cases others with
    | nil => rfl
    | @cons second _ _ _ next =>
      -- After a number comes literal text, which reads no digits.
      have apart : (token.isNumeric && second.isNumeric) = false := by
        cases numeric : token.isNumeric with
        | false => rfl
        | true =>
          obtain ⟨c, text, rest, same, -⟩ := Token.beginsMark_eq_true (mark numeric)
          cases same
          rfl
      rw [bounded, first.isNumeric, next.isNumeric, apart, ih later]
      rfl

/-- Literal text adds nothing to what is written in full. -/
theorem CalendarFields.Writable.concat {fields : CalendarFields} {tokens : List Token}
    (writable : fields.Writable tokens) (text : List Char) :
    fields.Writable (tokens ++ [.literal text]) := by
  -- The literal is no number, so every number was among the tokens before.
  have earlier : ∀ {field : Field},
      (∃ token ∈ tokens ++ [.literal text], token.numberField? = some field) →
        ∃ token ∈ tokens, token.numberField? = some field := by
    rintro field ⟨token, listed, written⟩
    rcases List.mem_append.mp listed with front | last
    · exact ⟨token, front, written⟩
    · rw [List.mem_singleton.mp last] at written
      cases written
  refine ⟨writable.ranges, fun written => writable.year (earlier written),
    fun written => writable.weekYear (earlier written), writable.nano, ?_⟩
  intro token listed
  rcases List.mem_append.mp listed with front | last
  · exact writable.expressed token front
  · rw [List.mem_singleton.mp last]
    exact nofun

/-- What marked tokens write is read token by token, up to the text that follows. -/
theorem Reader.readSteps_marked (reader : Reader) {zone : Zone} {source : LocaleData}
    {locale : Locale} {fields : CalendarFields} {tokens : List Token} {rules : List WriteRule}
    {steps : List ReadStep}
    (made : List.Forall₂ (WriteRule.MadeFor zone locale (source.symbols locale)) tokens rules)
    (readable : List.Forall₂ (ReadStep.MadeFor source locale) tokens steps)
    (reversible : ∀ token ∈ tokens, token.isReversible = true)
    (widths : ∀ token ∈ tokens, token.HasWidth) (writable : fields.Writable tokens)
    (marked : Token.isMarked tokens = true) (rest : List Char) :
    ∃ founds, reader.readSteps steps (rules.flatMap (·.write fields) ++ rest) =
        (founds.flatten, .ok rest) ∧ List.Forall₂ (Token.Tells fields) tokens founds := by
  -- The text that follows is taken for literal text, which is read as such to its end.
  let registry : Registry :=
    { defaults := ⟨.utc, locale, 0⟩, localeData := source, regions := [], now := 0 }
  have madeAll : List.Forall₂ (WriteRule.MadeFor zone locale (source.symbols locale))
      (tokens ++ [.literal rest]) (rules ++ [.literal rest]) :=
    List.rel_append made (.cons ⟨registry, registry, rfl⟩ .nil)
  have readableAll : List.Forall₂ (ReadStep.MadeFor source locale) (tokens ++ [.literal rest])
      (steps ++ [⟨.literal rest, Text.byteLength rest, 0⟩]) :=
    List.rel_append readable
      (.cons ⟨registry, registry, Registry.faithful_new rfl rfl, rfl, rfl⟩ .nil)
  have markedAll := Token.isMarked_concat marked rest
  have ends : ∀ {holds : Token → Prop}, (∀ token ∈ tokens, holds token) → holds (.literal rest) →
      ∀ token ∈ tokens ++ [.literal rest], holds token := by
    intro holds front last token listed
    rcases List.mem_append.mp listed with early | late
    · exact front token early
    · rwa [List.mem_singleton.mp late]
  -- Read to its end, the text gives what each token tells, the last of them nothing.
  obtain ⟨founds, read, tell⟩ := reader.readSteps_write madeAll readableAll (ends reversible rfl)
    (ends widths nofun) (writable.concat rest)
    (Token.allLegible_of_isMarked fields madeAll markedAll)
  rw [ReadStep.bounded_of_isMarked readableAll markedAll, readSteps_append_eq_ok] at read
  obtain ⟨found, reached, later, begun, ended, all⟩ := read
  obtain ⟨rfl, rfl⟩ := eq_of_readSteps_literal ended
  -- The findings are parted where the tokens are.
  have front := (List.forall₂_take_append _ tokens [.literal reached] tell.flip).flip
  have back := (List.forall₂_drop_append _ tokens [.literal reached] tell.flip).flip
  obtain ⟨silent, _, quiet, none, single⟩ := List.forall₂_cons_left_iff.mp back
  cases none
  rw [← List.take_append_drop tokens.length founds, single, quiet.eq_nil_of_literal,
    List.flatten_append, List.append_nil] at all
  refine ⟨founds.take tokens.length, ?_, front⟩
  have written : (rules ++ [WriteRule.literal reached]).flatMap (·.write fields) =
      rules.flatMap (·.write fields) ++ reached := by
    rw [List.flatMap_append]
    exact congrArg (_ ++ ·) (List.append_nil reached)
  rw [← written, begun, ← all]
  exact congrArg (·, _) (List.append_nil _)

end DatePattern
