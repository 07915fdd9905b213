import DatePattern.Proofs.Reading.Marked
import DatePattern.Proofs.Reading.Steps

/-! Where findings come from: what each token may tell, and what is known from some tokens. -/

namespace DatePattern

/-- What a rule may find in a text. -/
inductive ReadRule.MayFind : ReadRule → Finding → Prop
  /-- A number is a value of its field. -/
  | number (field : Field) (modifier : Modifier) (value : Int) :
      MayFind (.number field modifier) (.value field value)
  /-- A fraction is a number of nanoseconds. -/
  | fraction (value : Int) : MayFind .fraction (.value .nanoOfSecond value)
  /-- A name is a value of the field that it belongs to. -/
  | text (matcher : TextMatcher) (value : Int) :
      MayFind (.text matcher) (.value matcher.field value)
  /-- An offset is a zone. -/
  | zone (matcher : ZoneMatcher) (zone : Zone) : MayFind (.zone matcher) (.zone zone)
  /-- A name of a zone is two parts of an offset. -/
  | parts (matcher : ZoneMatcher) {field : Field}
      (part : field = .dstOffset ∨ field = .zoneOffset) (value : Int) :
      MayFind (.zone matcher) (.value field value)
  /-- An offset in an ISO form is a zone. -/
  | isoZone (form : OffsetForm) (zone : Zone) : MayFind (.isoZone form) (.zone zone)

/-- What reading a token may find: its field, or the zone or the parts of the offset. -/
inductive Token.MayFind : Token → Finding → Prop
  /-- A value of the field of the token. -/
  | field {token : Token} {field : Field} (own : token.field? = some field) (value : Int) :
      MayFind token (.value field value)
  /-- A zone, where the letter is one of those for offsets. -/
  | zone {letter : Char} (width : Nat) (offset : letter ∈ ['X', 'Z', 'z']) (zone : Zone) :
      MayFind (.letters letter width) (.zone zone)
  /-- A part of an offset, where the letter reads names of zones at this width. -/
  | part {letter : Char} {width : Nat} (named : letter = 'z' ∨ letter = 'Z' ∧ width ≠ 2)
      {field : Field} (part : field = .dstOffset ∨ field = .zoneOffset) (value : Int) :
      MayFind (.letters letter width) (.value field value)

/-- A step finds only what its rule may find. -/
theorem Reader.mayFind_of_readStep {reader : Reader} {step : ReadStep} {text rest : List Char}
    {found : List Finding} (read : reader.readStep step text = .ok (found, rest)) :
    ∀ finding ∈ found, step.rule.MayFind finding := by
  have ends := reader.ends_readStep step text
  rw [read] at ends
  generalize step.rule = rule at ends ⊢
  -- Every kind of step has one way to succeed, and tells there what its rule says.
  cases ends with
  | number => exact List.forall_mem_singleton.mpr (.number _ _ _)
  | fraction => exact List.forall_mem_singleton.mpr (.fraction _)
  | literal => exact nofun
  | text => exact List.forall_mem_singleton.mpr (.text _ _)
  | @zone matcher mention =>
    cases mention with
    | offset zone => exact List.forall_mem_singleton.mpr (.zone matcher zone)
    | named zone =>
      exact List.forall_mem_cons.mpr ⟨.parts matcher (.inl rfl) _,
        List.forall_mem_singleton.mpr (.parts matcher (.inr rfl) _)⟩
  | isoZone => exact List.forall_mem_singleton.mpr (.isoZone _ _)

/-- What the rule for a letter may find belongs to its token. -/
theorem ReadRule.mayFind_ofLetter {locale : Locale} {letter : Char} {width : Nat}
    {before after : Registry} {rule : ReadRule} (faithful : before.Faithful)
    (ruled : ofLetter locale letter width before = .ok rule after) {finding : Finding}
    (may : rule.MayFind finding) : (Token.letters letter width).MayFind finding := by
  have named : ∀ {field}, named locale field before = .ok rule after →
      (Token.letters letter width).field? = some field →
      (Token.letters letter width).MayFind finding := by
    intro field ruled own
    -- A matcher that was kept is the one for this field.
    rw [eq_of_named faithful ruled] at may
    cases may with
    | text _ value => exact .field own value
  -- A matcher for zones finds a zone, or the parts of an offset.
  have zoned : zoneRule locale before = .ok rule after →
      letter = 'z' ∨ letter = 'Z' ∧ width ≠ 2 →
      (Token.letters letter width).MayFind finding := by
    intro ruled either
    rw [eq_of_zoneRule faithful ruled] at may
    cases may with
    | zone _ zone => exact .zone width (by rcases either with rfl | ⟨rfl, -⟩ <;> simp) zone
    | parts _ part value => exact .part either part value
  simp only [ofLetter] at ruled
  split at ruled
  -- Most letters have one rule; M, n, X and Z have one that depends on the width.
  all_goals first
    | exact named ruled rfl
    | exact zoned ruled (.inl rfl)
    | (cases ruled; done)
    | (cases ruled; cases may; exact .field rfl _)
    | skip
  · split at ruled
    next wide =>
      exact named ruled (by simp [Token.field?, Token.numberField?, Token.nameField?, wide])
    next narrow =>
      cases ruled
      cases may
      exact .field (by simp [Token.field?, Token.numberField?, narrow]) _
  · split at ruled
    next => cases ruled
    next =>
      cases ruled
      cases may
      exact .field rfl _
  · split at ruled
    all_goals first
      | (cases ruled; cases may; exact .zone _ (by simp) _)
      | cases ruled
  · split at ruled
    next =>
      cases ruled
      cases may
      exact .zone width (by simp) _
    next other => exact zoned ruled (.inr ⟨rfl, other⟩)

/-- What the step of a token may find belongs to the token. -/
theorem ReadStep.MadeFor.mayFind {source : LocaleData} {locale : Locale} {token : Token}
    {step : ReadStep} (made : MadeFor source locale token step) {finding : Finding}
    (may : step.rule.MayFind finding) : token.MayFind finding := by
  -- Literal text has no findings, and a letter has the rule that it was given.
  cases token with
  | literal text =>
    obtain ⟨before, after, -, -, made⟩ := made
    cases made
    cases may
  | letters letter width =>
    obtain ⟨-, -, before, after, faithful, -, ruled⟩ := made.rule
    exact ReadRule.mayFind_ofLetter faithful ruled may

/-- A step that finds only what belongs to a token. -/
def ReadStep.FindsFor (token : Token) (step : ReadStep) : Prop :=
  ∀ finding, step.rule.MayFind finding → token.MayFind finding

/-- The steps of a compiled format find what belongs to its tokens. -/
theorem Format.CompiledFrom.findsFor {format : Format} {tokens : List Token} {source : LocaleData}
    (made : format.CompiledFrom tokens source) :
    List.Forall₂ ReadStep.FindsFor tokens format.reader.steps := by
  -- The rules are those that the tokens have by themselves, with other greatest widths only.
  obtain ⟨steps, bounds, each⟩ := made.steps
  rw [bounds]
  refine ReadStep.forall₂_bounded (fun _ _ _ own => own) (each.imp fun token step own => ?_)
  exact fun finding may => own.mayFind may

/-- Fields and a zone that were all found by some tokens. -/
structure Collected.FoundBy (collected : Collected) (tokens : List Token) : Prop where
  /-- Each value is one that a token may find. -/
  value : ∀ field value, collected.value? field = some value →
    ∃ token ∈ tokens, token.MayFind (.value field value)
  /-- The zone is one that a token may find. -/
  zone : ∀ zone, collected.zone? = some zone → ∃ token ∈ tokens, token.MayFind (.zone zone)

namespace Collected

variable {collected : Collected} {tokens : List Token}

/-- Nothing known needs no tokens. -/
theorem foundBy_empty (tokens : List Token) : empty.FoundBy tokens :=
  -- There is no value and no zone.
  ⟨nofun, nofun⟩

/-- Taking in what a token may find needs no other tokens. -/
theorem FoundBy.add (known : collected.FoundBy tokens) {finding : Finding}
    (may : ∃ token ∈ tokens, token.MayFind finding) : (collected.add finding).FoundBy tokens := by
  -- A finding replaces at most one value or the zone.
  cases finding with
  | zone zone =>
    refine ⟨known.value, ?_⟩
    intro other same
    cases same
    exact may
  | value field value =>
    refine ⟨?_, known.zone⟩
    intro other current same
    -- The field that is set has the value just found, and all others are as they were.
    by_cases own : other = field
    · subst own
      simp only [Collected.add, value?_set_self, Option.some.injEq] at same
      rw [← same]
      exact may
    · simp only [Collected.add, value?_set_of_ne _ _ own] at same
      exact known.value other current same

/-- Taking in what tokens may find needs no other tokens. -/
theorem FoundBy.addAll (known : collected.FoundBy tokens) {findings : List Finding}
    (may : ∀ finding ∈ findings, ∃ token ∈ tokens, token.MayFind finding) :
    (collected.addAll findings).FoundBy tokens := by
  -- The findings are taken in one after the other.
  induction findings generalizing collected with
  | nil => exact known
  | cons finding findings ih =>
    obtain ⟨here, later⟩ := List.forall_mem_cons.mp may
    exact ih (known.add here) later

end Collected

namespace Reader

variable {reader : Reader} {tokens : List Token} {text rest : List Char} {found : List Finding}

/-- Steps that succeed find what belongs to their tokens. -/
theorem mayFind_of_readSteps {steps : List ReadStep}
    (own : List.Forall₂ ReadStep.FindsFor tokens steps)
    (read : reader.readSteps steps text = (found, .ok rest)) :
    ∀ finding ∈ found, ∃ token ∈ tokens, token.MayFind finding := by
  -- Each token is read by its own step, and the ones after it by theirs.
  induction own generalizing text found with
  | nil =>
    cases read
    exact nofun
  | @cons token step tokens steps first others ih =>
    obtain ⟨here, reached, later, begun, ended, rfl⟩ := readSteps_cons_eq_ok.mp read
    intro finding listed
    rcases List.mem_append.mp listed with among | among
    · exact ⟨token, List.mem_cons_self, first finding (mayFind_of_readStep begun finding among)⟩
    · obtain ⟨other, among, may⟩ := ih ended finding among
      exact ⟨other, List.mem_cons_of_mem _ among, may⟩

end Reader

end DatePattern
