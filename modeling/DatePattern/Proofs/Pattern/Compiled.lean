import DatePattern.Proofs.Cache
import DatePattern.Proofs.Pattern.Language
import DatePattern.Proofs.Registry.MadeFrom

/-!
Which patterns compile, and for which reason the others do not, on the writing and the reading side alike.

The reading side asks for matchers, so that what fails there is only known of registries for which every expression can
be built. The writing side fails alike in every registry.
-/

namespace DatePattern

namespace Compiling

variable {α β : Type} {kind : Registry → Prop}

/-- A computation that fails for one reason on all registries of a kind, or on none and leaves one of the kind. -/
def FailsWith (kind : Registry → Prop) (compute : Compiling α) :
    (fault : Option PatternError) → Prop
  | none => ∀ before, kind before → ∃ result after, compute before = .ok result after ∧ kind after
  | some reason => ∀ before, kind before → ∃ after, compute before = .error reason after

/-- A result that is there already does not fail. -/
theorem failsWith_pure (value : α) : FailsWith kind (pure value) none :=
  -- It has its result in every registry, which it leaves as it was.
  fun before own => ⟨value, before, rfl, own⟩

/-- A computation that throws fails for the reason it gives. -/
theorem failsWith_throw (reason : PatternError) :
    FailsWith kind (throw reason : Compiling α) (some reason) := fun before _ => ⟨before, rfl⟩

/-- A change of the registry does not fail. -/
theorem failsWith_modifyGet {change : Registry → α × Registry}
    (kept : ∀ before, kind before → kind (change before).2) :
    FailsWith kind (modifyGet change) none := fun before own => ⟨_, _, rfl, kept before own⟩

/-- Looking at the registry does not fail, and leaves it as it is. -/
theorem failsWith_get : FailsWith kind (get : Compiling Registry) none :=
  fun before own => ⟨before, before, rfl, own⟩

/-- Two computations in a row fail for the reason of the first, or else for that of the second. -/
theorem FailsWith.bind {first : Compiling α} {next : α → Compiling β}
    {fault fault' : Option PatternError} (early : FailsWith kind first fault)
    (late : ∀ value, FailsWith kind (next value) fault') :
    FailsWith kind (first >>= next) (fault.or fault') := by
  cases fault with
  -- An error of the first computation ends both.
  | some reason =>
    intro before own
    obtain ⟨after, failed⟩ := early before own
    refine ⟨after, ?_⟩
    show (EStateM.bind first next) before = _
    rw [EStateM.bind, failed]
  | none =>
    -- The first computation succeeds, so that the second one decides on whatever registry is left.
    have continued : ∀ before, kind before → ∃ value middle, kind middle ∧
        (first >>= next) before = next value middle := by
      intro before own
      obtain ⟨value, middle, begun, left⟩ := early before own
      refine ⟨value, middle, left, ?_⟩
      show (EStateM.bind first next) before = _
      rw [EStateM.bind, begun]
    cases fault' with
    | none =>
      intro before own
      obtain ⟨value, middle, left, same⟩ := continued before own
      rw [same]
      exact late value middle left
    | some reason =>
      intro before own
      obtain ⟨value, middle, left, same⟩ := continued before own
      rw [same]
      exact late value middle left

/-- Applying a function to the result changes no reason. -/
theorem FailsWith.map {compute : Compiling α} {fault : Option PatternError}
    (fails : FailsWith kind compute fault) (f : α → β) : FailsWith kind (f <$> compute) fault := by
  -- What is applied is a second computation, without a fault of its own.
  rw [map_eq_pure_bind, ← Option.or_none (o := fault)]
  exact fails.bind fun value => failsWith_pure (f value)

/-- A list is given up at its first item that fails. -/
theorem failsWith_mapM {step : α → Compiling β} {fault? : α → Option PatternError}
    (each : ∀ item, FailsWith kind (step item) (fault? item)) (items : List α) :
    FailsWith kind (items.mapM step) (items.findSome? fault?) := by
  -- The fault of a list is that of its first item, or else that of the others.
  induction items with
  | nil => exact failsWith_pure []
  | cons item items ih =>
    have rest : FailsWith kind (List.mapM step (item :: items))
        ((fault? item).or ((items.findSome? fault?).or none)) := by
      rw [List.mapM_cons]
      exact (each item).bind fun result => ih.bind fun results => failsWith_pure _
    -- Putting the results together adds no fault.
    rw [Option.or_none] at rest
    rw [List.findSome?_cons]
    cases found : fault? item with
    | none => simpa [found] using rest
    | some reason => simpa [found] using rest

/-- A computation that fails for a known reason succeeds precisely where there is none. -/
theorem FailsWith.ok_iff {compute : Compiling α} {fault : Option PatternError}
    (fails : FailsWith kind compute fault) {before : Registry} (own : kind before) :
    (∃ result after, compute before = .ok result after) ↔ fault = none := by
  -- With no fault the computation has a result, and with one it has an error instead.
  cases fault with
  | none =>
    obtain ⟨result, after, made, -⟩ := fails before own
    exact iff_of_true ⟨result, after, made⟩ rfl
  | some reason =>
    obtain ⟨after, failed⟩ := fails before own
    simp [failed]

/-- A computation that fails for a known reason fails for no other. -/
theorem FailsWith.error_iff {compute : Compiling α} {fault : Option PatternError}
    (fails : FailsWith kind compute fault) {before : Registry} (own : kind before)
    (reason : PatternError) :
    (∃ after, compute before = .error reason after) ↔ fault = some reason := by
  -- A computation ends in one way only, so that no result and no other error is left.
  cases fault with
  | none =>
    obtain ⟨result, after, made, -⟩ := fails before own
    simp [made]
  | some other =>
    obtain ⟨after, failed⟩ := fails before own
    simp [failed]

end Compiling

/-- Offsets of the letter X have one to three letters. -/
theorem Token.fault?_iso (width : Nat) : (letters 'X' width).fault? =
    if width = 0 ∨ 3 < width then some .invalidIsoWidth else none := by
  -- The letter X is among the known ones, so that its width decides.
  rw [fault?, if_neg (by decide)]
  simp

/-- Digits of the letter n are nine at most. -/
theorem Token.fault?_fraction (width : Nat) : (letters 'n' width).fault? =
    if 9 < width then some (.invalidFractionWidth width) else none := by
  -- The letter n is among the known ones, so that its width decides.
  rw [fault?, if_neg (by decide)]
  simp

/-- A letter that stands for nothing is a fault at every width. -/
theorem Token.fault?_unknown {letter : Char} (unknown : letter ∉ "GyYMdHhKkmsSEuDFwWazZXn".toList)
    (width : Nat) : (letters letter width).fault? =
      some (.illegalComponent (String.ofList (letters letter width).component)) := by
  -- The letter is looked for among all that have a meaning, before any width counts.
  rw [fault?, if_pos unknown, component]

open Compiling

section

variable {kind : Registry → Prop}

/-- A choice by the width of an offset of the letter X fails for the fault of that width. -/
theorem Compiling.failsWith_iso {α : Type} (made : OffsetForm → α) (width : Nat) :
    FailsWith kind (match width with
      | 1 => (return made .hours : Compiling α)
      | 2 => return made .hoursMinutes
      | 3 => return made .hoursColonMinutes
      | _ => throw .invalidIsoWidth) (Token.letters 'X' width).fault? := by
  rw [Token.fault?_iso]
  split
  · exact failsWith_pure _
  · exact failsWith_pure _
  · exact failsWith_pure _
  · -- Any other width is at fault, zero included.
    next notOne notTwo notThree =>
    rw [imp_false] at notOne notTwo notThree
    have wrong : width = 0 ∨ 3 < width := by omega
    rw [if_pos wrong]
    exact failsWith_throw _

/-- A choice by the width of a fraction of the letter n fails for the fault of that width. -/
theorem Compiling.failsWith_fraction {α : Type} (made : α) (width : Nat) :
    FailsWith kind (if 9 < width then throw (.invalidFractionWidth width)
      else (return made : Compiling α)) (Token.letters 'n' width).fault? := by
  -- The test is the one that the fault is defined by.
  rw [Token.fault?_fraction]
  split
  · exact failsWith_throw _
  · exact failsWith_pure _

/-- The write rule of a token fails for the fault of the token, in every registry. -/
theorem WriteRule.failsWith_ofToken (kept : Registry.KeptByUse kind) (zone : Zone)
    (locale : Locale) (symbols : Symbols) (token : Token) :
    FailsWith kind (ofToken zone locale symbols token) token.fault? := by
  cases token with
  | literal verbatim => exact failsWith_pure _
  | letters letter width =>
    simp only [ofToken, ofLetter]
    split
    -- Most letters have a rule at every width; X and n depend on it, and z and Z ask for more.
    all_goals first
      | exact failsWith_pure _
      | exact failsWith_iso isoZone width
      | exact failsWith_fraction _ width
      | skip
    · -- The names of a zone are looked up twice, and are always found.
      exact (failsWith_modifyGet fun registry => kept.zoneName registry _).bind fun standard =>
        (failsWith_modifyGet fun registry => kept.zoneName registry _).bind
          fun daylight => failsWith_pure _
    · split <;> exact failsWith_pure _
    · -- No rule is left, and the letter is none of the known ones.
      have unknown : letter ∉ "GyYMdHhKkmsSEuDFwWazZXn".toList := by
        simp_all
      rw [Token.fault?_unknown unknown]
      exact failsWith_throw _

end

/-- A registry for which every expression can be built stays one under the three requests. -/
theorem Registry.keptByUse_accepts : KeptByUse Accepts where
  -- What can be built is settled when a registry is set up, which no request changes.
  textMatcher := fun field locale registry accepts =>
    accepts.setUpAs ((keptByUse_setUpAs registry).textMatcher field locale registry (.refl _))
  zoneMatcher := fun locale registry accepts =>
    accepts.setUpAs ((keptByUse_setUpAs registry).zoneMatcher locale registry (.refl _))
  zoneName := fun registry key accepts =>
    accepts.setUpAs ((keptByUse_setUpAs registry).zoneName registry key (.refl _))

/-- A map answers a value if one is computed for every key that is missing. -/
theorem OnceMap.getOrTry_ok {κ α ε : Type} [DecidableEq κ] (map : OnceMap κ α) (key : κ)
    {value : α} : ∃ found, (map.getOrTry key fun _ => (.ok value : Except ε α)).1 = .ok found := by
  -- A kept value is answered, and otherwise the computed one is inserted.
  cases kept : map.get? key with
  | some found => exact ⟨found, by simp only [getOrTry, kept]⟩
  | none => exact ⟨_, by simp only [getOrTry, kept]; rfl⟩

/-- Where every expression can be built there is a matcher for every field. -/
theorem Registry.failsWith_textMatcher (field : Field) (locale : Locale) :
    FailsWith Accepts (textMatcher field locale) none := by
  intro before accepts
  have looked := textMatcher_eq before field locale
  -- A matcher that is not kept is built.
  obtain ⟨_, built⟩ := accepts.buildText field locale
  rw [built] at looked
  obtain ⟨matcher, found⟩ := before.textMatchers.getOrTry_ok (ε := PatternError) (field, locale)
  rw [found] at looked
  exact ⟨matcher, _, looked, accepts⟩

/-- Where every expression can be built there is a matcher for zones. -/
theorem Registry.failsWith_zoneMatcher (locale : Locale) :
    FailsWith Accepts (zoneMatcher locale) none := by
  intro before accepts
  have looked := zoneMatcher_eq before locale
  -- As for a field, a matcher that is not kept is built.
  obtain ⟨_, built⟩ := accepts.buildZones locale
  rw [built] at looked
  obtain ⟨matcher, found⟩ := before.zoneMatchers.getOrTry_ok (ε := PatternError) locale
  rw [found] at looked
  exact ⟨matcher, _, looked, accepts⟩

/-- The rule that reads a letter fails for the fault of its token. -/
theorem ReadRule.failsWith_ofLetter (locale : Locale) (letter : Char) (width : Nat) :
    FailsWith Registry.Accepts (ofLetter locale letter width)
      (Token.letters letter width).fault? := by
  have named : ∀ field, FailsWith Registry.Accepts (ReadRule.named locale field) none :=
    fun field => (Registry.failsWith_textMatcher field locale).map _
  have zoned : FailsWith Registry.Accepts (zoneRule locale) none :=
    (Registry.failsWith_zoneMatcher locale).map _
  simp only [ofLetter]
  split
  -- Here the rules of names and zones come from the registry, which has a matcher for each of them.
  all_goals first
    | exact failsWith_pure _
    | exact named _
    | exact zoned
    | exact failsWith_iso isoZone width
    | exact failsWith_fraction _ width
    | skip
  -- Months and offsets have rules that their width chooses.
  · split
    · exact named _
    · exact failsWith_pure _
  · split
    · exact failsWith_pure _
    · exact zoned
  · have unknown : letter ∉ "GyYMdHhKkmsSEuDFwWazZXn".toList := by
      simp_all
    rw [Token.fault?_unknown unknown]
    exact failsWith_throw _

/-- The read step of a token fails for the fault of the token. -/
theorem ReadStep.failsWith_ofToken (locale : Locale) (token : Token) :
    FailsWith Registry.Accepts (ofToken locale token) token.fault? := by
  -- Nothing is added to the rule that could fail.
  cases token with
  | literal verbatim => exact failsWith_pure _
  | letters letter width =>
    rw [← Option.or_none (o := Token.fault? _)]
    exact (ReadRule.failsWith_ofLetter locale letter width).bind fun rule => failsWith_pure _

/-- A step that a token has on the reading side, whatever bounds its neighbours set to its digits. -/
def ReadStep.Serves (locale : Locale) (token : Token) (step : ReadStep) : Prop :=
  ∃ made before after, ofToken locale token before = .ok made after ∧
    step.rule = made.rule ∧ step.width = made.width

/-- Holding numbers to their width leaves every step in its place. -/
theorem ReadStep.serves_bounded {locale : Locale} {tokens : List Token} {steps : List ReadStep}
    (serves : List.Forall₂ (Serves locale) tokens steps) :
    List.Forall₂ (Serves locale) tokens (bounded steps) :=
  -- The bounds touch neither the rule nor the width that a step was made with.
  forall₂_bounded (fun _ _ _ serve => serve) serves

namespace Format

/-- The write rules of tokens fail for the first fault of them, in every registry. -/
theorem failsWith_writeRules {kind : Registry → Prop} (kept : Registry.KeptByUse kind)
    (tokens : List Token) (zone : Zone) (locale : Locale) (symbols : Symbols) :
    FailsWith kind (writeRules tokens zone locale symbols) (tokens.findSome? Token.fault?) :=
  -- Rules are made token by token, up to the first that fails.
  failsWith_mapM (WriteRule.failsWith_ofToken kept zone locale symbols) tokens

/-- The reading side of tokens fails for the first fault of them as well. -/
theorem failsWith_readerOf (tokens : List Token) (zone : Zone) (locale : Locale)
    (centuryStart : Option Instant) :
    FailsWith Registry.Accepts (readerOf tokens zone locale centuryStart)
      (tokens.findSome? Token.fault?) := by
  -- Looking up the calendar and bounding the widths have no fault, which leaves the steps.
  have steps := failsWith_mapM (ReadStep.failsWith_ofToken locale) tokens
  rw [← Option.none_or (o := List.findSome? _ _), ← Option.or_none (o := List.findSome? _ _)]
  exact failsWith_get.bind fun registry => steps.bind fun made => failsWith_pure _

/-- A pattern fails to compile for what is wrong with it. -/
theorem failsWith_compile (pattern : String) (zone : Zone) (locale : Locale)
    (centuryStart : Option Instant) :
    FailsWith Registry.Accepts (compile pattern zone locale centuryStart)
      (Pattern.fault? pattern.toList) := by
  -- The quotes are looked at first, then the writing side, then the reading side.
  unfold compile
  rw [Token.ofPattern, Pattern.fault?]
  cases Mark.scan? false pattern.toList with
  | none => exact failsWith_throw _
  | some marks =>
    simp only [pure_bind]
    generalize Token.ofMarks marks = tokens
    have read := failsWith_readerOf tokens zone locale centuryStart
    have either : tokens.findSome? Token.fault? =
        none.or ((tokens.findSome? Token.fault?).or ((tokens.findSome? Token.fault?).or none)) := by
      cases tokens.findSome? Token.fault? <;> rfl
    rw [either]
    -- What the writing side lets pass is no fault of the reading side either.
    exact failsWith_get.bind fun registry =>
      (failsWith_writeRules Registry.keptByUse_accepts tokens zone locale _).bind fun rules =>
        read.bind fun reader => failsWith_pure _

/-- A compiled format has one write rule and one read step for each token, in their order. -/
theorem rules_and_steps {pattern : String} {zone : Zone} {locale : Locale}
    {centuryStart : Option Instant} {before after : Registry} {format : Format}
    (made : compile pattern zone locale centuryStart before = .ok format after) :
    ∃ tokens, Token.ofPattern pattern = .ok tokens ∧
      List.Forall₂ (WriteRule.MadeFor zone locale (before.localeData.symbols locale)) tokens
        format.rules ∧
      List.Forall₂ (ReadStep.Serves locale) tokens format.reader.steps := by
  obtain ⟨tokens, middle, known, written, readable, -⟩ := compile_ok made
  obtain ⟨steps, stepped, bounded, -⟩ := readerOf_ok readable
  -- Both sides go through the same tokens, each with a rule or a step for every one of them.
  obtain ⟨-, ruled⟩ := mapM_ok (WriteRule.keeps_ofToken _ _ _) written
  obtain ⟨-, stepwise⟩ := mapM_ok (ReadStep.keeps_ofToken _) stepped
  refine ⟨tokens, known, ruled.imp ?_, ?_⟩
  · rintro token rule ⟨begin, finish, -, ruleMade⟩
    exact ⟨begin, finish, ruleMade⟩
  · rw [bounded]
    refine ReadStep.serves_bounded (stepwise.imp ?_)
    -- Each step serves its token as it was made, before the widths were bounded.
    rintro token step ⟨begin, finish, -, stepMade⟩
    exact ⟨step, begin, finish, stepMade, rfl, rfl⟩

/--
The patterns that compile are those with a meaning, and the others fail for what is wrong with them first.

This is so wherever every expression can be built. What the writing side fails for does not even depend on that.
-/
theorem compile_language (pattern : String) (zone : Zone) (locale : Locale)
    (centuryStart : Option Instant) {registry : Registry} (accepts : registry.Accepts) :
    ((∃ format after, compile pattern zone locale centuryStart registry = .ok format after) ↔
      Pattern.Meant pattern.toList) ∧
    (∀ reason, (∃ after, compile pattern zone locale centuryStart registry = .error reason after) ↔
      Pattern.Refused pattern.toList reason) ∧
    (∀ format after, compile pattern zone locale centuryStart registry = .ok format after →
      ∃ tokens, Token.ofPattern pattern = .ok tokens ∧
        List.Forall₂ (WriteRule.MadeFor zone locale (registry.localeData.symbols locale)) tokens
          format.rules ∧
        List.Forall₂ (ReadStep.Serves locale) tokens format.reader.steps) ∧
    ∀ tokens symbols first second reason, second.Accepts →
      ((∃ after, writeRules tokens zone locale symbols first = .error reason after) ↔
        ∃ after, readerOf tokens zone locale centuryStart second = .error reason after) := by
  -- Both sides of each equivalence ask whether the pattern has a fault, and for which reason.
  have fails := failsWith_compile pattern zone locale centuryStart
  refine ⟨?_, ?_, fun format after made => rules_and_steps made, ?_⟩
  · rw [fails.ok_iff accepts, Pattern.fault?_eq_none_iff]
  · intro reason
    rw [fails.error_iff accepts, Pattern.fault?_eq_some_iff]
  · -- Both sides fail for the first fault of the tokens, the writing side in whatever registry.
    intro tokens symbols first second reason others
    have always : Registry.KeptByUse fun _ => True :=
      ⟨fun _ _ _ _ => trivial, fun _ _ _ => trivial, fun _ _ _ => trivial⟩
    rw [(failsWith_writeRules always tokens zone locale symbols).error_iff trivial,
      (failsWith_readerOf tokens zone locale centuryStart).error_iff others]

/-- With all expressions built, five letters X are refused, and three months and a zone are not. -/
theorem compile_language_months :
    FormatCache.builtin.registry.Accepts ∧
      (∃ format after, compile "MMM 'at' z" .utc .americanEnglish none
        FormatCache.builtin.registry = .ok format after) ∧
      ∃ after, compile "MMM XXXXX" .utc .americanEnglish none FormatCache.builtin.registry =
        .error .invalidIsoWidth after := by
  -- Both patterns are scanned to their faults, of which the first one has none.
  have accepts : FormatCache.builtin.registry.Accepts := fun _ => rfl
  obtain ⟨compiled, -, -, -⟩ := compile_language "MMM 'at' z" .utc .americanEnglish none accepts
  obtain ⟨-, refused, -, -⟩ := compile_language "MMM XXXXX" .utc .americanEnglish none accepts
  exact ⟨accepts, compiled.mpr ((Pattern.fault?_eq_none_iff _).mp (by decide +kernel)),
    (refused _).mpr ((Pattern.fault?_eq_some_iff _ _).mp (by decide +kernel))⟩

end Format

end DatePattern
