import DatePattern.Proofs.Registry

/-! What a compiled format consists of: one write rule and one read step for each token. -/

namespace DatePattern

/-- A rule that a token can have, in whatever state its registry is. -/
def WriteRule.MadeFor (zone : Zone) (locale : Locale) (symbols : Symbols) (token : Token)
    (rule : WriteRule) : Prop :=
  ∃ before after, ofToken zone locale symbols token before = .ok rule after

/-- A step that a token can have, from a registry that is true to some locale data. -/
def ReadStep.MadeFor (source : LocaleData) (locale : Locale) (token : Token) (step : ReadStep) :
    Prop :=
  ∃ before after, before.Faithful ∧ before.localeData = source ∧
    ofToken locale token before = .ok step after

/-- A token whose rule does not depend on what was made before, which leaves out names of zones. -/
def Token.Plain : Token → Prop
  | .literal _ => True
  | .letters letter _ => letter ≠ 'z'

instance : (token : Token) → Decidable token.Plain
  | .literal _ => inferInstanceAs (Decidable True)
  | .letters _ _ => inferInstanceAs (Decidable (_ ≠ _))

/-- The rule of a plain token is the same in every registry, which it leaves as it is. -/
theorem WriteRule.ofToken_eq {zone : Zone} {locale : Locale} {symbols : Symbols} {token : Token}
    {rule : WriteRule} (plain : token.Plain) (made : MadeFor zone locale symbols token rule)
    (registry : Registry) : ofToken zone locale symbols token registry = .ok rule registry := by
  -- The rule was made once, which leaves only letters that have one.
  obtain ⟨before, after, made⟩ := made
  cases token with
  | literal verbatim =>
    cases made
    rfl
  | letters letter width =>
    simp only [ofToken, ofLetter] at made ⊢
    -- Each letter has its own rule, or one that depends on the width alone.
    split at made
    all_goals first
      | (cases made; rfl)
      | (cases made; done)
      | exact absurd rfl plain
      | (split at made <;> first
          | (cases made; rfl)
          | (cases made; done)
          | (cases made; simp only [*]; rfl))

/-- A plain token has one rule. -/
theorem WriteRule.MadeFor.unique {zone : Zone} {locale : Locale} {symbols : Symbols}
    {token : Token} {rule other : WriteRule} (plain : token.Plain)
    (made : MadeFor zone locale symbols token rule)
    (again : MadeFor zone locale symbols token other) : rule = other := by
  -- The rule that was made in one registry is made in the registry of the other one too.
  obtain ⟨before, after, again⟩ := again
  rw [ofToken_eq plain made before] at again
  cases again
  rfl

/-- Plain tokens have one list of rules. -/
theorem WriteRule.rules_unique {zone : Zone} {locale : Locale} {symbols : Symbols}
    {tokens : List Token} {rules others : List WriteRule} (plain : ∀ token ∈ tokens, token.Plain)
    (made : List.Forall₂ (MadeFor zone locale symbols) tokens rules)
    (again : List.Forall₂ (MadeFor zone locale symbols) tokens others) : rules = others := by
  -- The lists have a rule for each token, so they are compared from the front.
  induction made generalizing others with
  | nil =>
    cases again
    rfl
  | cons first _ ih =>
    cases again with
    | cons other rest =>
      rw [first.unique (plain _ List.mem_cons_self) other,
        ih (fun token listed => plain token (List.mem_cons_of_mem _ listed)) rest]

/-- A token that has a meaning: a known letter, of a width that is known for it. -/
def Token.isMeant : Token → Bool
  | .literal _ => true
  | .letters 'X' width => width == 1 || width == 2 || width == 3
  | .letters 'n' width => width ≤ 9
  | .letters letter _ =>
    ['G', 'y', 'Y', 'M', 'd', 'h', 'H', 'm', 's', 'S', 'E', 'u', 'D', 'F', 'w', 'W', 'a', 'k', 'K',
      'z', 'Z'].contains letter

/-- A token for which a matcher is asked: the names of a field, or a zone by name or by offset. -/
def Token.isMatched : Token → Bool
  | .literal _ => false
  | .letters 'M' width => 3 ≤ width
  | .letters 'Z' width => width != 2
  | .letters letter _ => ['E', 'G', 'a', 'z'].contains letter

/-- A token with a meaning has a write rule. -/
theorem WriteRule.succeeds_ofToken {kind : Registry → Prop} {zone : Zone} {locale : Locale}
    {symbols : Symbols} {token : Token} (meant : token.isMeant = true) :
    Compiling.Succeeds kind (ofToken zone locale symbols token) := by
  -- The symbols are there already, so that only a letter or a width without a rule could fail.
  intro before _
  cases token with
  | literal verbatim => exact ⟨_, _, rfl⟩
  | letters letter width =>
    simp only [ofToken, ofLetter]
    split
    all_goals first
      | exact ⟨_, _, rfl⟩
      | skip
    · -- The letter X has one to three places.
      simp only [Token.isMeant, Bool.or_eq_true, beq_iff_eq] at meant
      rcases meant with (rfl | rfl) | rfl <;> exact ⟨_, _, rfl⟩
    · -- The width of a Z only chooses between its forms.
      split <;> exact ⟨_, _, rfl⟩
    · -- A fraction has at most nine places.
      simp only [Token.isMeant, decide_eq_true_eq] at meant
      rw [if_neg (by omega)]
      exact ⟨_, _, rfl⟩
    · -- No other letter has a meaning.
      simp only [Token.isMeant] at meant
      simp_all

/-- A token with a meaning has a read step, if the matcher that it may ask for can be had. -/
theorem ReadStep.succeeds_ofToken {kind : Registry → Prop} {locale : Locale} {token : Token}
    (meant : token.isMeant = true)
    (matchers : token.isMatched = true →
      (∀ field, Compiling.Succeeds kind (ReadRule.named locale field)) ∧
        Compiling.Succeeds kind (ReadRule.zoneRule locale)) :
    Compiling.Succeeds kind (ofToken locale token) := by
  -- Only the letters that ask for a matcher depend on the registry.
  intro before own
  cases token with
  | literal verbatim => exact ⟨_, _, rfl⟩
  | letters letter width =>
    have ruled : ∃ rule after, ReadRule.ofLetter locale letter width before = .ok rule after := by
      simp only [ReadRule.ofLetter]
      split
      -- Most letters have one rule, whatever their width.
      all_goals first
        | exact ⟨_, _, rfl⟩
        | exact (matchers rfl).1 _ before own
        | exact (matchers rfl).2 before own
        | skip
      · -- A month is named or numbered.
        split
        next long => exact (matchers (decide_eq_true long)).1 _ before own
        next => exact ⟨_, _, rfl⟩
      · -- A fraction has at most nine places.
        simp only [Token.isMeant, decide_eq_true_eq] at meant
        rw [if_neg (by omega)]
        exact ⟨_, _, rfl⟩
      · -- The letter X has one to three places.
        simp only [Token.isMeant, Bool.or_eq_true, beq_iff_eq] at meant
        rcases meant with (rfl | rfl) | rfl <;> exact ⟨_, _, rfl⟩
      · -- A Z is an offset with a colon, or a zone.
        split
        next => exact ⟨_, _, rfl⟩
        next other => exact (matchers (bne_iff_ne.mpr other)).2 before own
      · -- No other letter has a meaning.
        simp only [Token.isMeant] at meant
        simp_all
    obtain ⟨rule, after, made⟩ := ruled
    exact ⟨_, _, bind_eq_ok.mpr ⟨rule, after, made, rfl⟩⟩

namespace ReadRule

variable {locale : Locale} {field : Field} {before after : Registry} {rule : ReadRule}

/-- The rule for the names of a field has the matcher that the registry gives for it. -/
theorem named_eq_ok : named locale field before = .ok rule after ↔
    ∃ matcher, Registry.textMatcher field locale before = .ok matcher after ∧
      rule = .text matcher := by
  -- What follows the matcher always succeeds.
  rw [named, map_eq_pure_bind, bind_eq_ok]
  constructor
  · rintro ⟨matcher, middle, found, here⟩
    obtain ⟨rfl, rfl⟩ := pure_eq_ok.mp here
    exact ⟨matcher, found, rfl⟩
  · rintro ⟨matcher, found, rfl⟩
    exact ⟨matcher, after, found, rfl⟩

/-- The rule for zones has the matcher that the registry gives for the locale. -/
theorem zoneRule_eq_ok : zoneRule locale before = .ok rule after ↔
    ∃ matcher, Registry.zoneMatcher locale before = .ok matcher after ∧
      rule = .zone matcher := by
  -- What follows the matcher always succeeds.
  rw [zoneRule, map_eq_pure_bind, bind_eq_ok]
  constructor
  · rintro ⟨matcher, middle, found, here⟩
    obtain ⟨rfl, rfl⟩ := pure_eq_ok.mp here
    exact ⟨matcher, found, rfl⟩
  · rintro ⟨matcher, found, rfl⟩
    exact ⟨matcher, after, found, rfl⟩

/-- A faithful registry has the rule for the names of a field just if their matcher is built. -/
theorem buildText_of_named (faithful : before.Faithful)
    (ruled : named locale field before = .ok rule after) :
    ∃ matcher, before.buildText field locale = .ok matcher ∧ rule = .text matcher := by
  -- A faithful registry answers with what is built, whether the matcher is new or kept.
  obtain ⟨matcher, found, rfl⟩ := named_eq_ok.mp ruled
  obtain ⟨made, looked, -⟩ := faithful.textMatcher field locale
  rw [looked, Registry.conclude_eq_ok] at found
  exact ⟨matcher, found.1, rfl⟩

/-- A faithful registry has the rule for zones just if their matcher is built. -/
theorem buildZones_of_zoneRule (faithful : before.Faithful)
    (ruled : zoneRule locale before = .ok rule after) :
    ∃ matcher, before.buildZones locale = .ok matcher ∧ rule = .zone matcher := by
  -- A faithful registry answers with what is built, whether the matcher is new or kept.
  obtain ⟨matcher, found, rfl⟩ := zoneRule_eq_ok.mp ruled
  obtain ⟨made, looked, -⟩ := faithful.zoneMatcher locale
  rw [looked, Registry.conclude_eq_ok] at found
  exact ⟨matcher, found.1, rfl⟩

/-- In a faithful registry the rule for the names of a field reads the display names of the locale. -/
theorem eq_of_named (faithful : before.Faithful)
    (ruled : named locale field before = .ok rule after) :
    rule = .text (.ofNames field ((before.localeData.symbols locale).displayNames field)) := by
  -- A matcher that is built is the one of the display names.
  obtain ⟨matcher, built, rfl⟩ := buildText_of_named faithful ruled
  rw [Registry.eq_of_buildText built]

/-- In a faithful registry the rule for zones reads the names in the table of the locale. -/
theorem eq_of_zoneRule (faithful : before.Faithful)
    (ruled : zoneRule locale before = .ok rule after) :
    rule = .zone (.ofTable before.regions (before.localeData.zoneNames locale)) := by
  -- A matcher that is built is the one of the table.
  obtain ⟨matcher, built, rfl⟩ := buildZones_of_zoneRule faithful ruled
  rw [Registry.eq_of_buildZones built]

end ReadRule

/-- A read rule is there already, or is an error, or has a matcher of a field or of zones. -/
theorem ReadRule.ofLetter_cases (locale : Locale) (letter : Char) (width : Nat) :
    (∃ rule, ofLetter locale letter width = pure rule) ∨
      (∃ reason, ofLetter locale letter width = throw reason) ∨
      (∃ field, ofLetter locale letter width = named locale field) ∨
      ofLetter locale letter width = zoneRule locale := by
  unfold ofLetter
  -- The letter decides, and for some letters its width besides.
  split
  all_goals first
    | exact .inl ⟨_, rfl⟩
    | exact .inr (.inl ⟨_, rfl⟩)
    | exact .inr (.inr (.inl ⟨_, rfl⟩))
    | exact .inr (.inr (.inr rfl))
    | (split <;> first
        | exact .inl ⟨_, rfl⟩
        | exact .inr (.inl ⟨_, rfl⟩)
        | exact .inr (.inr (.inl ⟨_, rfl⟩))
        | exact .inr (.inr (.inr rfl)))

/-- Registries that are faithful and were set up as some source. -/
def Registry.Like (registry source : Registry) : Prop :=
  registry.Faithful ∧ registry.SetUpAs source

/-- What is set up as a source and faithful to it stays so. -/
theorem Registry.Like.stable {source : Registry} (before after : Registry)
    (extended : before.Extends after) (like : before.Like source) : after.Like source :=
  -- Adding to a registry leaves what it was set up from.
  ⟨extended.faithful like.1, extended.toSetUpAs.trans like.2⟩

/-- A read step that one faithful registry has can be had from all that were set up alike. -/
theorem ReadStep.succeeds_of_made {source before after : Registry} {locale : Locale}
    {token : Token} {step : ReadStep} (like : before.Like source)
    (made : ofToken locale token before = .ok step after) :
    Compiling.Succeeds (·.Like source) (ofToken locale token) := by
  -- The greatest width is set afterwards, so that only the rule of the letter can fail.
  cases token with
  | literal verbatim => exact fun registry _ => ⟨_, _, rfl⟩
  | letters letter width =>
    obtain ⟨rule, middle, ruled, -⟩ := bind_eq_ok.mp made
    -- A rule that asks for a matcher was made because the matcher is built.
    have again : Compiling.Succeeds (·.Like source) (ReadRule.ofLetter locale letter width) := by
      intro registry own
      rcases ReadRule.ofLetter_cases locale letter width with
        ⟨rule, there⟩ | ⟨reason, failed⟩ | ⟨field, looked⟩ | looked
      · rw [there]
        exact ⟨rule, registry, rfl⟩
      · rw [failed] at ruled
        cases ruled
      · rw [looked] at ruled ⊢
        obtain ⟨matcher, built, -⟩ := ReadRule.buildText_of_named like.1 ruled
        obtain ⟨made, found, -⟩ := own.1.textMatcher field locale
        rw [own.2.buildText, ← like.2.buildText, built] at found
        exact ⟨_, _, ReadRule.named_eq_ok.mpr ⟨matcher, found, rfl⟩⟩
      · rw [looked] at ruled ⊢
        obtain ⟨matcher, built, -⟩ := ReadRule.buildZones_of_zoneRule like.1 ruled
        obtain ⟨made, found, -⟩ := own.1.zoneMatcher locale
        rw [own.2.buildZones, ← like.2.buildZones, built] at found
        exact ⟨_, _, ReadRule.zoneRule_eq_ok.mpr ⟨matcher, found, rfl⟩⟩
    intro registry own
    obtain ⟨rule, left, ruled⟩ := again registry own
    exact ⟨_, _, bind_eq_ok.mpr ⟨rule, left, ruled, rfl⟩⟩

/-- Holding numbers to their width keeps what does not depend on their greatest width. -/
theorem ReadStep.forall₂_bounded {holds : Token → ReadStep → Prop}
    (kept : ∀ token step maxWidth, holds token step → holds token { step with maxWidth })
    {tokens : List Token} {steps : List ReadStep} (each : List.Forall₂ holds tokens steps) :
    List.Forall₂ holds tokens (bounded steps) := by
  -- Steps stay in their places, and only their greatest widths may change.
  induction each with
  | nil => exact .nil
  | @cons token first tokens steps here others ih =>
    cases steps with
    | nil => exact .cons here ih
    | cons second steps =>
      refine .cons ?_ ih
      -- A first step is held to its width only if a number follows it.
      split
      next => exact kept _ _ _ here
      next => exact here

namespace Format

/-- A format made for some tokens from some locale data. -/
structure CompiledFrom (format : Format) (tokens : List Token) (source : LocaleData) : Prop where
  /-- Years and weeks are counted as the locale has it. -/
  calendar : format.calendar = (source.symbols format.locale).calendar
  /-- There is one write rule for each token. -/
  rules : List.Forall₂
    (WriteRule.MadeFor format.zone format.locale (source.symbols format.locale)) tokens format.rules
  /-- There is one read step for each token, before numbers in a row are told apart. -/
  steps : ∃ steps, format.reader.steps = ReadStep.bounded steps ∧
    List.Forall₂ (ReadStep.MadeFor source format.locale) tokens steps
  /-- Texts that name no zone are read in the zone of the format. -/
  readerZone : format.reader.zone = format.zone
  /-- Texts are read in the calendar of the format. -/
  readerCalendar : format.reader.calendar = format.calendar

/-- A compiled format has what both sides make of its tokens, one after the other. -/
theorem compile_ok {pattern : String} {zone : Zone} {locale : Locale}
    {centuryStart : Option Instant} {before after : Registry} {format : Format}
    (made : compile pattern zone locale centuryStart before = .ok format after) :
    ∃ tokens middle, Token.ofPattern pattern = .ok tokens ∧
      writeRules tokens zone locale (before.localeData.symbols locale) before =
        .ok format.rules middle ∧
      readerOf tokens zone locale centuryStart middle = .ok format.reader after ∧
      format.zone = zone ∧ format.locale = locale ∧
      format.calendar = (before.localeData.symbols locale).calendar := by
  unfold compile at made
  -- A pattern that is not understood would not have compiled.
  obtain ⟨tokens, known⟩ : ∃ tokens, Token.ofPattern pattern = .ok tokens := by
    cases known : Token.ofPattern pattern with
    | error reason =>
      rw [known] at made
      cases made
    | ok tokens => exact ⟨tokens, rfl⟩
  rw [known] at made
  -- The first two steps only look at the registry and at the tokens.
  obtain ⟨_, _, here, rest⟩ := bind_eq_ok.mp made
  cases here
  obtain ⟨_, _, here, rest⟩ := bind_eq_ok.mp rest
  cases here
  obtain ⟨rules, middle, written, rest⟩ := bind_eq_ok.mp rest
  obtain ⟨reader, last, readable, rest⟩ := bind_eq_ok.mp rest
  obtain ⟨rfl, rfl⟩ := pure_eq_ok.mp rest
  exact ⟨tokens, middle, known, written, readable, rfl, rfl, rfl⟩

/-- A reading side has the steps of its tokens, and the zone and calendar that it was made in. -/
theorem readerOf_ok {tokens : List Token} {zone : Zone} {locale : Locale}
    {centuryStart : Option Instant} {before after : Registry} {reader : Reader}
    (made : readerOf tokens zone locale centuryStart before = .ok reader after) :
    ∃ steps, tokens.mapM (ReadStep.ofToken locale) before = .ok steps after ∧
      reader.steps = ReadStep.bounded steps ∧ reader.zone = zone ∧
      reader.calendar = (before.localeData.symbols locale).calendar := by
  unfold readerOf at made
  -- The calendar is looked up first, in the registry as it was before.
  obtain ⟨_, _, here, rest⟩ := bind_eq_ok.mp made
  cases here
  obtain ⟨steps, finish, stepped, rest⟩ := bind_eq_ok.mp rest
  obtain ⟨rfl, rfl⟩ := pure_eq_ok.mp rest
  exact ⟨steps, stepped, rfl, rfl, rfl⟩

/-- A compiled format is made for the tokens of its pattern, and keeps its zone and its locale. -/
theorem compiledFrom {pattern : String} {zone : Zone} {locale : Locale}
    {centuryStart : Option Instant} {before after : Registry} {format : Format}
    (faithful : before.Faithful)
    (made : compile pattern zone locale centuryStart before = .ok format after) :
    before.Extends after ∧ format.zone = zone ∧ format.locale = locale ∧
      ∃ tokens, Token.ofPattern pattern = .ok tokens ∧
        format.CompiledFrom tokens before.localeData := by
  -- The rules are made first and the steps second, and making either only adds to the registry.
  obtain ⟨tokens, middle, known, written, readable, rfl, rfl, counted⟩ := compile_ok made
  obtain ⟨steps, stepped, bounded, sameZone, calendar⟩ := readerOf_ok readable
  obtain ⟨early, ruled⟩ := Compiling.mapM_ok (WriteRule.keeps_ofToken _ _ _) written
  obtain ⟨late, stepwise⟩ := Compiling.mapM_ok (ReadStep.keeps_ofToken _) stepped
  refine ⟨early.trans late, rfl, rfl, tokens, known, counted, ?_, ⟨steps, bounded, ?_⟩,
    sameZone, ?_⟩
  · refine ruled.imp ?_
    rintro token rule ⟨begin, finish, -, ruleMade⟩
    exact ⟨begin, finish, ruleMade⟩
  · refine stepwise.imp ?_
    rintro token step ⟨begin, finish, extended, stepMade⟩
    exact ⟨begin, finish, extended.faithful (early.faithful faithful),
      extended.localeData.trans early.localeData, stepMade⟩
  · -- The reader was made from the registry that the write rules left.
    rw [calendar, counted, early.localeData]

/-- The tokens of a pattern that compiled once have their read steps in all registries set up alike. -/
theorem readable_of_compiled {source before after : Registry} (like : before.Like source)
    {pattern : String} {tokens : List Token} (scanned : Token.ofPattern pattern = .ok tokens)
    {zone : Zone} {locale : Locale} {centuryStart : Option Instant} {format : Format}
    (made : compile pattern zone locale centuryStart before = .ok format after) :
    ∀ token ∈ tokens, Compiling.Succeeds (·.Like source) (ReadStep.ofToken locale token) := by
  -- Compiling the pattern has made a step for each of its tokens.
  obtain ⟨_, middle, known, written, readable, -, -, -⟩ := compile_ok made
  rw [scanned] at known
  cases known
  obtain ⟨steps, stepped, -⟩ := readerOf_ok readable
  have early := (Compiling.mapM_ok (WriteRule.keeps_ofToken _ _ _) written).1
  have stepwise := (Compiling.mapM_ok (ReadStep.keeps_ofToken _) stepped).2
  -- Each step was made in a registry that is still like the source.
  refine ((List.forall₂_and_left (R := fun _ _ => True) tokens steps).mp (stepwise.imp ?_)).1
  rintro token step ⟨begin, finish, extended, stepMade⟩
  have own := Registry.Like.stable _ _ extended (Registry.Like.stable _ _ early like)
  exact ⟨ReadStep.succeeds_of_made own stepMade, trivial⟩

/-- A pattern compiles in a registry of a kind that is kept if each of its tokens has both rules there. -/
theorem compile_succeeds {kind : Registry → Prop}
    (stable : ∀ before after, before.Extends after → kind before → kind after)
    {pattern : String} {tokens : List Token} (scanned : Token.ofPattern pattern = .ok tokens)
    (meant : ∀ token ∈ tokens, token.isMeant = true) (zone : Zone) {locale : Locale}
    (readable : ∀ token ∈ tokens, Compiling.Succeeds kind (ReadStep.ofToken locale token))
    (centuryStart : Option Instant) :
    Compiling.Succeeds kind (compile pattern zone locale centuryStart) := by
  intro before own
  have writable : ∀ token ∈ tokens, Compiling.Succeeds kind
      (WriteRule.ofToken zone locale (before.localeData.symbols locale) token) :=
    fun token listed => WriteRule.succeeds_ofToken (meant token listed)
  -- The steps are made in whatever registry the rules have left, which is still of the kind.
  obtain ⟨rules, middle, written⟩ :=
    Compiling.succeeds_mapM stable (WriteRule.keeps_ofToken _ _ _) writable before own
  have between := (Compiling.mapM_ok (WriteRule.keeps_ofToken _ _ _) written).1
  obtain ⟨steps, after, stepped⟩ :=
    Compiling.succeeds_mapM stable (ReadStep.keeps_ofToken _) readable middle
      (stable _ _ between own)
  unfold compile
  rw [scanned]
  exact ⟨_, _, bind_eq_ok.mpr ⟨_, _, rfl, bind_eq_ok.mpr ⟨_, _, rfl,
    bind_eq_ok.mpr ⟨rules, middle, written, bind_eq_ok.mpr ⟨_, after,
      bind_eq_ok.mpr ⟨_, _, rfl, bind_eq_ok.mpr ⟨steps, after, stepped, rfl⟩⟩, rfl⟩⟩⟩⟩⟩

end Format

end DatePattern
