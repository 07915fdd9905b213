import DatePattern.Pattern.Token
import DatePattern.Timestamp.Layout

/-! The patterns that layouts are found by, and the tokens that such patterns consist of. -/

namespace DatePattern.Layout

/-- The tokens of the date, if there is one. -/
def dateTokens (layout : Layout) : List Token :=
  match layout.datePattern with
  | none => []
  | some pattern => match Token.ofPattern pattern with
    | .ok tokens => tokens
    | .error _ => []

/-- The tokens of a separator, if there is one. -/
def separator (c : Option Char) : List Token := c.toList.map fun c => .literal [c]

/-- The tokens of the time and the offset, where the fraction has a token of its own. -/
def timeTokens (layout : Layout) (fraction : Token) : List Token :=
  [.letters 'H' 2] ++ separator layout.timeSeparator ++ [.letters 'm' 2] ++
    separator layout.timeSeparator ++ [.letters 's' 2] ++
    separator layout.fractionSeparator ++ [fraction] ++
    match layout.offsetForm with
    | none => []
    | some .hours => [.letters 'X' 1]
    | some .hoursMinutes => [.letters 'X' 2]
    | some .hoursColonMinutes => [.letters 'X' 3]

/-- The tokens of the date are those that its pattern has. -/
theorem dateTokens_eq {layout : Layout} {pattern : String} {tokens : List Token}
    (dated : layout.datePattern = some pattern) (scanned : Token.ofPattern pattern = .ok tokens) :
    layout.dateTokens = tokens := by
  -- The definition scans the same pattern.
  simp only [dateTokens, dated, scanned]

/-- The letters that write the clock and the offset in some layout. -/
def clockLetters : List Token :=
  [.letters 'H' 2, .letters 'm' 2, .letters 's' 2, .letters 'X' 1, .letters 'X' 2, .letters 'X' 3]

/-- A token of the time is the fraction, a separator, or letters of the clock. -/
theorem mem_timeTokens {layout : Layout} {fraction token : Token}
    (among : token ∈ layout.timeTokens fraction) :
    token = fraction ∨ (∃ c, token = .literal [c]) ∨ token ∈ clockLetters := by
  -- The tokens are listed one after the other, with separators between some of them.
  have separators : ∀ c, token ∈ separator c → ∃ c, token = .literal [c] := by
    intro c among
    obtain ⟨char, -, rfl⟩ := List.mem_map.mp among
    exact ⟨char, rfl⟩
  simp only [timeTokens, List.mem_append, List.mem_singleton] at among
  rcases among with ((((((rfl | sep) | rfl) | sep) | rfl) | sep) | rfl) | offset
  · exact .inr (.inr (by decide))
  · exact .inr (.inl (separators _ sep))
  · exact .inr (.inr (by decide))
  · exact .inr (.inl (separators _ sep))
  · exact .inr (.inr (by decide))
  · exact .inr (.inl (separators _ sep))
  · exact .inl rfl
  · -- The offset is one token or none.
    refine .inr (.inr ?_)
    split at offset
    · cases offset
    all_goals
      rw [List.mem_singleton] at offset
      subst offset
      decide

/-- Whether a pattern has certain tokens. -/
def HasTokens (pattern : List Char) (tokens : List Token) : Prop :=
  (Mark.scan? false pattern).map Token.ofMarks = some tokens

instance (pattern : List Char) (tokens : List Token) : Decidable (HasTokens pattern tokens) :=
  inferInstanceAs (Decidable (_ = _))

/-- A pattern around its milliseconds: what leads up to them, and what follows them. -/
def aroundMillis (layout : Layout) : List Char × List Char :=
  (layout.pattern.toList.takeWhile (· != 'S'),
    (layout.pattern.toList.dropWhile (· != 'S')).drop 3)

/-- The token of the fraction in the pattern of a layout. -/
def fractionToken (layout : Layout) : Token :=
  if layout.fractionDigits = 3 then .letters 'S' 3 else .letters 'n' layout.fractionDigits

/-- What the layouts have in common. -/
structure Regular (layout : Layout) : Prop where
  /-- The whole pattern has the tokens of the date and the tokens of the time. -/
  tokens : HasTokens layout.pattern.toList
    (layout.dateTokens ++ layout.timeTokens layout.fractionToken)
  /-- The fraction has three digits for milliseconds, and otherwise one for each letter n. -/
  fraction : layout.fractionDigits = 3 ∨ layout.fractionDigits = 6 ∨ layout.fractionDigits = 9
  /-- The pattern has the letter n unless it has milliseconds. -/
  hasNanos : 'n' ∈ layout.pattern.toList ↔ layout.fractionDigits ≠ 3
  /-- There is no S but those of the milliseconds. -/
  millis : layout.pattern.toList.count 'S' = if layout.fractionDigits = 3 then 3 else 0
  /-- A run of n in place of the milliseconds has the same tokens around it. -/
  nanos : layout.fractionDigits = 3 → ∀ run ∈ [1, 2, 3, 4, 5, 6, 7, 8, 9],
    HasTokens (layout.aroundMillis.1 ++ List.replicate run 'n' ++ layout.aroundMillis.2)
      (layout.dateTokens ++ layout.timeTokens (.letters 'n' run))
  /-- The name has fewer S than milliseconds would take. -/
  name : layout.name.toList.count 'S' < 3

instance (layout : Layout) : Decidable layout.Regular :=
  decidable_of_iff (HasTokens layout.pattern.toList
      (layout.dateTokens ++ layout.timeTokens layout.fractionToken) ∧
    (layout.fractionDigits = 3 ∨ layout.fractionDigits = 6 ∨ layout.fractionDigits = 9) ∧
    ('n' ∈ layout.pattern.toList ↔ layout.fractionDigits ≠ 3) ∧
    layout.pattern.toList.count 'S' = (if layout.fractionDigits = 3 then 3 else 0) ∧
    (layout.fractionDigits = 3 → ∀ run ∈ [1, 2, 3, 4, 5, 6, 7, 8, 9],
      HasTokens (layout.aroundMillis.1 ++ List.replicate run 'n' ++ layout.aroundMillis.2)
        (layout.dateTokens ++ layout.timeTokens (.letters 'n' run))) ∧
    layout.name.toList.count 'S' < 3)
    ⟨fun ⟨a, b, c, d, e, f⟩ => ⟨a, b, c, d, e, f⟩, fun ⟨a, b, c, d, e, f⟩ => ⟨a, b, c, d, e, f⟩⟩

/-- Every layout is regular. -/
theorem regular : ∀ layout ∈ all, layout.Regular := by
  -- There are few layouts, so each of them is looked at.
  decide +kernel

/-- A layout found by a text has it as its name or as its pattern. -/
theorem find?_eq_some {text : String} {layout : Layout} (found : find? text = some layout) :
    layout ∈ all ∧ (layout.name = text ∨ layout.pattern = text) := by
  -- The search compares the text with both.
  have listed := List.mem_of_find?_eq_some found
  have named := List.find?_some found
  simp only [Bool.or_eq_true, beq_iff_eq] at named
  exact ⟨listed, named⟩

/-- A pattern with a run of n is the text before the run, the run, and the text after it. -/
theorem splitNanos?_eq_some {pattern lead rest : List Char} {run : Nat}
    (split : splitNanos? pattern = some (lead, run, rest)) :
    pattern = lead ++ List.replicate run 'n' ++ rest ∧ 0 < run := by
  -- The run begins at the first n and ends before the offset, if there is one.
  simp only [splitNanos?] at split
  generalize tailIs : pattern.dropWhile (· != 'n') = tail at split
  split at split
  · cases split
  · rename_i regular
    simp only [not_or] at regular
    obtain ⟨-, someRun, onlyRun⟩ := regular
    cases split
    have run : tail.takeWhile (fun c => c != 'Z' && c != 'X') =
        List.replicate (tail.takeWhile fun c => c != 'Z' && c != 'X').length 'n' := by
      apply List.eq_replicate_of_mem
      intro c listed
      -- No other character than n is in the run.
      simp only [List.any_eq_true, not_exists, not_and] at onlyRun
      simpa using onlyRun c listed
    refine ⟨?_, List.length_pos_iff.mpr someRun⟩
    rw [← run, List.append_assoc, List.prefix_iff_eq_append.mp (List.takeWhile_prefix _), ← tailIs,
      List.takeWhile_append_dropWhile]

/-- The text before the milliseconds of a pattern, and the text after them. -/
private theorem aroundMillis_eq {layout : Layout} {lead rest : List Char}
    (single : ∀ c ∈ lead, c ≠ 'S')
    (pattern : layout.pattern.toList = lead ++ ['S', 'S', 'S'] ++ rest) :
    layout.aroundMillis = (lead, rest) := by
  -- The milliseconds begin at the first S, which does not come before them.
  have passed : ∀ c ∈ lead, (c != 'S') = true := by simpa using single
  rw [aroundMillis, pattern, List.append_assoc, List.takeWhile_append_of_pos passed,
    List.dropWhile_append_of_pos passed]
  simp

/-- A layout whose pattern has three letters S in a row has milliseconds, and no S before them. -/
private theorem millis_of_pattern {layout : Layout} (listed : layout ∈ all) {lead rest : List Char}
    (pattern : layout.pattern.toList = lead ++ ['S', 'S', 'S'] ++ rest) :
    layout.fractionDigits = 3 ∧ ∀ c ∈ lead, c ≠ 'S' := by
  -- All S of a pattern are those of its milliseconds, and three are counted already.
  have counted := (regular _ listed).millis
  rw [pattern] at counted
  simp only [List.count_append, show ['S', 'S', 'S'].count 'S' = 3 from rfl] at counted
  have millis : layout.fractionDigits = 3 := by
    by_cases three : layout.fractionDigits = 3
    · exact three
    · rw [if_neg three] at counted
      omega
  refine ⟨millis, ?_⟩
  rw [if_pos millis] at counted
  rintro c among rfl
  have positive := List.count_pos_iff.mpr among
  omega

/-- A layout found by a text with three letters S in a row has the text as its pattern. -/
private theorem pattern_of_find? {layout : Layout} {lead rest : List Char}
    (found : find? (String.ofList (lead ++ ['S', 'S', 'S'] ++ rest)) = some layout) :
    layout.pattern.toList = lead ++ ['S', 'S', 'S'] ++ rest := by
  obtain ⟨listed, name | pattern⟩ := find?_eq_some found
  · -- No name has three letters S.
    have counted := (regular _ listed).name
    rw [name] at counted
    simp [List.count_append] at counted
    omega
  · rw [pattern, String.toList_ofList]

/--
A pattern that is accepted as such has the tokens of its layout.

The fraction is three letters S, or as many letters n as it has digits.
-/
theorem hasTokens_of_accepted {pattern : String} {layout : Layout} {digits : Option Nat}
    (found : ((find? pattern).map fun layout => (layout, none)).or
      ((findNanos? pattern).map fun (layout, digits) => (layout, some digits)) =
        some (layout, digits))
    (notName : ∀ layout ∈ all, layout.name ≠ pattern)
    (fewNanos : (splitNanos? pattern.toList).all (fun split => split.2.1 ≤ 9) = true) :
    layout ∈ all ∧ ∃ fraction,
      HasTokens pattern.toList (layout.dateTokens ++ layout.timeTokens fraction) ∧
      (fraction = .letters 'S' 3 ∧ 'n' ∉ pattern.toList ∧
          max 1 (min (digits.getD layout.fractionDigits) 9) = 3 ∨
        fraction = .letters 'n' (max 1 (min (digits.getD layout.fractionDigits) 9)) ∧
          'n' ∈ pattern.toList) := by
  -- The pattern is found as it is, or else with its run of n in place of milliseconds.
  cases whole : find? pattern with
  | some own =>
    -- The pattern is the layout's own.
    rw [whole] at found
    cases found
    obtain ⟨listed, name | rfl⟩ := find?_eq_some whole
    · exact absurd name (notName _ listed)
    refine ⟨listed, _, (regular _ listed).tokens, ?_⟩
    have hasNanos := (regular _ listed).hasNanos
    simp only [fractionToken, Option.getD_none]
    by_cases millis : layout.fractionDigits = 3
    · left
      simp [millis, hasNanos]
    · right
      rw [if_neg millis, hasNanos]
      rcases (regular _ listed).fraction with three | six | nine
      · exact absurd three millis
      · simp [six]
      · simp [nine]
  | none =>
    rw [whole] at found
    simp only [Option.map_none, Option.none_or, Option.map_eq_some_iff, Prod.mk.injEq] at found
    obtain ⟨⟨other, run⟩, nanos, rfl, rfl⟩ := found
    simp only [findNanos?, Option.bind_eq_bind, Option.bind_eq_some_iff, Option.pure_def,
      Option.some.injEq, Prod.mk.injEq] at nanos
    obtain ⟨⟨lead, letters, rest⟩, split, own, replaced, rfl, rfl⟩ := nanos
    obtain ⟨patternIs, someRun⟩ := splitNanos?_eq_some split
    have few : letters ≤ 9 := by simpa [split] using fewNanos
    obtain ⟨listed, -⟩ := find?_eq_some replaced
    have around := pattern_of_find? replaced
    obtain ⟨millis, single⟩ := millis_of_pattern listed around
    -- The run of n stands where the milliseconds of the layout stand.
    have clamped : max 1 (min letters 9) = letters := by omega
    have tokens := (regular _ listed).nanos millis letters (by simp; omega)
    rw [aroundMillis_eq single around, ← patternIs] at tokens
    refine ⟨listed, _, tokens, .inr ⟨?_, ?_⟩⟩
    · simp only [Option.getD_some, clamped]
    · rw [patternIs]
      simp [List.mem_replicate, Nat.ne_of_gt someRun]

end DatePattern.Layout
