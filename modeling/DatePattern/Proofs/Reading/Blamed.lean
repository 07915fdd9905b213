import DatePattern.Proofs.Cache
import DatePattern.Proofs.Reading.Contract
import DatePattern.Proofs.Reading.Stopped
import DatePattern.Proofs.Text.SharedBytes

/-! The place that a failure blames: whether the text can be cut there. -/

namespace DatePattern

namespace Reader

variable {reader : Reader} {step : ReadStep} {text : List Char} {skipped : Nat}

/-- A step blames the first byte that literal text does not share, or else a place between characters. -/
theorem blamed_of_readStep (fails : reader.readStep step text = .error skipped) :
    (∃ lead, step.rule = .literal lead ∧ Text.after? lead text = none ∧
      skipped = Text.sharedBytes lead text) ∨
    (∀ lead, step.rule ≠ .literal lead) ∧ Text.Boundary text skipped := by
  have start : Text.Boundary text 0 := ⟨[], text, rfl, rfl⟩
  have digits : ∀ {skipped digits rest}, digitRun step.maxWidth text = (skipped, digits, rest) →
      Text.Boundary text (Text.byteLength skipped) := by
    intro skipped digits rest run
    exact ⟨skipped, digits ++ rest, (digitRun_spec run).split, rfl⟩
  have ends := reader.ends_readStep step text
  rw [fails] at ends
  generalize step.rule = rule at ends
  -- Numbers fail where their digits should be, and all but literal text where the step begins.
  cases ends with
  | noNumber run => exact .inr ⟨nofun, digits run⟩
  | noFraction run => exact .inr ⟨nofun, digits run⟩
  | @noLiteral lead unlike => exact .inl ⟨lead, rfl, unlike, rfl⟩
  | noText => exact .inr ⟨nofun, start⟩
  | noZone => exact .inr ⟨nofun, start⟩
  | noIsoZone => exact .inr ⟨nofun, start⟩

/-- Literal text that is not there is blamed at the first byte that it does not share. -/
theorem readStep_literal_none {lead : List Char} (rule : step.rule = .literal lead)
    (unlike : Text.after? lead text = none) :
    reader.readStep step text = .error (Text.sharedBytes lead text) := by
  -- Literal text looks for nothing but itself.
  simp only [readStep, rule, unlike]

/-- Steps stop at literal text that parts from the text inside a character. -/
def StepsStopInside (reader : Reader) (steps : List ReadStep) (text : List Char) : Prop :=
  ∃ earlier step later found rest lead, steps = earlier ++ step :: later ∧
    reader.readSteps earlier text = (found, .ok rest) ∧ step.rule = .literal lead ∧
    Text.partsInside lead rest = true

/-- Steps that stop inside a character blame the first byte that their literal text does not share. -/
theorem readSteps_of_stopInside {earlier later : List ReadStep} {found : List Finding}
    {rest lead : List Char} (before : reader.readSteps earlier text = (found, .ok rest))
    (rule : step.rule = .literal lead) (inside : Text.partsInside lead rest = true) :
    reader.readSteps (earlier ++ step :: later) text = (found, .error
      (Text.byteLength text - Text.byteLength rest + Text.sharedBytes lead rest)) :=
  -- The literal text is not all there, since it parts from the text.
  readSteps_eq_error_iff.mpr ⟨earlier, step, later, rest, _, rfl, before,
    readStep_literal_none rule (Text.after?_of_partsInside inside), rfl⟩

/-- A place beyond what steps have read is a boundary of the text as it is one of the rest. -/
theorem boundary_beyond {steps : List ReadStep} {found : List Finding} {rest : List Char}
    (read : reader.readSteps steps text = (found, .ok rest)) :
    Text.Boundary text (Text.byteLength text - Text.byteLength rest + skipped) ↔
      Text.Boundary rest skipped := by
  -- Cutting behind what was read moves every boundary by as many bytes.
  have within := reader.within_readSteps steps text
  rw [read] at within
  obtain ⟨taken, rfl⟩ := within
  rw [Text.byteLength_append, Nat.add_sub_cancel, Text.boundary_append_add]

/-- Steps that fail blame a place between characters, unless they stop inside one. -/
theorem boundary_of_readSteps {steps : List ReadStep} {found : List Finding} {far : Nat}
    (read : reader.readSteps steps text = (found, .error far)) :
    Text.Boundary text far ↔ ¬reader.StepsStopInside steps text := by
  constructor
  · rintro boundary ⟨earlier, step, later, others, rest, lead, rfl, before, rule, inside⟩
    -- The literal text fails, so the place is the one that it blames.
    rw [readSteps_of_stopInside before rule inside] at read
    cases read
    rw [boundary_beyond before,
      Text.boundary_sharedBytes_iff (Text.after?_of_partsInside inside), inside] at boundary
    cases boundary
  · -- The step that fails blames a boundary, or else it is literal text, for which inside and
    -- between are opposites.
    intro between
    -- The step that fails is found together with what the steps before it have left of the text.
    obtain ⟨earlier, step, later, rest, skipped, same, before, fails, rfl⟩ :=
      readSteps_eq_error_iff.mp read
    rw [boundary_beyond before]
    obtain ⟨lead, rule, unlike, rfl⟩ | ⟨-, boundary⟩ := blamed_of_readStep fails
    · refine (Text.boundary_sharedBytes_iff unlike).mpr (Bool.eq_false_iff.mpr fun inside => ?_)
      exact between ⟨earlier, step, later, found, rest, lead, same, before, rule, inside⟩
    · exact boundary

/-- Reading from a position fails at literal text that parts from the text inside a character. -/
def StopsInside (reader : Reader) (text : String) (start : Nat) : Prop :=
  ∃ begun, Text.from? text.toList start = some begun ∧ reader.StepsStopInside reader.steps begun

/-- The place that a failed reading blames can be cut at, unless reading stops inside a character. -/
theorem errorIndex_readInto {text : String} {position : Position} (collected : Collected)
    (valid : String.Pos.Raw.IsValid text ⟨position.index⟩)
    (failed : (reader.readInto text position collected).1 = false) :
    ∃ place, (reader.readInto text position collected).2.1.errorIndex = some place ∧
      (String.Pos.Raw.IsValid text ⟨place⟩ ↔ ¬reader.StopsInside text position.index) := by
  -- The position is valid, so that the text can be cut there before reading begins.
  obtain ⟨begun, starts⟩ := Text.boundary_iff.mp (Text.boundary_toList_iff.mpr valid)
  obtain ⟨front, split, ends⟩ := Text.from?_eq_some_iff.mp starts
  rw [readInto] at failed ⊢
  simp only [starts] at failed ⊢
  rcases read : reader.readSteps reader.steps begun with ⟨found, outcome⟩
  cases outcome with
  | ok rest =>
    rw [read] at failed
    cases failed
  | error far =>
    refine ⟨_, rfl, ?_⟩
    -- The place lies as far into the text as the failure into the part from the position on.
    rw [← Text.boundary_toList_iff, split, ← ends, Text.boundary_append_add,
      boundary_of_readSteps read]
    simp only [StopsInside, split, Text.from?_append, Option.some.injEq, exists_eq_left']

/-- A reading whose steps all succeed does not stop inside a character. -/
theorem not_stopsInside_of_readInto {text : String} {position : Position} {collected : Collected}
    (read : (reader.readInto text position collected).1 = true) :
    ¬reader.StopsInside text position.index := by
  -- Stopping inside a character would have ended in an error.
  rintro ⟨begun, starts, earlier, step, later, found, rest, lead, same, before, rule, inside⟩
  rw [readInto, same] at read
  simp only [starts, readSteps_of_stopInside before rule inside] at read
  cases read

/-- Blamed places can be cut at exactly when no reading stops at literal text inside a character. -/
theorem errorIndex_valid_iff (reader : Reader) (text : String) (position : Position)
    (collected : Collected) (valid : String.Pos.Raw.IsValid text ⟨position.index⟩) :
    ((reader.readInto text position collected).1 = false →
      ∃ place, (reader.readInto text position collected).2.1.errorIndex = some place ∧
        (String.Pos.Raw.IsValid text ⟨place⟩ ↔ ¬reader.StopsInside text position.index)) ∧
    ((reader.readAt text position).1 = none →
      ∃ place, (reader.readAt text position).2.errorIndex = some place ∧
        (String.Pos.Raw.IsValid text ⟨place⟩ ↔ ¬reader.StopsInside text position.index)) := by
  -- Reading into fields blames as above, and reading an instant either does so or blames its start.
  refine ⟨errorIndex_readInto collected valid, fun missing => ?_⟩
  rw [readAt] at missing ⊢
  rcases read : reader.readInto text position .empty with ⟨success, after, known⟩
  cases success with
  | false =>
    have blamed := errorIndex_readInto .empty valid (congrArg Prod.fst read)
    rw [read] at blamed
    exact blamed
  | true =>
    rw [read] at missing
    -- Fields that do not resolve are blamed on the position where reading began.
    cases resolved : known.resolve? reader.zone reader.calendar with
    | some instant =>
      simp only [resolved] at missing
      cases missing
    | none =>
      have whole := not_stopsInside_of_readInto (congrArg Prod.fst read)
      simp only [resolved]
      exact ⟨_, rfl, iff_of_true valid whole⟩

/-- Another character with the first two bytes of the sign for years is blamed at its third byte. -/
theorem errorIndex_valid_iff_yearSign :
    ∃ format after,
      Format.compile "yyyy年M月d日" .utc .americanEnglish none FormatCache.builtin.registry =
        .ok format after ∧
      (format.reader.readInto "2024幵3月15日" ⟨0, none⟩ .empty).1 = false ∧
      format.reader.readAt "2024幵3月15日" ⟨0, none⟩ = (none, ⟨0, some 6⟩) ∧
      format.reader.StopsInside "2024幵3月15日" 0 ∧
      ¬String.Pos.Raw.IsValid "2024幵3月15日" ⟨6⟩ := by
  -- The reading is run, and the general statement tells what its blamed place means.
  obtain ⟨format, after, compiled, failed, read⟩ : ∃ format after,
      Format.compile "yyyy年M月d日" .utc .americanEnglish none FormatCache.builtin.registry =
        .ok format after ∧
      (format.reader.readInto "2024幵3月15日" ⟨0, none⟩ .empty).1 = false ∧
      format.reader.readAt "2024幵3月15日" ⟨0, none⟩ = (none, ⟨0, some 6⟩) :=
    ⟨_, _, rfl, by decide +kernel, by decide +kernel⟩
  have start : String.Pos.Raw.IsValid "2024幵3月15日" ⟨0⟩ := Text.boundary_toList_iff.mp (by decide)
  have inside : ¬String.Pos.Raw.IsValid "2024幵3月15日" ⟨6⟩ := fun valid =>
    absurd (Text.boundary_toList_iff.mpr valid) (by decide)
  obtain ⟨place, blamed, exactly⟩ := (errorIndex_valid_iff format.reader "2024幵3月15日" ⟨0, none⟩
    .empty start).2 (congrArg Prod.fst read)
  rw [read] at blamed
  cases blamed
  exact ⟨format, after, compiled, failed, read,
    Classical.not_not.mp fun whole => inside (exactly.mpr whole), inside⟩

end Reader

end DatePattern
