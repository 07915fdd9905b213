import DatePattern.Proofs.Cache
import DatePattern.Proofs.Reading.Contract
import DatePattern.Proofs.Reading.Origins
import DatePattern.Proofs.Reading.Stored

/-! Reading into fields that are known already: what is found stands over what was known. -/

namespace DatePattern

namespace Collected

/-- What is known later stands over what was known earlier. -/
def overlay (earlier later : Collected) : Collected where
  value? field := (later.value? field).or (earlier.value? field)
  zone? := later.zone?.or earlier.zone?

/-- Nothing known later leaves what was known. -/
theorem overlay_empty (earlier : Collected) : earlier.overlay .empty = earlier := rfl

/-- A finding that is taken in late stands over the earlier fields as well. -/
theorem add_overlay (earlier later : Collected) (finding : Finding) :
    (earlier.overlay later).add finding = earlier.overlay (later.add finding) := by
  cases finding with
  | zone zone => rfl
  | value field value =>
    simp only [add, set, overlay, mk.injEq, and_true]
    -- The field that is set hides what was known of it, above as below.
    funext other
    split <;> rfl

/-- Findings taken in over known fields stand over them. -/
theorem addAll_eq_overlay (collected : Collected) (findings : List Finding) :
    collected.addAll findings = collected.overlay (empty.addAll findings) := by
  -- One finding after the other is taken in above the known fields.
  have above : ∀ later : Collected,
      (collected.overlay later).addAll findings = collected.overlay (later.addAll findings) := by
    induction findings with
    | nil => exact fun later => rfl
    | cons finding findings ih =>
      intro later
      simp only [addAll, List.foldl_cons] at ih ⊢
      rw [add_overlay, ih]
  have whole := above empty
  rwa [overlay_empty] at whole

end Collected

namespace Reader

variable {reader : Reader} {tokens : List Token}

/-- The reader of the first pieces of a text only. -/
def first (reader : Reader) (count : Nat) : Reader :=
  { reader with steps := reader.steps.take count }

/-- A step depends on no other steps. -/
theorem readStep_first (reader : Reader) (count : Nat) (step : ReadStep) (text : List Char) :
    (reader.first count).readStep step text = reader.readStep step text := rfl

/-- Steps are read alike by the reader of the first pieces. -/
theorem readSteps_first (reader : Reader) (count : Nat) (steps : List ReadStep)
    (text : List Char) :
    (reader.first count).readSteps steps text = reader.readSteps steps text := by
  -- The two readers differ in their steps alone, which are given here.
  induction steps generalizing text with
  | nil => rfl
  | cons step steps ih => simp only [readSteps, readStep_first, ih]

/-- What is found in a text stands over what was known, and all else is as from nothing known. -/
theorem readInto_eq_overlay (reader : Reader) (text : String) (position : Position)
    (collected : Collected) :
    reader.readInto text position collected =
      ((reader.readInto text position .empty).1, (reader.readInto text position .empty).2.1,
        collected.overlay (reader.readInto text position .empty).2.2) := by
  rw [readInto, readInto]
  cases Text.from? text.toList position.index with
  | none => rfl
  | some rest =>
    -- What is found does not depend on what was known, and neither does the success.
    simp only [collected.addAll_eq_overlay]
    cases (reader.readSteps reader.steps rest).2 with
    | ok unread => rfl
    | error skipped => rfl

/-- Reading that fails at the token after some others, which have told all that is known. -/
structure StopsAfter (reader : Reader) (text : String) (position : Position) (found : Collected)
    (earlier : List Token) : Prop where
  /-- The pieces of those tokens alone are read, and tell the same. -/
  read : ∃ reached,
    (reader.first earlier.length).readInto text position .empty = (true, reached, found)
  /-- With the next piece reading fails. -/
  fails : ((reader.first (earlier.length + 1)).readInto text position .empty).1 = false
  /-- All that is known belongs to those tokens. -/
  own : found.FoundBy earlier

/-- Steps that fail stop after the tokens whose steps have succeeded. -/
theorem exists_stopsAfter {text : String} {position ended : Position} {found : Collected}
    (own : List.Forall₂ ReadStep.FindsFor tokens reader.steps)
    (valid : String.Pos.Raw.IsValid text ⟨position.index⟩)
    (read : reader.readInto text position .empty = (false, ended, found)) :
    ∃ earlier failing later, tokens = earlier ++ failing :: later ∧
      reader.StopsAfter text position found earlier := by
  -- Reading starts at a boundary, so that it can only have failed in one of the steps.
  obtain ⟨begun, starts⟩ := Text.boundary_iff.mp (Text.boundary_toList_iff.mpr valid)
  rw [readInto] at read
  simp only [starts] at read
  rcases outcome : reader.readSteps reader.steps begun with ⟨findings, far | unread⟩
  · rw [outcome] at read
    cases read
    obtain ⟨before, step, after, rest, skipped, same, succeed, fails, rfl⟩ :=
      readSteps_eq_error_iff.mp outcome
    rw [same] at own
    -- The tokens are parted where their steps are.
    obtain ⟨failing, later, -, -, split⟩ :=
      List.forall₂_cons_right_iff.mp (List.forall₂_drop_append _ _ _ own)
    have parted : tokens = tokens.take before.length ++ failing :: later := by
      rw [← split, List.take_append_drop]
    have ownEarlier := List.forall₂_take_append _ _ _ own
    have count := ownEarlier.length_eq
    refine ⟨_, failing, later, parted, ?_, ?_, ?_⟩
    -- The steps before the failing one succeed alone, and with it they fail where all steps do.
    · have firstSteps : (reader.first before.length).steps = before := by
        rw [first, same, List.take_left]
      rw [count, readInto]
      simp only [starts, firstSteps, readSteps_first, succeed]
      exact ⟨_, rfl⟩
    · have firstSteps : (reader.first (before.length + 1)).steps = before ++ [step] := by
        rw [first, same, List.take_append, Nat.add_sub_cancel_left,
          List.take_of_length_le (Nat.le_succ _)]
        rfl
      have stops := readSteps_eq_error_iff.mpr ⟨before, step, [], rest, skipped, rfl, succeed,
        fails, rfl⟩
      rw [count, readInto]
      simp only [starts, firstSteps, readSteps_first, stops]
    · exact (Collected.foundBy_empty _).addAll (mayFind_of_readSteps ownEarlier succeed)
  · rw [outcome] at read
    cases read

/-- Reading that succeeds finds what belongs to the tokens. -/
theorem foundBy_of_readInto {text : String} {position ended : Position} {found : Collected}
    (own : List.Forall₂ ReadStep.FindsFor tokens reader.steps)
    (read : reader.readInto text position .empty = (true, ended, found)) :
    found.FoundBy tokens := by
  rw [readInto] at read
  -- Both the boundary and the steps must have succeeded.
  split at read
  next => cases read
  next begun _ =>
    rcases outcome : reader.readSteps reader.steps begun with ⟨findings, far | unread⟩
    · rw [outcome] at read
      cases read
    · rw [outcome] at read
      cases read
      exact (Collected.foundBy_empty _).addAll (mayFind_of_readSteps own outcome)

/-- Reading from no boundary finds nothing. -/
theorem eq_empty_of_readInto {text : String} {position ended : Position} {found : Collected}
    {success : Bool} (invalid : ¬String.Pos.Raw.IsValid text ⟨position.index⟩)
    (read : reader.readInto text position .empty = (success, ended, found)) : found = .empty := by
  -- No boundary means that there is no text to begin with.
  rw [← Text.boundary_toList_iff, Text.boundary_iff] at invalid
  rw [readInto] at read
  cases starts : Text.from? text.toList position.index with
  | none =>
    rw [starts] at read
    cases read
    rfl
  | some begun => exact absurd ⟨begun, starts⟩ invalid

end Reader

namespace Format

/-- Reading over known fields is reading from none, laid over them, and a failure keeps what came before it. -/
theorem readInto_overlay {pattern : String} {zone : Zone} {locale : Locale}
    {centuryStart : Option Instant} {before after : Registry} {format : Format}
    (faithful : before.Faithful)
    (compiled : compile pattern zone locale centuryStart before = .ok format after) :
    ∃ tokens, Token.ofPattern pattern = .ok tokens ∧
      ∀ (text : String) (position : Position) (collected : Collected) (success : Bool)
        (ended : Position) (found : Collected),
        format.reader.readInto text position .empty = (success, ended, found) →
        format.reader.readInto text position collected =
          (success, ended, collected.overlay found) ∧
        format.reader.storeInto text position collected =
          (success, ended, collected.overlay found) ∧
        (success = true → found.FoundBy tokens) ∧
        (success = false →
          ¬String.Pos.Raw.IsValid text ⟨position.index⟩ ∧ found = .empty ∨
          ∃ earlier failing later, tokens = earlier ++ failing :: later ∧
            format.reader.StopsAfter text position found earlier) := by
  -- The reader overlays what it finds, and what it finds is accounted for by its tokens.
  obtain ⟨-, -, -, tokens, known, made⟩ := compiledFrom faithful compiled
  refine ⟨tokens, known, ?_⟩
  intro text position collected success ended found read
  refine ⟨?_, ?_, ?_, ?_⟩
  · rw [Reader.readInto_eq_overlay, read]
  · -- Storing step by step comes to the same as reading and then taking in.
    rw [Reader.storeInto_eq, Reader.readInto_eq_overlay, read]
  · rintro rfl
    exact Reader.foundBy_of_readInto made.findsFor read
  · rintro rfl
    by_cases valid : String.Pos.Raw.IsValid text ⟨position.index⟩
    · exact .inr (Reader.exists_stopsAfter made.findsFor valid read)
    · exact .inl ⟨valid, Reader.eq_empty_of_readInto valid read⟩

/-- A date without its day is read over another day, which is kept, and over another month, which is not. -/
theorem readInto_overlay_dayMissing :
    let used := ((Collected.empty.set .month 0).set .dayOfMonth 31).setZone .utc
    ∃ format after tokens found,
      compile "yyyy-MM-dd" .utc .americanEnglish none FormatCache.builtin.registry =
        .ok format after ∧
      Token.ofPattern "yyyy-MM-dd" = .ok tokens ∧
      format.reader.readInto "2024-11-xx" ⟨0, none⟩ used =
        (false, ⟨0, some 8⟩, used.overlay found) ∧
      (∃ earlier failing later, tokens = earlier ++ failing :: later ∧
        format.reader.StopsAfter "2024-11-xx" ⟨0, none⟩ found earlier) ∧
      ((used.overlay found).value? .year, (used.overlay found).value? .month,
        (used.overlay found).value? .dayOfMonth) = (some 2024, some 10, some 31) := by
  -- Reading stops at the day, so that year and month have been stored by then.
  intro used
  obtain ⟨format, after, compiled, ends, fields⟩ : ∃ format after,
      compile "yyyy-MM-dd" .utc .americanEnglish none FormatCache.builtin.registry =
        .ok format after ∧
      ((format.reader.readInto "2024-11-xx" ⟨0, none⟩ .empty).1,
        (format.reader.readInto "2024-11-xx" ⟨0, none⟩ .empty).2.1) = (false, ⟨0, some 8⟩) ∧
      let found := (format.reader.readInto "2024-11-xx" ⟨0, none⟩ .empty).2.2
      ((used.overlay found).value? .year, (used.overlay found).value? .month,
        (used.overlay found).value? .dayOfMonth) = (some 2024, some 10, some 31) :=
    ⟨_, _, rfl, by decide +kernel, by decide +kernel⟩
  obtain ⟨tokens, known, laws⟩ := readInto_overlay (Registry.faithful_new rfl rfl) compiled
  obtain ⟨failed, reached⟩ := Prod.mk.inj ends
  have read : format.reader.readInto "2024-11-xx" ⟨0, none⟩ .empty =
      (false, ⟨0, some 8⟩, (format.reader.readInto "2024-11-xx" ⟨0, none⟩ .empty).2.2) := by
    rw [← failed, ← reached]
  obtain ⟨overlaid, -, -, stopped⟩ := laws "2024-11-xx" ⟨0, none⟩ used _ _ _ read
  have start : String.Pos.Raw.IsValid "2024-11-xx" ⟨0⟩ :=
    Text.boundary_toList_iff.mp (by decide)
  exact ⟨format, after, tokens, _, compiled, known, overlaid,
    (stopped rfl).resolve_left fun invalid => invalid.1 start, fields⟩

end Format

end DatePattern
