import DatePattern.Proofs.Reading.Checked
import DatePattern.Proofs.Reading.Marked

/-! Where reading stops: the first step that fails, after all that the steps before it have found. -/

namespace DatePattern.Reader

variable {reader : Reader} {text rest : List Char} {all : List Finding} {far : Nat}

/-- Steps fail when the first one does, or when it succeeds and the others fail after it. -/
theorem readSteps_cons_eq_error {step : ReadStep} {steps : List ReadStep} :
    reader.readSteps (step :: steps) text = (all, .error far) ↔
      (reader.readStep step text = .error far ∧ all = []) ∨
      ∃ found rest later beyond, reader.readStep step text = .ok (found, rest) ∧
        reader.readSteps steps rest = (later, .error beyond) ∧ all = found ++ later ∧
        far = Text.byteLength text - Text.byteLength rest + beyond := by
  rw [readSteps]
  constructor
  · intro read
    -- A failure of the first step keeps the others from being taken.
    cases first : reader.readStep step text with
    | error skipped =>
      rw [first] at read
      cases read
      exact .inl ⟨rfl, rfl⟩
    | ok answer =>
      obtain ⟨found, rest⟩ := answer
      simp only [first] at read
      rcases others : reader.readSteps steps rest with ⟨later, outcome⟩
      rw [others] at read
      obtain ⟨rfl, ended⟩ := Prod.mk.inj read
      -- A later failure is counted from where the first step has ended.
      cases outcome with
      | ok last => cases ended
      | error beyond =>
        cases ended
        exact .inr ⟨found, rest, later, beyond, rfl, others, rfl, rfl⟩
  · rintro (⟨first, rfl⟩ | ⟨found, rest, later, beyond, first, others, rfl, rfl⟩)
    · simp only [first]
    · simp only [first, others]
      rfl

/-- The end of a text is no longer than the text. -/
theorem byteLength_le_of_split (split : ∃ taken, text = taken ++ rest) :
    Text.byteLength rest ≤ Text.byteLength text := by
  -- The bytes of what was taken come on top.
  obtain ⟨taken, rfl⟩ := split
  rw [Text.byteLength_append]
  exact Nat.le_add_left _ _

/-- What a step leaves of a text is no longer than the text. -/
theorem byteLength_le_of_readStep {step : ReadStep}
    (read : reader.readStep step text = .ok (all, rest)) :
    Text.byteLength rest ≤ Text.byteLength text := by
  -- A step that succeeds has taken a front of the text.
  have within := reader.within_readStep step text
  rw [read] at within
  exact byteLength_le_of_split within

/-- What steps leave of a text is no longer than the text. -/
theorem byteLength_le_of_readSteps {steps : List ReadStep}
    (read : reader.readSteps steps text = (all, .ok rest)) :
    Text.byteLength rest ≤ Text.byteLength text := by
  -- Steps in a row have taken a front of the text as well.
  have within := reader.within_readSteps steps text
  rw [read] at within
  exact byteLength_le_of_split within

/-- Steps fail at the first one that does, which leaves what the steps before it have found. -/
theorem readSteps_eq_error_iff {steps : List ReadStep} :
    reader.readSteps steps text = (all, .error far) ↔
      ∃ earlier step later rest skipped, steps = earlier ++ step :: later ∧
        reader.readSteps earlier text = (all, .ok rest) ∧
        reader.readStep step rest = .error skipped ∧
        far = Text.byteLength text - Text.byteLength rest + skipped := by
  constructor
  · intro read
    -- The first step fails itself, or it comes before the one that is found among the others.
    induction steps generalizing text all far with
    | nil => cases read
    | cons step steps ih =>
      obtain ⟨here, rfl⟩ | ⟨found, rest, later, beyond, here, others, rfl, rfl⟩ :=
        readSteps_cons_eq_error.mp read
      · exact ⟨[], step, steps, text, far, rfl, rfl, here, by omega⟩
      · obtain ⟨earlier, failing, unread, reached, skipped, rfl, before, fails, rfl⟩ := ih others
        refine ⟨step :: earlier, failing, unread, reached, skipped, rfl,
          readSteps_cons_eq_ok.mpr ⟨found, rest, later, here, before, rfl⟩, fails, ?_⟩
        have longer := byteLength_le_of_readStep here
        have shorter := byteLength_le_of_readSteps before
        omega
  · rintro ⟨earlier, step, later, rest, skipped, rfl, before, fails, rfl⟩
    -- The steps before the failing one are put back in front, one after the other.
    induction earlier generalizing text all with
    | nil =>
      cases before
      exact readSteps_cons_eq_error.mpr (.inl ⟨by rw [Nat.sub_self, Nat.zero_add, fails], rfl⟩)
    | cons first earlier ih =>
      obtain ⟨found, reached, others, here, read, rfl⟩ := readSteps_cons_eq_ok.mp before
      refine readSteps_cons_eq_error.mpr (.inr ⟨found, reached, others, _, here, ih read, rfl, ?_⟩)
      have longer := byteLength_le_of_readStep here
      have shorter := byteLength_le_of_readSteps read
      omega

end DatePattern.Reader
