import DatePattern.Proofs.Reading.Stopped

/-! Storing while reading: the reader that takes in what each step finds before the next one begins. -/

namespace DatePattern.Reader

/-- A step that stores what it finds: the text after it or the bytes to its failure, and the fields then. -/
def storeStep (reader : Reader) (step : ReadStep) (text : List Char) (collected : Collected) :
    Except Nat (List Char) × Collected :=
  match step.rule with
  | .number field modifier =>
    let (skipped, digits, rest) := digitRun step.maxWidth text
    if digits = [] then (.error (Text.byteLength skipped), collected)
    else match (Count.within? (Digits.value digits)).bind (reader.modify? · modifier) with
      | some value => (.ok rest, collected.set field value)
      | none => (.error (Text.byteLength skipped), collected)
  | .fraction =>
    let (skipped, digits, rest) := digitRun step.maxWidth text
    if digits = [] then (.error (Text.byteLength skipped), collected)
    else (.ok rest, collected.set .nanoOfSecond (nanosOf digits))
  | .literal lead =>
    match Text.after? lead text with
    | some rest => (.ok rest, collected)
    | none => (.error (Text.sharedBytes lead text), collected)
  | .text matcher =>
    match matcher.match? text with
    | some (value, _, rest) => (.ok rest, collected.set matcher.field value)
    | none => (.error 0, collected)
  | .zone matcher =>
    match matcher.match? text with
    | some (.offset zone, _, rest) => (.ok rest, collected.setZone zone)
    | some (.named named, _, rest) =>
      -- A name stores the two parts of an offset and leaves the zone as it was.
      let offsets := named.offsets reader.reference
      (.ok rest, (collected.set .dstOffset offsets.daylight).set .zoneOffset offsets.standard)
    | none => (.error 0, collected)
  | .isoZone form =>
    match form.takeZulu? text with
    | some (taken, rest) => (.ok rest, collected.setZone (reader.isoZone taken))
    | none => (.error 0, collected)

/-- Steps that store what they find, from a position on: where they end or fail, and the fields then. -/
def storeSteps (reader : Reader) :
    (steps : List ReadStep) → (text : List Char) → (index : Nat) → (collected : Collected) →
      Except Nat Nat × Collected
  | [], _, index, collected => (.ok index, collected)
  | step :: steps, text, index, collected =>
    match reader.storeStep step text collected with
    | (.error skipped, collected) => (.error (index + skipped), collected)
    | (.ok rest, collected) =>
      reader.storeSteps steps rest (index + (Text.byteLength text - Text.byteLength rest)) collected

/-- Reads a text from a position on, storing all that is found on the way. -/
def storeInto (reader : Reader) (text : String) (position : Position) (collected : Collected) :
    Bool × Position × Collected :=
  match Text.from? text.toList position.index with
  | none => (false, { position with errorIndex := some position.index }, collected)
  | some begun =>
    match reader.storeSteps reader.steps begun position.index collected with
    | (.ok index, collected) => (true, { position with index }, collected)
    | (.error place, collected) => (false, { position with errorIndex := some place }, collected)

/-- A step stores what it finds when it succeeds, and nothing when it fails. -/
theorem storeStep_eq (reader : Reader) (step : ReadStep) (text : List Char)
    (collected : Collected) :
    reader.storeStep step text collected =
      match reader.readStep step text with
      | .ok (found, rest) => (.ok rest, collected.addAll found)
      | .error skipped => (.error skipped, collected) := by
  unfold storeStep readStep
  -- Storing asks the text what reading asks it, so both take the same branch.
  cases step.rule with
  | number field modifier =>
    rcases digitRun step.maxWidth text with ⟨skipped, digits, rest⟩
    simp only
    split
    next => rfl
    next => cases (Count.within? (Digits.value digits)).bind (reader.modify? · modifier) <;> rfl
  | fraction =>
    rcases digitRun step.maxWidth text with ⟨skipped, digits, rest⟩
    simp only
    split <;> rfl
  | literal lead =>
    simp only
    cases Text.after? lead text <;> rfl
  | text matcher =>
    simp only
    cases matcher.match? text <;> rfl
  | zone matcher =>
    simp only
    rcases matcher.match? text with _ | ⟨mention, taken, rest⟩
    · rfl
    · cases mention <;> rfl
  | isoZone form =>
    simp only
    cases form.takeZulu? text <;> rfl

/-- Steps store what they find up to the first one that fails. -/
theorem storeSteps_eq (reader : Reader) (steps : List ReadStep) (text : List Char) (index : Nat)
    (collected : Collected) :
    reader.storeSteps steps text index collected =
      ((match (reader.readSteps steps text).2 with
        | .ok rest => .ok (index + (Text.byteLength text - Text.byteLength rest))
        | .error skipped => .error (index + skipped)),
        collected.addAll (reader.readSteps steps text).1) := by
  -- Each step moves the position on by what it reads, and the others go on from there.
  induction steps generalizing text index collected with
  | nil => simp [storeSteps, readSteps, Collected.addAll]
  | cons step steps ih =>
    rw [storeSteps, storeStep_eq, readSteps]
    cases here : reader.readStep step text with
    | error skipped => rfl
    | ok answer =>
      obtain ⟨found, rest⟩ := answer
      have longer := byteLength_le_of_readStep here
      simp only [ih]
      rcases read : reader.readSteps steps rest with ⟨later, outcome⟩
      simp only [Collected.addAll, List.foldl_append, Prod.mk.injEq, and_true]
      cases outcome with
      | error beyond => simp only [Except.mapError, Nat.add_assoc]
      | ok last =>
        have shorter := byteLength_le_of_readSteps read
        simp only [Except.mapError, Except.ok.injEq]
        omega

/-- Storing while reading is the same as taking in all that was found at the end. -/
theorem storeInto_eq (reader : Reader) (text : String) (position : Position)
    (collected : Collected) :
    reader.storeInto text position collected = reader.readInto text position collected := by
  -- Both give up where the position lies in no text, and agree step by step otherwise.
  rw [storeInto, readInto]
  cases Text.from? text.toList position.index with
  | none => rfl
  | some begun =>
    simp only [storeSteps_eq]
    cases (reader.readSteps reader.steps begun).2 <;> rfl

end DatePattern.Reader
