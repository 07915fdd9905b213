import DatePattern.Pattern.Error

/-!
Computations on a state: what they answer, what they leave, and when the answer does not depend on the state.

A computation is uniform on states of some kind if it answers the same from all of them and leaves one of them.
-/

namespace DatePattern

variable {σ α β : Type}

/-- The answer of a computation, without the state that it leaves. -/
def answer (compute : EStateM PatternError σ α) (before : σ) : Except PatternError α :=
  match compute before with
  | .ok value _ => .ok value
  | .error reason _ => .error reason

/-- The state that a computation leaves, whether it succeeds or not. -/
def final (compute : EStateM PatternError σ α) (before : σ) : σ :=
  match compute before with
  | .ok _ after => after
  | .error _ after => after

/-- A computation that ends with a result answers it, and leaves the state that it ends in. -/
theorem ended_ok {compute : EStateM PatternError σ α} {before after : σ} {value : α}
    (ended : compute before = .ok value after) :
    answer compute before = .ok value ∧ final compute before = after := by
  -- Both look at what the computation ends with, and at nothing else of it.
  unfold answer final
  rw [ended]
  exact ⟨rfl, rfl⟩

/-- A computation that ends with an error answers it, and leaves the state that it ends in. -/
theorem ended_error {compute : EStateM PatternError σ α} {before after : σ} {reason : PatternError}
    (ended : compute before = .error reason after) :
    answer compute before = .error reason ∧ final compute before = after := by
  -- As for a result, the end of the computation is all that counts.
  unfold answer final
  rw [ended]
  exact ⟨rfl, rfl⟩

/-- Two computations in a row end with the first if it fails, and with the second otherwise. -/
theorem bind_cases (first : EStateM PatternError σ α) (next : α → EStateM PatternError σ β)
    (before : σ) :
    (∃ reason, answer first before = .error reason ∧
      answer (first >>= next) before = .error reason ∧
      final (first >>= next) before = final first before) ∨
    ∃ value, answer first before = .ok value ∧
      answer (first >>= next) before = answer (next value) (final first before) ∧
      final (first >>= next) before = final (next value) (final first before) := by
  -- What the first computation ends with decides, and is passed on as it is.
  have joined : (first >>= next) before = EStateM.bind first next before := rfl
  unfold answer final
  rw [joined, EStateM.bind]
  cases first before with
  | ok value middle => exact .inr ⟨value, rfl, rfl, rfl⟩
  | error reason middle => exact .inl ⟨reason, rfl, rfl, rfl⟩

/-- A computation that leaves a state of some kind whenever it begins in one. -/
def Preserves (kind : σ → Prop) (compute : EStateM PatternError σ α) : Prop :=
  ∀ before, kind before → kind (final compute before)

/-- A computation that answers the same from all states of some kind. -/
def Uniform (kind : σ → Prop) (compute : EStateM PatternError σ α) : Prop :=
  ∃ given, ∀ before, kind before → answer compute before = given

variable {kind : σ → Prop}

/-- A result that is there already leaves every state. -/
theorem preserves_pure (value : α) : Preserves kind (pure value) := fun _ own => own

/-- An error that is there already leaves every state. -/
theorem preserves_throw (reason : PatternError) :
    Preserves kind (throw reason : EStateM PatternError σ α) := fun _ own => own

/-- Looking at the state leaves it. -/
theorem preserves_get : Preserves kind (get : EStateM PatternError σ σ) := fun _ own => own

/-- A change of the state leaves what it changes it to. -/
theorem preserves_modifyGet {change : σ → α × σ}
    (kept : ∀ before, kind before → kind (change before).2) : Preserves kind (modifyGet change) :=
  kept

/-- Two computations in a row leave a state of some kind if both of them do. -/
theorem Preserves.bind {first : EStateM PatternError σ α} {next : α → EStateM PatternError σ β}
    (early : Preserves kind first) (late : ∀ value, Preserves kind (next value)) :
    Preserves kind (first >>= next) := by
  -- The state between them is of that kind, whether or not the second one begins.
  intro before own
  have middle := early before own
  rcases bind_cases first next before with ⟨-, -, -, ended⟩ | ⟨value, -, -, ended⟩
  · rw [ended]
    exact middle
  · rw [ended]
    exact late value _ middle

/-- Applying a function to the result leaves the state that the computation leaves. -/
theorem Preserves.map {compute : EStateM PatternError σ α} (kept : Preserves kind compute)
    (f : α → β) : Preserves kind (f <$> compute) := by
  -- Applying a function is one more computation in a row, which looks at no state.
  rw [map_eq_pure_bind]
  exact kept.bind fun value => preserves_pure (f value)

/-- Items in a row leave a state of some kind if each of them does. -/
theorem preserves_mapM {step : α → EStateM PatternError σ β}
    (each : ∀ item, Preserves kind (step item)) (items : List α) :
    Preserves kind (items.mapM step) := by
  -- The first item hands on a state of the kind to the others.
  induction items with
  | nil => exact preserves_pure []
  | cons item items ih =>
    -- The results are put together at the end, which changes nothing.
    rw [List.mapM_cons]
    exact (each item).bind fun result => ih.bind fun results => preserves_pure _

/-- A result that is there already is the same in every state. -/
theorem uniform_pure (value : α) : Uniform kind (pure value) := ⟨.ok value, fun _ _ => rfl⟩

/-- An error that is there already is the same in every state. -/
theorem uniform_throw (reason : PatternError) :
    Uniform kind (throw reason : EStateM PatternError σ α) := ⟨.error reason, fun _ _ => rfl⟩

/-- A change of the state gives the same result wherever it gives some known one. -/
theorem uniform_modifyGet {change : σ → α × σ} {value : α}
    (known : ∀ before, kind before → (change before).1 = value) :
    Uniform kind (modifyGet change) := by
  -- A change always succeeds, with its result.
  refine ⟨.ok value, ?_⟩
  intro before own
  show Except.ok (change before).1 = _
  rw [known before own]

/-- What a computation does with its state is uniform if it does the same with all states of the kind. -/
theorem uniform_get_bind {next : σ → EStateM PatternError σ α} (source : σ)
    (alike : ∀ state, kind state → next state = next source) (uniform : Uniform kind (next source)) :
    Uniform kind (get >>= next) := by
  -- Whatever the state is, the computation goes on as from the source.
  obtain ⟨given, answers⟩ := uniform
  refine ⟨given, ?_⟩
  intro before own
  show answer (next before) before = given
  rw [alike before own]
  exact answers before own

/-- Two computations in a row are uniform if the first keeps the kind of state and both are uniform. -/
theorem Uniform.bind {first : EStateM PatternError σ α} {next : α → EStateM PatternError σ β}
    (early : Uniform kind first) (kept : Preserves kind first)
    (late : ∀ value, Uniform kind (next value)) : Uniform kind (first >>= next) := by
  obtain ⟨given, answers⟩ := early
  -- The first answer is known, and with it the computation that follows, if any does.
  cases given with
  | error reason =>
    refine ⟨.error reason, ?_⟩
    intro before own
    have failed := answers before own
    rcases bind_cases first next before with ⟨reason', first', both, -⟩ | ⟨value, done, -, -⟩
    · rw [first'] at failed
      cases failed
      exact both
    · rw [done] at failed
      cases failed
  | ok value =>
    -- The second computation begins in a state of the kind, since the first one keeps it.
    obtain ⟨given', answers'⟩ := late value
    refine ⟨given', ?_⟩
    intro before own
    have begun := answers before own
    rcases bind_cases first next before with ⟨reason, failed, -, -⟩ | ⟨value', done, both, -⟩
    · rw [failed] at begun
      cases begun
    · rw [done] at begun
      cases begun
      rw [both]
      exact answers' _ (kept before own)

/-- Applying a function to the result of a uniform computation is uniform. -/
theorem Uniform.map {compute : EStateM PatternError σ α} (uniform : Uniform kind compute)
    (kept : Preserves kind compute) (f : α → β) : Uniform kind (f <$> compute) := by
  -- Applying a function is one more computation in a row, which is uniform by itself.
  rw [map_eq_pure_bind]
  exact uniform.bind kept fun value => uniform_pure (f value)

/-- Items in a row are uniform if each of them is and keeps the kind of state. -/
theorem uniform_mapM {step : α → EStateM PatternError σ β}
    (each : ∀ item, Uniform kind (step item)) (kept : ∀ item, Preserves kind (step item))
    (items : List α) : Uniform kind (items.mapM step) := by
  -- The first item answers alike and keeps the kind, in which the others answer alike.
  induction items with
  | nil => exact uniform_pure []
  | cons item items ih =>
    rw [List.mapM_cons]
    refine (each item).bind (kept item) ?_
    intro result
    exact ih.bind (preserves_mapM kept items) fun results => uniform_pure _

end DatePattern
