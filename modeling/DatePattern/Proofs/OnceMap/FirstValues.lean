import DatePattern.Proofs.Cache
import DatePattern.Proofs.Computation
import DatePattern.Proofs.OnceMap
import Mathlib.Data.Set.Card

/-!
Runs of operations on a map in which the first value of a key stays.

Closures act on a state of their own, so that it shows whether they were run. A map answers all operations like a memory
of the first values, which is a function and stores nothing twice.
-/

namespace DatePattern

/-- The answers of steps in turn, and what the last of them leaves. -/
def inTurn {ι τ β : Type} (step : ι → τ → β × τ) : List ι → τ → List β × τ
  | [], reached => ([], reached)
  | first :: later, reached =>
    let (answer, next) := step first reached
    let (answers, last) := inTurn step later next
    (answer :: answers, last)

section InTurn

variable {ι τ τ' β : Type} {step : ι → τ → β × τ}

/-- What every step keeps is kept by steps in turn. -/
theorem inTurn_keeps (holds : τ → Prop)
    (keeps : ∀ i reached, holds reached → holds (step i reached).2) (steps : List ι) (reached : τ)
    (own : holds reached) : holds (inTurn step steps reached).2 := by
  -- The later steps begin with what the first one leaves.
  induction steps generalizing reached with
  | nil => exact own
  | cons first later ih => exact ih _ (keeps first reached own)

/-- Steps that agree with others through a view of what they leave do so in turn. -/
theorem inTurn_view {view : τ → τ'} {step' : ι → τ' → β × τ'}
    (agree : ∀ i reached, Prod.map id view (step i reached) = step' i (view reached))
    (steps : List ι) (reached : τ) :
    Prod.map id view (inTurn step steps reached) = inTurn step' steps (view reached) := by
  -- The first answers are the same, and so are the views from which the later steps begin.
  induction steps generalizing reached with
  | nil => rfl
  | cons first later ih =>
    simp only [inTurn, ← agree, ← ih, Prod.map]
    rfl

end InTurn

namespace OnceMap

variable {κ α ε σ : Type} [DecidableEq κ]

/-- The value of a key, where it is missing computed by a closure that acts on a state. -/
def getOrRun (map : OnceMap κ α) (key : κ) (compute : σ → Except ε α × σ) (state : σ) :
    Except ε α × OnceMap κ α × σ :=
  match map.get? key with
  | some kept => (.ok kept, map, state)
  | none => match compute state with
    | (.error reason, state) => (.error reason, map, state)
    | (.ok value, state) => let (kept, map) := map.insert key value; (.ok kept, map, state)

/-- What can be asked of a map. -/
inductive Operation (κ α ε σ : Type) where
  /-- The value of a key, if there is one. -/
  | get (key : κ)
  /-- The value of a key, for which one is offered. -/
  | insert (key : κ) (value : α)
  /-- The value of a key, for which a closure is offered that may fail. -/
  | attempt (key : κ) (compute : σ → Except ε α × σ)

/-- What a map answers to an operation, and what it leaves of the map and of the state. -/
def Operation.perform :
    Operation κ α ε σ → OnceMap κ α × σ → Except ε (Option α) × OnceMap κ α × σ
  | .get key, (map, state) => (.ok (map.get? key), map, state)
  | .insert key value, (map, state) =>
    let (kept, map) := map.insert key value
    (.ok (some kept), map, state)
  | .attempt key compute, (map, state) =>
    let (found, map, state) := map.getOrRun key compute state
    (found.map some, map, state)

/-- A memory with a value for a key, which is not the new one if there was one before. -/
def remember (memory : κ → Option α) (key : κ) (value : α) : κ → Option α :=
  Function.update memory key ((memory key).or (some value))

/-- What a memory of the first values answers to an operation, and what it leaves of itself and of the state. -/
def Operation.recall :
    Operation κ α ε σ → (κ → Option α) × σ → Except ε (Option α) × (κ → Option α) × σ
  | .get key, (memory, state) => (.ok (memory key), memory, state)
  | .insert key value, (memory, state) =>
    (.ok ((memory key).or (some value)), remember memory key value, state)
  | .attempt key compute, (memory, state) =>
    match memory key with
    | some first => (.ok (some first), memory, state)
    | none => match compute state with
      | (.error reason, state) => (.error reason, memory, state)
      | (.ok value, state) => (.ok (some value), remember memory key value, state)

/-- The values of all keys, and the state beside the map. -/
def view (reached : OnceMap κ α × σ) : (κ → Option α) × σ := (reached.1.get?, reached.2)

/-- An insertion answers the value that was there, and else the new one. -/
theorem insert_fst (map : OnceMap κ α) (key : κ) (value : α) :
    (map.insert key value).1 = (map.get? key).getD value := by
  -- There is a value for the key, or there is not.
  cases found : map.get? key <;> simp only [insert, found, Option.getD_some, Option.getD_none]

/-- An insertion changes the values of the keys as it changes a memory of the first ones. -/
theorem get?_insert (map : OnceMap κ α) (key : κ) (value : α) :
    (map.insert key value).2.get? = remember map.get? key value := by
  -- Only the inserted key may get another value than it had.
  funext other
  by_cases same : other = key
  · subst same
    rw [get?_insert_self, insert_fst, remember, Function.update_self]
    cases map.get? other <;> rfl
  · rw [get?_insert_of_ne map value same, remember, Function.update_of_ne same]

/-- A closure is run for a missing key only, and a failure of it changes nothing but the state. -/
theorem getOrRun_eq (map : OnceMap κ α) (key : κ) (compute : σ → Except ε α × σ) (state : σ) :
    map.getOrRun key compute state =
      match map.get? key, compute state with
      | some kept, _ => (.ok kept, map, state)
      | none, (.error reason, after) => (.error reason, map, after)
      | none, (.ok value, after) => (.ok value, (map.insert key value).2, after) := by
  cases found : map.get? key with
  | some kept => simp only [getOrRun, found]
  | none =>
    simp only [getOrRun, found]
    rcases compute state with ⟨outcome, after⟩
    cases outcome with
    | error reason => rfl
    -- The map still has no value for the key when the new one is inserted.
    | ok value => simp only [insert_of_missing found]

/-- A closure whose outcome is there beforehand gives the same answer, and the same map. -/
theorem getOrTry_eq (map : OnceMap κ α) (key : κ) (compute : σ → Except ε α × σ) (state : σ) :
    map.getOrTry key (fun _ => (compute state).1) =
      ((map.getOrRun key compute state).1, (map.getOrRun key compute state).2.1) := by
  -- What the closure does to the state does not come back to the map.
  cases found : map.get? key with
  | some kept => simp only [getOrTry, getOrRun, found]
  | none =>
    simp only [getOrTry, getOrRun, found]
    rcases compute state with ⟨outcome, after⟩
    cases outcome <;> rfl

/-- A computation that cannot fail is a closure that leaves the state alone. -/
theorem getOrRun_ok (map : OnceMap κ α) (key : κ) (compute : Unit → α) (state : σ) :
    map.getOrRun key (fun state => ((.ok (compute ()) : Except ε α), state)) state =
      (.ok (map.getOrCompute key compute).1, (map.getOrCompute key compute).2, state) := by
  -- A value is inserted alike by both where the key is missing.
  cases found : map.get? key <;> simp only [getOrRun, getOrCompute, found]

/-- A map answers an operation like a memory that has the values of its keys. -/
theorem perform_view (operation : Operation κ α ε σ) (reached : OnceMap κ α × σ) :
    Prod.map id view (operation.perform reached) = operation.recall (view reached) := by
  -- A memory looks for the key first, as the map does, and remembers what the map would insert.
  obtain ⟨map, state⟩ := reached
  cases operation with
  | get key => rfl
  | insert key value =>
    simp only [Operation.perform, Operation.recall, view, Prod.map, get?_insert, insert_fst]
    cases map.get? key <;> rfl
  | attempt key compute =>
    simp only [Operation.perform, Operation.recall, view, getOrRun_eq]
    cases map.get? key with
    | some kept => rfl
    | none =>
      rcases compute state with ⟨outcome, after⟩
      cases outcome with
      | error reason => rfl
      | ok value =>
        simp only [Prod.map, view, get?_insert]
        rfl

/-- An operation leaves a map as it is, or inserts one value. -/
theorem perform_cases (operation : Operation κ α ε σ) (reached : OnceMap κ α × σ) :
    (operation.perform reached).2.1 = reached.1 ∨
      ∃ key value, (operation.perform reached).2.1 = (reached.1.insert key value).2 := by
  -- Nothing is inserted by looking, for a key with a value, or after a failure.
  obtain ⟨map, state⟩ := reached
  cases operation with
  | get key => exact .inl rfl
  | insert key value => exact .inr ⟨key, value, rfl⟩
  | attempt key compute =>
    simp only [Operation.perform, getOrRun_eq]
    cases map.get? key with
    | some kept => exact .inl rfl
    | none =>
      rcases compute state with ⟨outcome, after⟩
      cases outcome with
      | error reason => exact .inl rfl
      | ok value => exact .inr ⟨key, value, rfl⟩

/-- No operation gives a key a second entry. -/
theorem nodup_keys_perform (operation : Operation κ α ε σ) (reached : OnceMap κ α × σ)
    (nodup : reached.1.keys.Nodup) : (operation.perform reached).2.1.keys.Nodup := by
  -- An insertion adds a key only if it is missing.
  rcases perform_cases operation reached with same | ⟨key, value, inserted⟩
  · rwa [same]
  · rw [inserted]
    exact nodup_keys_insert nodup key value

/-- No operation replaces the value of a key. -/
theorem get?_perform_of_some {key : κ} {kept : α} (operation : Operation κ α ε σ)
    (reached : OnceMap κ α × σ) (found : reached.1.get? key = some kept) :
    (operation.perform reached).2.1.get? key = some kept := by
  -- An insertion under the key itself leaves the value that is there.
  rcases perform_cases operation reached with same | ⟨other, value, inserted⟩
  · rwa [same]
  · rw [inserted]
    exact get?_insert_of_some found other value

/-- A map has as many entries as keys with a value, if no key has two. -/
theorem encard_keys {map : OnceMap κ α} (nodup : map.keys.Nodup) :
    {key | map.get? key ≠ none}.encard = map.size := by
  -- The keys with a value are those of the entries, which are counted once each.
  have listed : {key | map.get? key ≠ none} = (map.keys.toFinset : Set κ) := by
    ext key
    simp [mem_keys_iff, Option.ne_none_iff_exists']
  rw [listed, Set.encard_coe_eq_coe_finsetCard, List.toFinset_card_of_nodup nodup, keys,
    List.length_map, size]

/--
A map keeps the first value of each key, whatever is asked of it in turn.

It answers like a memory of the first values, and has as many entries as there are keys with a value; no value is
replaced later on. Of a key that has one no closure is run, and a closure that fails leaves the map as it is.
-/
theorem inTurn_keepsFirst {operations : List (Operation κ α ε σ)}
    {answers : List (Except ε (Option α))} {map : OnceMap κ α} {before after : σ}
    (ran : inTurn Operation.perform operations (empty, before) = (answers, map, after)) :
    inTurn Operation.recall operations (fun _ => none, before) = (answers, map.get?, after) ∧
    {key | map.get? key ≠ none}.encard = map.size ∧
    (∀ (later : List (Operation κ α ε σ)) key kept, map.get? key = some kept →
      (inTurn Operation.perform later (map, after)).2.1.get? key = some kept) ∧
    ∀ key (compute : σ → Except ε α × σ),
      map.getOrTry key (fun _ => (compute after).1) =
        ((map.getOrRun key compute after).1, (map.getOrRun key compute after).2.1) ∧
      map.getOrRun key compute after =
        match map.get? key, compute after with
        | some kept, _ => (.ok kept, map, after)
        | none, (.error reason, left) => (.error reason, map, left)
        | none, (.ok value, left) => (.ok value, (map.insert key value).2, left) := by
  refine ⟨?_, ?_, fun later key kept => ?_, fun key compute => ?_⟩
  · -- The memory that a new map looks like has no values either.
    have seen := inTurn_view perform_view operations (empty, before)
    rw [ran] at seen
    exact seen.symm
  · have nodup := inTurn_keeps (fun reached => reached.1.keys.Nodup) nodup_keys_perform
      operations (empty, before) List.nodup_nil
    rw [ran] at nodup
    exact encard_keys nodup
  · -- Each operation keeps a value that is there, and so do any number of them.
    exact inTurn_keeps (fun reached => reached.1.get? key = some kept) get?_perform_of_some later
      (map, after)
  · exact ⟨getOrTry_eq map key compute after, getOrRun_eq map key compute after⟩

/-- Four closures, which count the runs of all of them, with an insertion and other keys in between. -/
def tries : List (Operation Char Nat String Nat) :=
  [.attempt 'a' fun runs => (.error "early", runs + 1), .attempt 'a' fun runs => (.ok 3, runs + 1),
    .attempt 'a' fun runs => (.ok 4, runs + 1), .insert 'a' 5, .get 'b', .insert 'b' 7,
    .attempt 'c' fun runs => (.error "late", runs + 1)]

/-- The closure that is the first to succeed gives a key its value, and the one that is offered after it is not run. -/
theorem inTurn_keepsFirst_tries :
    inTurn Operation.perform tries (empty, 0) =
      ([.error "early", .ok (some 3), .ok (some 3), .ok (some 3), .ok none, .ok (some 7),
        .error "late"], ⟨[('a', 3), ('b', 7)]⟩, 3) ∧
    {key | (⟨[('a', 3), ('b', 7)]⟩ : OnceMap Char Nat).get? key ≠ none}.encard = 2 ∧
    (⟨[('a', 3), ('b', 7)]⟩ : OnceMap Char Nat).get? 'a' = some 3 ∧
    (inTurn Operation.perform tries (⟨[('a', 3), ('b', 7)]⟩, 3)).2.1.get? 'a' = some 3 := by
  -- The run is evaluated, and the general statement accounts for its entries and for a second run.
  have ran : inTurn Operation.perform tries (empty, 0) =
      ([.error "early", .ok (some 3), .ok (some 3), .ok (some 3), .ok none, .ok (some 7),
        .error "late"], ⟨[('a', 3), ('b', 7)]⟩, 3) := rfl
  have kept : (⟨[('a', 3), ('b', 7)]⟩ : OnceMap Char Nat).get? 'a' = some 3 := rfl
  obtain ⟨-, counted, stays, -⟩ := inTurn_keepsFirst ran
  exact ⟨ran, counted, kept, stays tries 'a' 3 kept⟩

end OnceMap

namespace FormatCache

/-- A format is asked of the formats of a cache with a closure that acts on the registry. -/
theorem format_eq_getOrRun (pattern : String) (zone : Option Zone) (locale : Option Locale)
    (cache : FormatCache) :
    FormatCache.format pattern zone locale cache =
      match cache.formats.getOrRun (cache.keyOf pattern zone locale)
        (fun registry => (answer (cache.keyOf pattern zone locale).compile registry,
          final (cache.keyOf pattern zone locale).compile registry)) cache.registry with
      | (.ok format, formats, registry) => .ok format { cache with registry, formats }
      | (.error reason, formats, registry) => .error reason { cache with registry, formats } := by
  -- A format that is kept ends the request, and only a missing one is compiled.
  rw [OnceMap.getOrRun_eq]
  cases kept : cache.formats.get? (cache.keyOf pattern zone locale) with
  | some format => exact format_of_kept kept
  | none =>
    rw [format_of_missing kept]
    cases compiled : (cache.keyOf pattern zone locale).compile cache.registry with
    | ok format registry =>
      obtain ⟨answered, left⟩ := ended_ok compiled
      simp only [answered, left]
    | error reason registry =>
      obtain ⟨answered, left⟩ := ended_error compiled
      simp only [answered, left]

end FormatCache

end DatePattern
