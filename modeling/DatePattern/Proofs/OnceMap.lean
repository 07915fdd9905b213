import DatePattern.OnceMap
import Mathlib.Data.List.Dedup

/-! Laws of maps in which the first value stays: what all values have in common, and which keys there are. -/

namespace DatePattern.OnceMap

variable {κ α ε : Type} [DecidableEq κ]

/-- The keys of a map, in the order of their arrival. -/
def keys (map : OnceMap κ α) : List κ := map.entries.map (·.1)

/-- Whether all values of a map stand in some relation to their keys. -/
def All (map : OnceMap κ α) (holds : κ → α → Prop) : Prop :=
  ∀ key value, map.get? key = some value → holds key value

/-- The empty map has no value that could be wrong. -/
theorem all_empty (holds : κ → α → Prop) : (empty : OnceMap κ α).All holds := by
  -- There is no such key.
  intro key value kept
  cases kept

/-- A value that is inserted under a missing key is the value of that key. -/
theorem insert_of_missing {map : OnceMap κ α} {key : κ} (missing : map.get? key = none)
    (value : α) : map.insert key value = (value, ⟨map.entries ++ [(key, value)]⟩) := by
  -- Nothing was there that could stay.
  simp only [insert, missing]

/-- A value that is inserted under a missing key is found there. -/
theorem get?_insert_of_missing {map : OnceMap κ α} {key : κ} (missing : map.get? key = none)
    (value : α) : (map.insert key value).2.get? key = some value := by
  -- The value that the insertion answers is the new one.
  rw [get?_insert_self, insert_of_missing missing]

/-- Inserting a value leaves the values that were there. -/
theorem get?_insert_of_some {map : OnceMap κ α} {key : κ} {kept : α}
    (found : map.get? key = some kept) (other : κ) (value : α) :
    (map.insert other value).2.get? key = some kept := by
  -- The insertion may be under the same key or under another one.
  by_cases same : key = other
  · -- The key itself has its first value still.
    subst same
    simp only [insert, found]
  · rw [get?_insert_of_ne map value same, found]

/-- A map stays right when a right value is inserted. -/
theorem All.insert {map : OnceMap κ α} {holds : κ → α → Prop} (all : map.All holds) {key : κ}
    {value : α} (right : holds key value) : (map.insert key value).2.All holds := by
  intro other found present
  by_cases same : other = key
  · subst same
    -- The key has the value that was there, or else the new one.
    rw [get?_insert_self] at present
    cases present
    cases before : map.get? other with
    | some kept =>
      simp only [OnceMap.insert, before]
      exact all other kept before
    | none =>
      rw [insert_of_missing before]
      exact right
  · rw [get?_insert_of_ne map value same] at present
    exact all other found present

/-- A map whose values follow a rule gives out what the rule says, and still follows it. -/
theorem All.getOrCompute {map : OnceMap κ α} {rule : κ → α}
    (all : map.All fun key value => value = rule key) (key : κ) :
    (map.getOrCompute key fun _ => rule key).1 = rule key ∧
      (map.getOrCompute key fun _ => rule key).2.All fun key value => value = rule key := by
  cases found : map.get? key with
  | some kept =>
    simp only [OnceMap.getOrCompute, found]
    exact ⟨all key kept found, all⟩
  | none =>
    -- The value is computed by the rule, and inserted.
    simp only [OnceMap.getOrCompute, found]
    refine ⟨?_, all.insert rfl⟩
    rw [insert_of_missing found]

/-- A map whose values are outcomes of a rule answers what the rule says, and still has outcomes of it only. -/
theorem All.getOrTry {map : OnceMap κ α} {rule : κ → Except ε α}
    (all : map.All fun key value => rule key = .ok value) (key : κ) :
    (map.getOrTry key fun _ => rule key).1 = rule key ∧
      (map.getOrTry key fun _ => rule key).2.All fun key value => rule key = .ok value := by
  cases found : map.get? key with
  | some kept =>
    simp only [OnceMap.getOrTry, found]
    exact ⟨(all key kept found).symm, all⟩
  | none =>
    simp only [OnceMap.getOrTry, found]
    -- What the rule fails at is not kept, and anything else is inserted.
    cases outcome : rule key with
    | error reason => exact ⟨rfl, all⟩
    | ok value =>
      simp only
      refine ⟨?_, all.insert outcome⟩
      rw [insert_of_missing found]

/-- The keys of a map are those that have a value. -/
theorem mem_keys_iff {map : OnceMap κ α} {key : κ} :
    key ∈ map.keys ↔ ∃ value, map.get? key = some value := by
  -- A key with an entry is found by the first of them, and what is found is an entry.
  simp only [keys, get?, List.mem_map, Option.map_eq_some_iff]
  constructor
  · intro named
    obtain ⟨entry, listed, rfl⟩ := named
    -- Some entry is found for the key, if not this one.
    cases found : map.entries.find? (·.1 = entry.1) with
    | some other => exact ⟨_, other, rfl, rfl⟩
    | none =>
      rw [List.find?_eq_none] at found
      exact absurd (by simp) (found entry listed)
  · intro given
    obtain ⟨value, entry, found, rfl⟩ := given
    have named := List.find?_some found
    exact ⟨entry, List.mem_of_find?_eq_some found, by simpa using named⟩

/-- An insertion adds its key to the keys. -/
theorem mem_keys_insert {map : OnceMap κ α} {key other : κ} {value : α} :
    other ∈ (map.insert key value).2.keys ↔ other ∈ map.keys ∨ other = key := by
  by_cases same : other = key
  · subst same
    -- The key has a value afterwards, whichever it is.
    have present : other ∈ (map.insert other value).2.keys :=
      mem_keys_iff.mpr ⟨_, get?_insert_self map other value⟩
    simp [present]
  · simp only [same, or_false, mem_keys_iff, get?_insert_of_ne map value same]

/-- Each key has one entry. -/
theorem nodup_keys_insert {map : OnceMap κ α} (nodup : map.keys.Nodup) (key : κ) (value : α) :
    (map.insert key value).2.keys.Nodup := by
  -- An insertion changes the keys only where the key is missing.
  cases found : map.get? key with
  | some kept =>
    simp only [insert, found]
    exact nodup
  | none =>
    rw [insert_of_missing found]
    -- A new entry comes last, and its key was not there.
    have absent : key ∉ map.keys := by
      rw [mem_keys_iff, found]
      simp
    simp only [keys, List.map_append, List.map_cons, List.map_nil] at nodup absent ⊢
    rw [List.nodup_append]
    refine ⟨nodup, List.nodup_singleton _, ?_⟩
    intro other listed last own same
    rw [same, List.mem_singleton.mp own] at listed
    exact absent listed

/-- A map has as many entries as there are different keys in a list of its keys. -/
theorem size_eq_dedup_length {map : OnceMap κ α} (nodup : map.keys.Nodup) {listed : List κ}
    (same : ∀ key, key ∈ map.keys ↔ key ∈ listed) : map.size = listed.dedup.length := by
  -- Both lists have the same members and none of them twice, so they differ in order alone.
  have permuted : map.keys.Perm listed.dedup := by
    rw [List.perm_ext_iff_of_nodup nodup (List.nodup_dedup _)]
    intro key
    rw [same, List.mem_dedup]
  rw [← permuted.length_eq, keys, List.length_map, size]

end DatePattern.OnceMap
