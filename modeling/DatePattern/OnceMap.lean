/-! Maps in which the first value of a key stays. -/

namespace DatePattern

/-- A map that is only added to, with its keys in the order of their arrival. -/
structure OnceMap (κ α : Type) where
  /-- The keys and their values. -/
  entries : List (κ × α)

namespace OnceMap

variable {κ α ε : Type} [DecidableEq κ]

/-- The map without keys. -/
def empty : OnceMap κ α := ⟨[]⟩

/-- The value of a key, when the map has one. -/
def get? (map : OnceMap κ α) (key : κ) : Option α :=
  (map.entries.find? (·.1 = key)).map (·.2)

/-- The value that a key has once `value` was offered for it, and the map then. -/
def insert (map : OnceMap κ α) (key : κ) (value : α) : α × OnceMap κ α :=
  match map.get? key with
  | some kept => (kept, map)
  | none => (value, ⟨map.entries ++ [(key, value)]⟩)

/-- The value of a key, computed where it is missing; a failure is not kept. -/
def getOrTry (map : OnceMap κ α) (key : κ) (compute : Unit → Except ε α) :
    Except ε α × OnceMap κ α :=
  match map.get? key with
  | some kept => (.ok kept, map)
  | none => match compute () with
    | .error reason => (.error reason, map)
    | .ok value => let (kept, map) := map.insert key value; (.ok kept, map)

/-- The value of a key, computed where it is missing, and the map that has it. -/
def getOrCompute (map : OnceMap κ α) (key : κ) (compute : Unit → α) : α × OnceMap κ α :=
  match map.get? key with
  | some kept => (kept, map)
  | none => map.insert key (compute ())

/-- The count of keys. -/
def size (map : OnceMap κ α) : Nat := map.entries.length

/-- Whether there are no keys. -/
def isEmpty (map : OnceMap κ α) : Bool := map.size == 0

/-- The place of a key in the order of arrival. -/
def index? (map : OnceMap κ α) (key : κ) : Option Nat := map.entries.findIdx? (·.1 = key)

/-- The value that an insertion answers is the one that the key has afterwards. -/
theorem get?_insert_self (map : OnceMap κ α) (key : κ) (value : α) :
    (map.insert key value).2.get? key = some (map.insert key value).1 := by
  -- A value that was there stays, and a new entry is the only one of its key.
  cases found : map.get? key with
  | some kept => simp only [insert, found]
  | none =>
    simp only [insert, found]
    simp only [get?, Option.map_eq_none_iff] at found
    simp [get?, List.find?_append, found]

/-- Inserting one key leaves the values of the others as they were. -/
theorem get?_insert_of_ne (map : OnceMap κ α) {key other : κ} (value : α) (differ : other ≠ key) :
    (map.insert key value).2.get? other = map.get? other := by
  -- The entry that may be added is not found under the other key.
  cases found : map.get? key with
  | some kept => simp only [insert, found]
  | none =>
    simp only [insert, found]
    simp [get?, List.find?_append, Ne.symm differ]

end OnceMap

end DatePattern
