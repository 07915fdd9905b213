import DatePattern.Calendar.Field
import DatePattern.Zone.Basic

/-! Fields collected from a text, before they are resolved to an instant. -/

namespace DatePattern

/-- The fields known so far, and the zone if one was named. -/
structure Collected where
  /-- The value of each field that is known. -/
  value? : Field → Option Int
  /-- The zone that was read. -/
  zone? : Option Zone

/-- Something that one piece of a text says. -/
inductive Finding where
  /-- A field has a value. -/
  | value (field : Field) (value : Int)
  /-- The text is about a zone. -/
  | zone (zone : Zone)
deriving DecidableEq, Repr

namespace Collected

/-- Nothing is known. -/
def empty : Collected := ⟨fun _ => none, none⟩

/-- A field takes a value, in place of any earlier one. -/
def set (collected : Collected) (field : Field) (value : Int) : Collected :=
  { collected with
    value? := fun other => if other = field then some value else collected.value? other }

/-- The zone is set, in place of any earlier one. -/
def setZone (collected : Collected) (zone : Zone) : Collected :=
  { collected with zone? := some zone }

/-- A finding is taken in. -/
def add (collected : Collected) : Finding → Collected
  | .value field value => collected.set field value
  | .zone zone => collected.setZone zone

/-- Findings are taken in from the first to the last. -/
def addAll (collected : Collected) (findings : List Finding) : Collected :=
  findings.foldl add collected

/-- The value of a field, or another one where it is not known. -/
def valueD (collected : Collected) (field : Field) (other : Int) : Int :=
  (collected.value? field).getD other

/-- A field just set has its value. -/
@[simp] theorem value?_set_self (collected : Collected) (field : Field) (value : Int) :
    (collected.set field value).value? field = some value := by
  simp [set]

/-- Setting one field leaves the others as they were. -/
@[simp] theorem value?_set_of_ne (collected : Collected) {field other : Field} (value : Int)
    (differ : other ≠ field) :
    (collected.set field value).value? other = collected.value? other := by
  simp [set, differ]

end Collected

end DatePattern
