import DatePattern.Proofs.Zone.CustomNames
import DatePattern.Zone.Database
import Mathlib.Data.List.DropRight

/-! Zone identifiers: the zone of an identifier has an identifier of its own, which stands for that zone again. -/

namespace DatePattern

/-- A text without blanks at its ends has nothing to be trimmed. -/
theorem Text.trim_trim (text : List Char) : trim (trim text) = trim text := by
  have trimmed : trim text = (trimStart text).rdropWhile isBlank := rfl
  -- What is cut off at the end leaves the first character, which is no blank.
  have begins : trimStart (trim text) = trim text := by
    refine List.dropWhile_eq_self_iff.mpr fun nonempty => ?_
    have front : trim text <+: trimStart text := trimmed ▸ List.rdropWhile_prefix isBlank _
    rw [front.getElem nonempty]
    exact List.dropWhile_get_zero_not isBlank text _
  calc trim (trim text) = (trimStart (trim text)).rdropWhile isBlank := rfl
    _ = ((trimStart text).rdropWhile isBlank).rdropWhile isBlank := by rw [begins, trimmed]
    _ = trim text := List.rdropWhile_idempotent isBlank _

namespace CustomZone

/-- Two digits of hours spell a number below one hundred. -/
theorem hours_two {n : Nat} (small : n < 100) : Hours (Digits.two n) n := by
  -- Two digits are one of the two spellings of hours.
  obtain ⟨tens, ones, written, ascii, ascii', denoted⟩ := Digits.two_eq small
  rw [written]
  exact hours_iff.mpr ⟨by simp, by simp [ascii, ascii'], denoted⟩

/-- An offset of whole minutes below a day has a custom name, which spells it. -/
theorem spells_render {offset : Int} (expressed : OffsetForm.hoursColonMinutes.Expresses offset) :
    Spells Clock (render offset) offset := by
  obtain ⟨small, whole⟩ := expressed
  simp only [OffsetForm.unit] at whole
  have hours : offset.natAbs / 3600000 < 100 := by omega
  have minutes : offset.natAbs % 3600000 / 60000 < 100 := by omega
  have day : offset.natAbs / 3600000 ≤ 23 ∧ offset.natAbs % 3600000 / 60000 ≤ 59 := by omega
  -- Hours and minutes make up the whole magnitude.
  have total : ((offset.natAbs / 3600000 * 60 + offset.natAbs % 3600000 / 60000 : Nat) *
      60000 : Int) = offset.natAbs := by omega
  have clock : Clock (Digits.two (offset.natAbs / 3600000) ++
      ':' :: Digits.two (offset.natAbs % 3600000 / 60000)) (offset.natAbs / 3600000)
        (offset.natAbs % 3600000 / 60000) := by
    obtain ⟨-, digits, denoted⟩ := hours_iff.mp (hours_two minutes)
    obtain ⟨c, d, pair⟩ := exists_two (Digits.length_two _) digits
    rw [pair, value_two] at denoted
    rw [pair, ← denoted]
    exact .colon (hours_two hours) c d
  have gmt : ['G', 'M', 'T'].map Text.lowerAscii = ['g', 'm', 't'] := by decide
  rw [render, Digits.padded_two hours, Digits.padded_two minutes]
  -- The sign decides on which side of Greenwich the clock is spelled.
  by_cases negative : offset < 0
  · have spells := Spells.behind gmt clock day
    rw [total, show -(offset.natAbs : Int) = offset by omega] at spells
    simpa [negative] using spells
  · have spells := Spells.ahead gmt clock day
    rw [total, show (offset.natAbs : Int) = offset by omega] at spells
    simpa [negative] using spells

/-- What a custom name spells is an offset of whole minutes below a day. -/
theorem Spells.expresses {forms : List Char → Nat → Nat → Prop} {name : List Char} {offset : Int}
    (spells : Spells forms name offset) : OffsetForm.hoursColonMinutes.Expresses offset := by
  -- Hours and minutes of a day are whole minutes below a day.
  rw [OffsetForm.Expresses, OffsetForm.unit]
  obtain ⟨-, -, day⟩ | ⟨-, -, day⟩ := spells <;> omega

/-- The custom name of an offset is read as the offset precisely if it has whole minutes below a day. -/
theorem offset?_render_iff {offset : Int} :
    offset? (render offset) = some offset ↔ OffsetForm.hoursColonMinutes.Expresses offset := by
  -- What is read is spelled, which only such offsets are; and the written name spells its offset.
  rw [offset?_eq_some_iff_spells]
  exact ⟨Spells.expresses, fun expressed => spells_any_iff.mpr (.inl (spells_render expressed))⟩

/-- The custom name of an offset has no blanks at its ends. -/
theorem trim_render {offset : Int} (expressed : OffsetForm.hoursColonMinutes.Expresses offset) :
    Text.trim (render offset) = render offset := by
  obtain ⟨front, text, _, _, same, spelled⟩ := (spells_render expressed).exists_append
  obtain ⟨middle, d, rfl⟩ := spelled.exists_append
  rw [← List.append_assoc] at same
  -- It begins with the G of Greenwich and ends with a digit.
  cases letters : front ++ middle with
  | nil =>
    have lengths := congrArg List.length (same.trans (congrArg (· ++ [digit d]) letters))
    simp [render] at lengths
  | cons first between =>
    rw [letters, List.cons_append] at same
    have begins : 'G' = first := (List.cons.inj same).1
    rw [same, ← begins]
    exact Text.trim_eq_self (by decide) (Text.digit_facts (isAsciiDigit_digit d)).1

end CustomZone

namespace Zone

variable {regions : List Region}

/-- The zone that an identifier stands for is stood for by its own identifier. -/
theorem ofId?_id {id : String} {zone : Zone} (known : ofId? regions id = some zone) :
    ofId? regions zone.id = some zone := by
  -- An identifier is UTC, a custom name or the name of a region, and each kind of zone has such an
  -- identifier.
  simp only [ofId?] at known
  split at known
  case isTrue =>
    cases known
    rfl
  case isFalse notUtc =>
    split at known
    case h_1 offset custom =>
      cases known
      -- The zone of a custom name writes its own name, which may differ from the one that was read.
      have expressed := (CustomZone.offset?_eq_some_iff_spells.mp custom).expresses
      have named : CustomZone.render offset ≠ ['U', 'T', 'C'] := by simp [CustomZone.render]
      simp only [ofId?, Zone.id, String.toList_ofList, CustomZone.trim_render expressed,
        if_neg named, CustomZone.offset?_render_iff.mpr expressed]
    case h_2 noCustom =>
      obtain ⟨place, found, rfl⟩ := Option.map_eq_some_iff.mp known
      -- The region is found by its name, which is the identifier without blanks at its ends.
      have named : place.name = String.ofList (Text.trim id.toList) := by
        simpa using List.find?_some found
      simp only [ofId?, Zone.id, named, String.toList_ofList, Text.trim_trim, if_neg notUtc,
        noCustom, found, Option.map_some]

/-- An identifier and that of its zone stand for one zone, where the table has Greenwich. -/
theorem ofId_id (named : regions.find? (·.name == "GMT") = some Region.greenwich) (id : String) :
    ofId regions (ofId regions id).id = ofId regions id := by
  cases known : ofId? regions id with
  | some zone => rw [ofId, ofId, known, Option.getD_some, ofId?_id known, Option.getD_some]
  | none =>
    -- An unknown identifier is that of Greenwich, which is found by its name.
    have plain : Text.trim "GMT".toList = ['G', 'M', 'T'] := by decide
    have noCustom : CustomZone.offset? ['G', 'M', 'T'] = none := rfl
    have letters : String.ofList ['G', 'M', 'T'] = "GMT" := rfl
    have found : ofId? regions "GMT" = some greenwich := by
      simp only [ofId?, plain, noCustom, letters, Region.named?, named, Option.map_some]
      rfl
    have own : greenwich.id = "GMT" := rfl
    rw [ofId, ofId, known, Option.getD_none, own, found, Option.getD_some]

/--
The identifier of the zone of an identifier stands for that zone, whichever regions there are.

An identifier that is known has a zone whose own identifier is known. All that a table needs besides is Greenwich, which
stands in for unknown identifiers. The custom name of an offset is read as that offset for whole minutes below a day,
and for no other offset.
-/
theorem ofId_id_ofId
    (named : regions.find? (·.name == "GMT") = some Region.greenwich) :
    (∀ id zone, ofId? regions id = some zone → ofId? regions zone.id = some zone) ∧
    (∀ id, ofId regions (ofId regions id).id = ofId regions id) ∧
    ∀ offset : Int, CustomZone.offset? (CustomZone.render offset) = some offset ↔
      offset.natAbs < 86400000 ∧ offset.natAbs % 60000 = 0 :=
  ⟨fun _ _ known => ofId?_id known, ofId_id named, fun _ => CustomZone.offset?_render_iff⟩

/-- Half an hour behind Greenwich has a name of its own, and so has the zone of any spelling of it. -/
theorem ofId_id_ofId_halfHour :
    Region.sample.find? (·.name == "GMT") = some Region.greenwich ∧
      ofId? Region.sample " gmt-0:30" = some (.fixed (-1800000)) ∧
      ofId? Region.sample (Zone.fixed (-1800000)).id = some (.fixed (-1800000)) ∧
      ofId Region.sample (ofId Region.sample " gmt-0:30").id = ofId Region.sample " gmt-0:30" ∧
      CustomZone.offset? (CustomZone.render (-1800000)) = some (-1800000) := by
  -- Blanks, small letters and a single digit of hours are read, and none of them is written.
  have named : Region.sample.find? (·.name == "GMT") = some Region.greenwich := rfl
  have read : ofId? Region.sample " gmt-0:30" = some (.fixed (-1800000)) := by decide +kernel
  obtain ⟨known, again, spelled⟩ := ofId_id_ofId named
  exact ⟨named, read, known " gmt-0:30" _ read, again " gmt-0:30",
    (spelled (-1800000)).mpr (by decide)⟩

end Zone

end DatePattern
