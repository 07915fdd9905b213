import DatePattern.Proofs.Cache
import DatePattern.Proofs.Timestamp.Midnight
import DatePattern.Timestamp.Encoder

/-! Runs of an encoder: the day that is kept was made for one of the moments written before. -/

namespace DatePattern

/-- The first day of an encoder has no moment. -/
theorem Day.not_contains_never (millis : Int) : ¬never.Contains millis := by
  -- It ends where it begins.
  simp only [Contains, never]
  omega

namespace Encoder

/-- What an encoder consists of once it was made from a cache. -/
structure MadeFrom (encoder : Encoder) (layout : Layout) (zone : Zone) (digits : Option Nat)
    (cache : FormatCache) : Prop where
  /-- The layout is the one asked for. -/
  sameLayout : encoder.layout = layout
  /-- The zone is the one asked for. -/
  sameZone : encoder.zone = zone
  /-- The fraction has one to nine digits. -/
  fraction : encoder.fractionDigits =
    max 1 (min (digits.getD layout.fractionDigits) 9)
  /-- The format of the date is kept in the cache, if the layout has a date. -/
  date : match layout.datePattern with
    | none => encoder.dateFormat = none
    | some pattern => ∃ format, encoder.dateFormat = some format ∧
      cache.formats.get? (cache.keyOf pattern (some zone) none) = some format

/-- An encoder takes the format of its date from the cache, which has it from then on. -/
theorem ofLayout_ok {layout : Layout} {zone : Zone} {digits : Option Nat}
    {cache after : FormatCache} {encoder : Encoder} (sound : cache.Sound)
    (made : ofLayout layout zone digits cache = .ok encoder after) :
    after.Sound ∧ cache.Extends after ∧ encoder.MadeFrom layout zone digits after := by
  -- Only a layout with a date asks the cache for anything.
  unfold ofLayout at made
  cases dated : layout.datePattern with
  | none =>
    rw [dated] at made
    obtain ⟨_, _, here, rest⟩ := bind_eq_ok.mp made
    cases here
    cases rest
    refine ⟨sound, .refl _, rfl, rfl, rfl, ?_⟩
    rw [dated]
  | some pattern =>
    rw [dated] at made
    obtain ⟨found, middle, given, rest⟩ := bind_eq_ok.mp made
    cases rest
    rw [map_eq_pure_bind] at given
    obtain ⟨format, _, asked, rest⟩ := bind_eq_ok.mp given
    cases rest
    obtain ⟨soundAfter, extended, kept⟩ := FormatCache.format_ok sound asked
    refine ⟨soundAfter, extended, rfl, rfl, rfl, ?_⟩
    rw [dated]
    refine ⟨format, rfl, ?_⟩
    -- The defaults are the same after the request.
    simpa only [FormatCache.keyOf, extended.registry.defaults] using kept

/-- Asking a cache that has extended for the same encoder gives it out again. -/
theorem ofLayout_again {layout : Layout} {zone : Zone} {digits : Option Nat}
    {before cache after : FormatCache} {encoder fresh : Encoder}
    (first : encoder.MadeFrom layout zone digits before) (extended : before.Extends cache)
    (made : ofLayout layout zone digits cache = .ok fresh after) : fresh = encoder := by
  -- Layout, zone and digits are the same by assumption, so that the format of the date is what
  -- is left to compare.
  obtain ⟨sameLayout, sameZone, sameDigits, date⟩ := first
  obtain ⟨ownLayout, ownZone, ownDigits, dateFormat⟩ := encoder
  obtain rfl : ownLayout = layout := sameLayout
  obtain rfl : ownZone = zone := sameZone
  obtain rfl : ownDigits = _ := sameDigits
  unfold ofLayout at made
  cases dated : ownLayout.datePattern with
  | none =>
    rw [dated] at made date
    obtain rfl : dateFormat = none := date
    obtain ⟨_, _, here, rest⟩ := bind_eq_ok.mp made
    cases here
    cases rest
    rfl
  | some pattern =>
    rw [dated] at made date
    obtain ⟨format, known, kept⟩ := date
    obtain rfl : dateFormat = some format := known
    -- The format that was kept for the first encoder is still there, under the same key.
    have present : cache.formats.get? (cache.keyOf pattern (some ownZone) none) = some format := by
      have still := extended.formats _ _ kept
      simpa only [FormatCache.keyOf, extended.registry.defaults] using still
    obtain ⟨found, middle, given, rest⟩ := bind_eq_ok.mp made
    cases rest
    rw [map_eq_pure_bind] at given
    obtain ⟨again, _, asked, rest⟩ := bind_eq_ok.mp given
    cases rest
    rw [FormatCache.format_of_kept present] at asked
    cases asked
    rfl

variable (encoder : Encoder)

/-- The day that is kept once some instants were written, one after the other. -/
def keptAfter (history : List Instant) : Day :=
  history.foldl (fun kept instant => (encoder.write kept instant).2) .never

/-- The day made for a moment, and the first day where there is no moment. -/
def dayMadeFor : (made : Option Int) → Day
  | none => .never
  | some millis => .ofMillis encoder.zone encoder.dateFormat millis

/-- The moment for which the kept day was made, after another moment was written. -/
def madeNext (made : Option Int) (millis : Int) : Option Int :=
  if (encoder.dayMadeFor made).Contains millis then made
  else if (encoder.dayMadeFor (some millis)).Contains millis then some millis
  else made

/-- The moment for which the kept day was made once some instants were written, if there is one. -/
def madeAfter (history : List Instant) : Option Int :=
  history.foldl (fun made instant => encoder.madeNext made instant.millis) none

/-- Writing keeps the day that was made for a moment, or the one made for the new moment. -/
theorem keep_dayMadeFor (made : Option Int) (millis : Int) :
    encoder.keep (encoder.dayMadeFor made) millis =
      encoder.dayMadeFor (encoder.madeNext made millis) := by
  by_cases kept : (encoder.dayMadeFor made).Contains millis
  · have day : encoder.dayFor (encoder.dayMadeFor made) millis = encoder.dayMadeFor made :=
      if_pos kept
    simp only [keep, day, madeNext, kept, if_true]
  · have day : encoder.dayFor (encoder.dayMadeFor made) millis =
        encoder.dayMadeFor (some millis) := if_neg kept
    -- A day that does not have its own moment is not kept in place of the old one.
    by_cases own : (encoder.dayMadeFor (some millis)).Contains millis
    · simp only [keep, day, madeNext, kept, own, if_true, if_false]
    · simp only [keep, day, madeNext, kept, own, if_false]

/-- A moment for which a day was made lies in that day. -/
def Holds (made : Option Int) : Prop :=
  ∀ millis, made = some millis →
    Count.Fits millis ∧ (encoder.dayMadeFor (some millis)).Contains millis

/-- Writing keeps it so that the kept day has the moment for which it was made. -/
theorem holds_madeNext {made : Option Int} (holds : encoder.Holds made) (instant : Instant) :
    encoder.Holds (encoder.madeNext made instant.millis) := by
  -- Either the kept day stays, or the new one takes its place, and it does so only if it has its
  -- own moment.
  intro millis found
  simp only [madeNext] at found
  split at found
  · exact holds millis found
  split at found
  · rename_i own
    cases found
    exact ⟨instant.fits_millis, own⟩
  · exact holds millis found

/-- After any run the kept day is the one made for a moment of that run, which it has. -/
theorem keptAfter_eq (history : List Instant) :
    encoder.keptAfter history = encoder.dayMadeFor (encoder.madeAfter history) ∧
      encoder.Holds (encoder.madeAfter history) := by
  -- The invariant is carried from an arbitrary kept moment on.
  have general : ∀ made, encoder.Holds made →
      history.foldl (fun kept instant => (encoder.write kept instant).2)
          (encoder.dayMadeFor made) =
        encoder.dayMadeFor
          (history.foldl (fun made instant => encoder.madeNext made instant.millis) made) ∧
      encoder.Holds
        (history.foldl (fun made instant => encoder.madeNext made instant.millis) made) := by
    induction history with
    | nil => exact fun made holds => ⟨rfl, holds⟩
    | cons instant history ih =>
      intro made holds
      have step : (encoder.write (encoder.dayMadeFor made) instant).2 =
          encoder.dayMadeFor (encoder.madeNext made instant.millis) :=
        encoder.keep_dayMadeFor made instant.millis
      simp only [List.foldl_cons, step]
      exact ih _ (encoder.holds_madeNext holds instant)
  -- Before the first write no moment is held, and the first day is the one for none.
  exact general none (by intro millis impossible; cases impossible)

/-- After any run the day used for a moment was made for that moment, or for another one and has it. -/
theorem dayFor_keptAfter (history : List Instant) {millis : Int} (fits : Count.Fits millis) :
    ∃ first, Count.Fits first ∧
      encoder.dayFor (encoder.keptAfter history) millis = encoder.dayMadeFor (some first) ∧
      ((encoder.dayMadeFor (some first)).Contains millis ∨ first = millis) := by
  obtain ⟨keptIs, holds⟩ := encoder.keptAfter_eq history
  unfold dayFor
  rw [keptIs]
  cases madeIs : encoder.madeAfter history with
  | none =>
    -- The first day has no moment, so that a day is made for this one.
    refine ⟨millis, fits, if_neg ?_, .inr rfl⟩
    exact Day.not_contains_never _
  | some first =>
    -- The kept day is used where it has the moment, and elsewhere one is made for it.
    by_cases contained : (encoder.dayMadeFor (some first)).Contains millis
    · exact ⟨first, (holds first madeIs).1, if_pos contained, .inl contained⟩
    · exact ⟨millis, fits, if_neg contained, .inr rfl⟩

end Encoder

end DatePattern
