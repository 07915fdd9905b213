import DatePattern.Proofs.Timestamp.Hours
import DatePattern.Proofs.Timestamp.Refinement

/-!
Times of day: when the reading that an encoder writes lies between one midnight and the next.

On an aligned day the reading is counted from the midnight of that day and never reduced. It leaves the day where the
clocks show another date at the instant than they did at that midnight, as after a skipped midnight that was looked up
with the offset that holds only after the skip.
-/

namespace DatePattern

/-- Milliseconds since midnight of one day. -/
def IsTimeOfDay (wall : Int) : Prop := 0 ≤ wall ∧ wall < 86400000

instance (wall : Int) : Decidable (IsTimeOfDay wall) := inferInstanceAs (Decidable (_ ∧ _))

namespace Encoder

variable (encoder : Encoder)

/-- The day by which an instant is written, once some instants were written. -/
def dayUsed (history : List Instant) (instant : Instant) : Day :=
  encoder.dayFor (encoder.keptAfter history) instant.millis

/-- The reading of the clock that is written for an instant, once some instants were written. -/
def reading (history : List Instant) (instant : Instant) : Int :=
  encoder.wallMillis (encoder.dayUsed history instant) instant.millis

/-- The time that is written for an instant is that of the reading. -/
theorem write_eq_reading (history : List Instant) (instant : Instant) :
    (encoder.write (encoder.keptAfter history) instant).1 =
      encoder.writeDate (encoder.dayUsed history instant) instant.millis ++
        (encoder.writeTime (encoder.reading history instant) instant.nanoOfMilli ++
          encoder.offsetText instant.millis) :=
  -- The day that is used stands for the choice between the kept one and a new one.
  encoder.write_eq _ _

/-- An aligned day that is used tells the time hour by hour, and has the instant. -/
theorem dayUsed_tells (history : List Instant) (instant : Instant)
    (aligned : (encoder.dayUsed history instant).aligned = true) :
    (encoder.dayUsed history instant).Tells encoder.zone ∧
      (encoder.dayUsed history instant).Contains instant.millis := by
  obtain ⟨first, -, used, inside⟩ := encoder.dayFor_keptAfter history instant.fits_millis
  rw [← dayUsed] at used
  rw [used] at aligned ⊢
  refine ⟨Day.tells_of_aligned aligned, ?_⟩
  -- The day was made for the instant, or it was kept and encloses it.
  rcases inside with contained | rfl
  · exact contained
  · exact Day.contains_of_aligned aligned

/--
The reading that is written after any run is a time of day exactly when the clocks keep the date of the midnight.

On an aligned day the date is told by the offset of the hour, which is the offset of the zone wherever that changes at
most once in the day. On any other day, and in every zone of one offset, the reading is always a time of day.
-/
theorem reading_isTimeOfDay_iff (history : List Instant) (instant : Instant) :
    (IsTimeOfDay (encoder.reading history instant) ↔
      ((encoder.dayUsed history instant).aligned = true →
        (instant.millis + (encoder.dayUsed history instant).toldOffset encoder.zone
          instant.millis) / 86400000 =
            (encoder.dayUsed history instant).shownAtMidnight encoder.zone)) ∧
    (encoder.zone.ChangesOnce (encoder.dayUsed history instant).today
        (encoder.dayUsed history instant).tomorrow →
      (IsTimeOfDay (encoder.reading history instant) ↔
        ((encoder.dayUsed history instant).aligned = true →
          (instant.millis + encoder.zone.offsetAt instant.millis) / 86400000 =
            (encoder.dayUsed history instant).shownAtMidnight encoder.zone))) ∧
    ((encoder.zone = .utc ∨ ∃ offset, encoder.zone = .fixed offset) →
      IsTimeOfDay (encoder.reading history instant)) := by
  -- Whichever day is used, it was made by this encoder, and so it tells the time as such days
  -- do.
  have general := wallMillis_inDay_iff
    (fun aligned => (encoder.dayUsed_tells history instant aligned).1) instant.millis
  refine ⟨general, ?_, ?_⟩
  · intro once
    refine general.trans ?_
    -- With one change the told offset is the one of the zone.
    constructor
    · intro kept aligned
      obtain ⟨tells, contained⟩ := encoder.dayUsed_tells history instant aligned
      rw [← Day.toldOffset_eq tells contained once]
      exact kept aligned
    · intro kept aligned
      obtain ⟨tells, contained⟩ := encoder.dayUsed_tells history instant aligned
      rw [Day.toldOffset_eq tells contained once]
      exact kept aligned
  · -- With one offset the clocks never move, and the reading is a remainder on every kind of
    -- day.
    intro constant
    have fits := instant.fits_millis
    obtain ⟨first, -, used, inside⟩ := encoder.dayFor_keptAfter history fits
    unfold reading dayUsed IsTimeOfDay
    rw [used, wallMillis_of_constant constant fits inside]
    omega

/-- The clocks of Kamchatka around the first of April 1981, when they skipped from midnight to one o'clock. -/
private def kamchatka1981 : Region :=
  ⟨"Asia/Kamchatka", ⟨43200, 0⟩, [⟨354888000, ⟨43200, 3600⟩⟩]⟩

/-- At one o'clock after the skipped midnight, the reading lies past the end of the day. -/
theorem reading_beyond_kamchatka :
    ¬IsTimeOfDay (reading ⟨Layout.default, .region kamchatka1981, 3, none⟩ []
      (.ofMillis 354888000000)) := by
  -- If it were a time of day, the clocks would still show the date of the midnight by the
  -- general theorem.
  intro inDay
  -- The midnight was looked up as 11:00 in UTC, when the clocks still showed the day before.
  have kept := (reading_isTimeOfDay_iff ⟨Layout.default, .region kamchatka1981, 3, none⟩ []
    (.ofMillis 354888000000)).1.mp inDay (by decide +kernel)
  exact absurd kept (by decide +kernel)

end Encoder

end DatePattern
