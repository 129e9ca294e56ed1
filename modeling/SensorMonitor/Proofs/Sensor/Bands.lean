/-
# Proofs.Sensor.Bands -- which ranges have bands that can be used

Both bands of a sensor are shares of its first range, and the range is a difference of two
finite floats, which may be too large for a finite float.  If it is not, both bands are
finite; if it is, both are infinite (`Measurement.isFinite_triggerBand_iff`).  A filter with an
infinite band is deaf to all finite readings, and one with a finite band is not
(`Measurement.exists_isNews_iff`); an alarm with an infinite hysteresis is cleared by no finite
reading (`Threshold.exists_clears_iff`).  So a definition that is accepted has usable bands
exactly if its range fits into a float (`Sensor.bands_usable_iff`).
-/
import SensorMonitor.Proofs.Number.Overflow
import SensorMonitor.Proofs.Sensor.Override
import SensorMonitor.Proofs.Sensor.Range

namespace SensorMonitor

set_option autoImplicit false

open Number (toRat overflow)

/-! ## Bands -/

/-- The exact range of the definition is not too large for a finite float. -/
def Definition.RangeFits (d : Definition) : Prop := |toRat d.max - toRat d.min| < overflow

namespace Measurement

section OfRange

variable {min max : Float} (checked : Definition.checkBounds min max = .ok ())

include checked

theorem isFinite_range_iff :
    (max - min).isFinite = true ↔ |toRat max - toRat min| < overflow := by
  obtain ⟨low, high, -⟩ := (Definition.checkBounds_eq_ok_iff min max).1 checked
  rw [Number.isFinite_sub_iff]
  exact ⟨fun all => all.2.2, fun fits => ⟨high, low, fits⟩⟩

/-- **The bands are finite exactly if the exact range is not too large.** -/
theorem isFinite_triggerBand_iff :
    (ofRange min max).triggerBand.isFinite = true ↔ |toRat max - toRat min| < overflow := by
  have share : toRat 0.01 = (5764607523034235 : ℤ) * 2 ^ (-59 : ℤ) := rfl
  rw [← isFinite_range_iff checked]
  exact Number.isFinite_mul_share_iff rfl (by rw [share]; norm_num [abs_le])

theorem isFinite_publishBand_iff :
    (ofRange min max).publishBand.isFinite = true ↔ |toRat max - toRat min| < overflow := by
  have share : toRat 0.0001 = (7378697629483821 : ℤ) * 2 ^ (-66 : ℤ) := rfl
  rw [← isFinite_range_iff checked]
  exact Number.isFinite_mul_share_iff rfl (by rw [share]; norm_num [abs_le])

end OfRange

/-- **A filter lets some change between finite readings through exactly if its band is finite.** -/
theorem exists_isNews_iff {band : Float} (nonneg : 0 ≤ band) :
    (∃ p x : Float, p.isFinite = true ∧ x.isFinite = true ∧ isNews p x band = true) ↔
      band.isFinite = true := by
  constructor
  · rintro ⟨p, x, known, number, news⟩
    by_contra infinite
    rw [Bool.not_eq_true] at infinite
    simp only [isNews, Number.isNaN_of_isFinite known, Number.isNaN_of_isFinite number,
      Bool.false_or, decide_eq_true_eq] at news
    exact Number.not_lt_of_infinite nonneg infinite news
  · intro finite
    -- the distance of these two is too large for any finite band
    let far : Float := 1e308
    have apart : (-far - far).abs = Number.infinity := by decide +kernel
    refine ⟨-far, far, by decide +kernel, by decide +kernel, ?_⟩
    have beyond : band < (-far - far).abs := apart ▸ Number.lt_infinity finite
    simp only [isNews, beyond, decide_true, Bool.or_true]

end Measurement

namespace Threshold

variable {t : Threshold}

/-- The exact line behind which the alarm is cleared. -/
def backLine (t : Threshold) : ℚ :=
  match t.slot.direction with
  | .high => toRat t.trigger - toRat t.hysteresis
  | .low => toRat t.trigger + toRat t.hysteresis

/-- **An alarm can be cleared by a finite reading exactly if its hysteresis is finite and the line
behind which it is cleared is not too far away.** -/
theorem exists_clears_iff (sound : t.Sound) :
    (∃ x : Float, x.isFinite = true ∧ t.clears x = true) ↔
      t.hysteresis.isFinite = true ∧ |t.backLine| < overflow := by
  have band := sound.band_eq
  obtain ⟨finite, nonneg⟩ := sound
  cases direction : t.slot.direction with
  | high =>
      simp only [clears, direction, band, decide_eq_true_eq]
      rw [Number.exists_le_iff finite (Number.sub_le_self finite nonneg), Number.isFinite_sub_iff,
        backLine, direction]
      exact and_iff_right finite
  | low =>
      simp only [clears, direction, band, decide_eq_true_eq]
      rw [Number.exists_ge_iff finite (Number.le_add_self finite nonneg), Number.isFinite_add_iff,
        backLine, direction]
      exact and_iff_right finite

end Threshold

namespace Sensor

variable {d : Definition} {s : Sensor}

/-- A threshold without a hysteresis of its own takes the trigger band. -/
theorem mem_of_unset (made : ofDefinition d = .ok s) {t : Threshold} (member : t ∈ d.thresholds)
    (unset : t.hysteresis.isNaN = true) :
    { t with hysteresis := s.measurement.triggerBand } ∈ s.thresholds.toList := by
  obtain ⟨quantity, thresholds, described⟩ := (madeOf_of_ofDefinition made).described
  obtain ⟨-, -, -, rfl⟩ := (Thresholds.ofList_eq_ok_iff _ _).1 described.defined
  rw [described.thresholds]
  refine List.mem_map.2 ⟨t, (List.mergeSort_perm _ _).mem_iff.2 member, ?_⟩
  rw [unset, if_pos rfl]

/-- **A definition that is accepted has usable bands exactly if its range fits into a float.**  The
bands are not negative in any case.  They are finite, and the filter lets some change between
finite readings through, exactly if the exact range is below the overflow; and a threshold without
a hysteresis of its own takes the trigger band, so that no finite reading clears its alarm unless
the range fits. -/
theorem bands_usable_iff (d : Definition) (s : Sensor) (made : ofDefinition d = .ok s) :
    0 ≤ s.measurement.triggerBand ∧ 0 ≤ s.measurement.publishBand ∧
      (s.measurement.triggerBand.isFinite = true ↔ d.RangeFits) ∧
      (s.measurement.publishBand.isFinite = true ↔ d.RangeFits) ∧
      ((∃ p x : Float, p.isFinite = true ∧ x.isFinite = true ∧
          Measurement.isNews p x s.measurement.publishBand = true) ↔ d.RangeFits) ∧
      ∀ t ∈ d.thresholds, t.hysteresis.isNaN = true → ∃ t' ∈ s.thresholds.toList,
        t' = { t with hysteresis := s.measurement.triggerBand } ∧
          ((∃ x : Float, x.isFinite = true ∧ t'.clears x = true) ↔
            d.RangeFits ∧ |t'.backLine| < overflow) := by
  have new := madeOf_of_ofDefinition made
  have wf := new.fresh.wellFormed
  have nonneg := new.publishBand_nonneg
  obtain ⟨quantity, thresholds, described⟩ := new.described
  have trigger : s.measurement.triggerBand.isFinite = true ↔ d.RangeFits := by
    rw [described.measurement]
    exact Measurement.isFinite_triggerBand_iff described.bounded
  have publish : s.measurement.publishBand.isFinite = true ↔ d.RangeFits := by
    rw [described.measurement]
    exact Measurement.isFinite_publishBand_iff described.bounded
  refine ⟨wf.band, nonneg, trigger, publish, ?_, ?_⟩
  · rw [Measurement.exists_isNews_iff nonneg, publish]
  · intro t member unset
    have present := mem_of_unset made member unset
    refine ⟨_, present, rfl, ?_⟩
    rw [Threshold.exists_clears_iff (wf.thresholds.sound _ present)]
    exact and_congr_left' trigger

theorem bands_usable_iff_sample : ∃ s, ofDefinition Installation.editedDefinition = .ok s ∧
    Installation.editedDefinition.RangeFits ∧
    ∃ p x : Float, p.isFinite = true ∧ x.isFinite = true ∧
      Measurement.isNews p x s.measurement.publishBand = true := by
  have found : (ofDefinition Installation.editedDefinition).toOption.any
      (·.measurement.triggerBand.isFinite) = true := by
    decide +kernel
  obtain ⟨s, made, finite⟩ := exists_ok_of_any found
  obtain ⟨-, -, trigger, -, news, -⟩ := bands_usable_iff Installation.editedDefinition s made
  exact ⟨s, made, trigger.1 finite, news.2 (trigger.1 finite)⟩

/-- A range that is wider than any finite float, with an alarm at 80. -/
def wideDefinition : Definition :=
  { Installation.editedDefinition with min := -1e308, max := 1e308 }

/-- Its bands are infinite: the largest change is no news, and the alarm, once it is raised, stays
where the reading is as low as the range goes. -/
theorem wide_range_has_infinite_bands : ∃ s, ofDefinition wideDefinition = .ok s ∧
    s.measurement.triggerBand = Number.infinity ∧ s.measurement.publishBand = Number.infinity ∧
    Measurement.isNews 1e308 (-1e308) s.measurement.publishBand = false ∧
    ∃ t ∈ s.thresholds.toList, t.hysteresis = Number.infinity ∧
      ((t.evaluate 96).evaluate (-1e308)).active = true := by
  have found : (ofDefinition wideDefinition).toOption.any (fun s =>
      decide (s.measurement.triggerBand = Number.infinity) &&
        decide (s.measurement.publishBand = Number.infinity) &&
        !Measurement.isNews 1e308 (-1e308) s.measurement.publishBand &&
        s.thresholds.toList.any fun t => decide (t.hysteresis = Number.infinity) &&
          ((t.evaluate 96).evaluate (-1e308)).active) = true := by
    decide +kernel
  obtain ⟨s, made, found⟩ := exists_ok_of_any found
  simp only [Bool.and_eq_true, Bool.not_eq_true', decide_eq_true_eq, List.any_eq_true] at found
  obtain ⟨⟨⟨trigger, publish⟩, deaf⟩, alarm⟩ := found
  exact ⟨s, made, trigger, publish, deaf, alarm⟩

end Sensor

end SensorMonitor
