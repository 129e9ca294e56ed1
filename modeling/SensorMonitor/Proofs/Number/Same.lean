/-
# Proofs.Number.Same -- numbers that are the same value

Two floats are the same value when they are equal or neither is a number, so that the zeros
of both signs are one value (`sameValue_iff`).  No check on a number can tell them apart:
whether it is a number, whether it is finite and how it compares follow from the value.
-/
import SensorMonitor.Directory
import SensorMonitor.Proofs.Number.Order

namespace SensorMonitor

set_option autoImplicit false

variable {x x' y y' : Float}

theorem sameValue_refl (x : Float) : sameValue x x = true := by
  simp only [sameValue]
  cases number : x.isNaN with
  | true => simp
  | false =>
      have same : (x == x) = true := (Number.beq_iff x x).2 ⟨number, number, rfl⟩
      rw [same]
      rfl

theorem sameValue_iff : sameValue x y = true ↔
    x.isNaN = y.isNaN ∧ (x.isNaN = false → Number.place x = Number.place y) := by
  simp only [sameValue]
  rw [Bool.or_eq_true, Bool.and_eq_true, Number.beq_iff]
  cases x.isNaN <;> cases y.isNaN <;> simp

theorem isNaN_congr (same : sameValue x y = true) : x.isNaN = y.isNaN := (sameValue_iff.1 same).1

theorem isFinite_congr (same : sameValue x y = true) : x.isFinite = y.isFinite := by
  obtain ⟨number, place⟩ := sameValue_iff.1 same
  cases nan : x.isNaN with
  | true =>
      have lost : ∀ {z : Float}, z.isNaN = true → z.isFinite = false := by
        intro z hz
        by_contra finite
        rw [Number.isNaN_of_isFinite (Bool.of_not_eq_false finite)] at hz
        cases hz
      rw [lost nan, lost (number ▸ nan)]
  | false =>
      rw [Bool.eq_iff_iff, Number.isFinite_iff_place nan, Number.isFinite_iff_place (number ▸ nan),
        place nan]

theorem isInf_congr (same : sameValue x y = true) : x.isInf = y.isInf := by
  rw [Number.isInf_eq, Number.isInf_eq, isNaN_congr same, isFinite_congr same]

theorem lt_congr (same : sameValue x x' = true) (same' : sameValue y y' = true) :
    x < y ↔ x' < y' := by
  obtain ⟨number, place⟩ := sameValue_iff.1 same
  obtain ⟨number', place'⟩ := sameValue_iff.1 same'
  rw [Number.lt_iff, Number.lt_iff, ← number, ← number']
  constructor
  · rintro ⟨hx, hy, lt⟩
    exact ⟨hx, hy, place hx ▸ place' hy ▸ lt⟩
  · rintro ⟨hx, hy, lt⟩
    exact ⟨hx, hy, (place hx).symm ▸ (place' hy).symm ▸ lt⟩

theorem le_congr (same : sameValue x x' = true) (same' : sameValue y y' = true) :
    x ≤ y ↔ x' ≤ y' := by
  obtain ⟨number, place⟩ := sameValue_iff.1 same
  obtain ⟨number', place'⟩ := sameValue_iff.1 same'
  rw [Number.le_iff, Number.le_iff, ← number, ← number']
  constructor
  · rintro ⟨hx, hy, le⟩
    exact ⟨hx, hy, place hx ▸ place' hy ▸ le⟩
  · rintro ⟨hx, hy, le⟩
    exact ⟨hx, hy, (place hx).symm ▸ (place' hy).symm ▸ le⟩

theorem beq_congr (same : sameValue x x' = true) (same' : sameValue y y' = true) :
    (x == y) = (x' == y') := by
  obtain ⟨number, place⟩ := sameValue_iff.1 same
  obtain ⟨number', place'⟩ := sameValue_iff.1 same'
  rw [Bool.eq_iff_iff, Number.beq_iff, Number.beq_iff, ← number, ← number']
  constructor
  · rintro ⟨hx, hy, eq⟩
    exact ⟨hx, hy, place hx ▸ place' hy ▸ eq⟩
  · rintro ⟨hx, hy, eq⟩
    exact ⟨hx, hy, (place hx).symm ▸ (place' hy).symm ▸ eq⟩

end SensorMonitor
