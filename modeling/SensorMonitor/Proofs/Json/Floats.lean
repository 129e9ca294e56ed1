/-
# Proofs.Json.Floats -- finite floats are written, and finite floats are read

NaN and the infinities have no number (`reread?_of_not_isFinite`), and no number is read as
one of them (`isFinite_of_float?`): a significand that is kept is finite, dividing keeps it
so, and a product beyond the largest float is refused.
-/
import SensorMonitor.Proofs.Json.Records
import SensorMonitor.Proofs.Number.Finite

namespace SensorMonitor.Json

set_option autoImplicit false

open Number

/-! ## Floats that are written -/

/-- A float that is not finite has no number. -/
theorem reread?_of_not_isFinite {x : Float} (infinite : x.isFinite = false) :
    reread? x = none := by
  have none_ : magnitude? x = none := by
    rw [← Option.not_isSome_iff_eq_none, isSome_magnitude?_iff, infinite]
    decide
  have null : float x = .null := by
    unfold float Numeral.ofFloat?
    rw [none_]
    rfl
  unfold reread?
  rw [null]
  rfl

/-! ## Floats that are read -/

/-- The powers of ten, as far as they are floats. -/
theorem isLong_powerOfTen {n : Nat} (le : n ≤ 308) :
    isLong (if n = 0 then -52 else -51) (parts (powerOfTen n)) = true := by
  have all : ∀ n < 309, isLong (if n = 0 then -52 else -51) (parts (powerOfTen n)) = true := by
    decide +kernel
  exact all n (by omega)

theorem isFinite_divideByPower {x : Float} {places : Nat} (finite : x.isFinite = true)
    (some_ : 0 < places) : (divideByPower x places).isFinite = true := by
  have long {n : Nat} (pos : 0 < n) (le : n ≤ 308) :
      isLong (-51) (parts (powerOfTen n)) = true := by
    have long := isLong_powerOfTen le
    rwa [if_neg pos.ne'] at long
  induction x, places using divideByPower.induct with
  | case1 x places le =>
      rw [divideByPower, if_pos le]
      exact isFinite_div finite (long some_ le)
  | case2 x places gt zero =>
      rw [divideByPower, if_neg gt, if_pos zero]
      exact finite
  | case3 x places gt nonzero ih =>
      rw [divideByPower, if_neg gt, if_neg nonzero]
      exact ih (isFinite_div finite (long (by decide) le_rfl)) (by omega)

/-- A significand that is kept is scaled to a finite float. -/
theorem isFinite_of_scale? {significand : Nat} {exponent : Int} {x : Float}
    (kept : significand ≤ largestSignificand) (scaled : scale? significand exponent = some x) :
    x.isFinite = true := by
  obtain ⟨finite, nonneg⟩ := finite_ofRatio (n := significand) (Nat.lt_succ_of_le kept)
  simp only [scale?] at scaled
  split_ifs at scaled with below above zero infinite
  · obtain rfl := Option.some.inj scaled
    exact isFinite_divideByPower finite (by omega)
  · obtain rfl := Option.some.inj scaled
    exact finite
  · obtain rfl := Option.some.inj scaled
    obtain ⟨m, e, h, power, normal, -⟩ := isLong_iff.1 (isLong_powerOfTen (n := exponent.toNat)
      (by omega))
    -- a product that is no NaN and not infinite is finite
    have number := ((le_iff _ _).1 (mul_nonneg nonneg power normal)).2.1
    rw [isInf_eq, number] at infinite
    simpa using infinite

theorem takeDigits_le {significand : Nat} (kept : significand ≤ largestSignificand)
    (digits : List Char) : (takeDigits significand digits).1 ≤ largestSignificand := by
  induction digits generalizing significand with
  | nil => exact kept
  | cons c digits ih =>
      simp only [takeDigits]
      split_ifs with fits
      · exact ih fits
      · exact kept

/-- **A number is read as a finite float**, if it is read at all. -/
theorem Numeral.isFinite_of_toFloat? {n : Numeral} {x : Float} (read : n.toFloat? = some x) :
    x.isFinite = true := by
  simp only [toFloat?] at read
  obtain ⟨y, scaled, rfl⟩ := Option.map_eq_some_iff.1 read
  have finite := isFinite_of_scale? (takeDigits_le (takeDigits_le (Nat.zero_le _) _) _) scaled
  split
  · rwa [isFinite_neg]
  · exact finite

theorem isFinite_of_float? {j : Json} {x : Float} (read : float? j = some x) :
    x.isFinite = true := by
  cases j with
  | number n => exact Numeral.isFinite_of_toFloat? read
  | null | bool b | string s | array items | object members => cases read

end SensorMonitor.Json
