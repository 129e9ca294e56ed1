/-
# Proofs.Number.Rounding -- rounding passes no float

A finite float is `± m * 2 ^ e` with `Fits m e`.  Its `size` counts it in units of the
least positive float, `2 ^ (-1074)`, and orders the floats of one sign
(`compare_size`).  An exact result that is a whole number of units is rounded to a
float on the same side of every other float (`round_spec`): what is at most a float
stays at most that float, and what is at least a float stays at least that float.  What is
dropped is rounded to the nearest significand, and to the even one between two (`dropBits_eq`).
-/
import Mathlib

namespace SensorMonitor.Number

set_option autoImplicit false

open Float.Model Float.Model.UnpackedFloat

/-! ## Significands and exponents -/

/-- The significand and the exponent are those of a float, the largest exponent apart. -/
structure Fits (m : Nat) (e : Int) : Prop where
  bounded : m < 2 ^ 53
  least : -1074 ≤ e
  leading : 2 ^ 52 ≤ m ∨ e = -1074

/-- `m * 2 ^ e` in units of the least positive float. -/
def size (m : Nat) (e : Int) : Nat := m * 2 ^ (e + 1074).toNat

theorem size_le_size {m n : Nat} (e : Int) (le : m ≤ n) : size m e ≤ size n e :=
  Nat.mul_le_mul_right _ le

theorem size_le_size_iff {m n : Nat} (e : Int) : size m e ≤ size n e ↔ m ≤ n :=
  Nat.mul_le_mul_right_iff (Nat.two_pow_pos _)

/-- A larger exponent is a larger significand. -/
theorem size_add (m k : Nat) {e : Int} (least : -1074 ≤ e) :
    size m (e + k) = size (m * 2 ^ k) e := by
  have split : (e + k + 1074).toNat = k + (e + 1074).toNat := by omega
  simp only [size]
  rw [split, pow_add, mul_assoc]

/-- Below an exponent all floats are smaller than the first one with a leading bit at it. -/
theorem size_lt_of_exponent_lt {m : Nat} {e t : Int} (fits : Fits m e) (lt : e < t) :
    size m e < size (2 ^ 52) t := by
  obtain ⟨k, rfl⟩ : ∃ k : Nat, t = e + (k + 1 : Nat) := ⟨(t - e - 1).toNat, by omega⟩
  rw [size_add _ _ fits.least]
  have wide : (2 ^ 53 : Nat) ≤ 2 ^ 52 * 2 ^ (k + 1) := by
    calc (2 ^ 53 : Nat) = 2 ^ 52 * 2 ^ 1 := by norm_num
      _ ≤ 2 ^ 52 * 2 ^ (k + 1) := Nat.mul_le_mul_left _ (Nat.pow_le_pow_right (by omega) (by omega))
  exact Nat.mul_lt_mul_of_pos_right (fits.bounded.trans_le wide) (Nat.two_pow_pos _)

theorem size_lt_of_lt_exponent {m n : Nat} {e f : Int} (fits : Fits m e) (fits' : Fits n f)
    (lt : e < f) : size m e < size n f := by
  have leading : 2 ^ 52 ≤ n := fits'.leading.resolve_right (by have := fits.least; omega)
  exact (size_lt_of_exponent_lt fits lt).trans_le (size_le_size f leading)

/-- Floats of one sign are ordered by exponent and then by significand. -/
theorem compare_size {m n : Nat} {e f : Int} (fits : Fits m e) (fits' : Fits n f) :
    (compare e f).then (compare m n) = compare (size m e) (size n f) := by
  rcases lt_trichotomy e f with lt | rfl | gt
  · rw [compare_lt_iff_lt.2 lt, compare_lt_iff_lt.2 (size_lt_of_lt_exponent fits fits' lt)]
    rfl
  · have same : compare (size m e) (size n e) = compare m n := by
      rcases lt_trichotomy m n with lt | rfl | gt
      · have := (size_le_size_iff e).not.2 (not_le.2 lt)
        rw [compare_lt_iff_lt.2 lt, compare_lt_iff_lt.2 (not_le.1 this)]
      · rw [compare_eq_iff_eq.2 rfl, compare_eq_iff_eq.2 rfl]
      · have := (size_le_size_iff e).not.2 (not_le.2 gt)
        rw [compare_gt_iff_gt.2 gt, compare_gt_iff_gt.2 (not_le.1 this)]
    rw [same, compare_eq_iff_eq.2 rfl]
    rfl
  · rw [compare_gt_iff_gt.2 gt, compare_gt_iff_gt.2 (size_lt_of_lt_exponent fits' fits gt)]
    rfl

/-! ## Dropping bits -/

theorem mantissa_shiftRight (em : ExtendedMantissa) (k : Nat) :
    (em >>> k).mantissa = em.mantissa / 2 ^ k := by
  induction k with
  | zero => simp [HShiftRight.hShiftRight, Nat.repeat]
  | succ k ih =>
      change (em >>> k).mantissa / 2 = _
      rw [ih, Nat.div_div_eq_div_mul, pow_succ]

@[simp] theorem mantissa_ofMantissaAndAccuracy (m : Nat) (accuracy : Accuracy) :
    (ExtendedMantissa.ofMantissaAndAccuracy m accuracy).mantissa = m := by
  rcases accuracy with _ | order
  · rfl
  · cases order <;> rfl

/-- Where only zeros are dropped nothing is lost. -/
theorem shiftRight_exact (c k : Nat) :
    ExtendedMantissa.ofMantissaAndAccuracy (c * 2 ^ k) .exact >>> k = ⟨c, false, false⟩ := by
  induction k generalizing c with
  | zero => simp [HShiftRight.hShiftRight, Nat.repeat, ExtendedMantissa.ofMantissaAndAccuracy]
  | succ k ih =>
      change ExtendedMantissa.shiftRightOne
        (ExtendedMantissa.ofMantissaAndAccuracy (c * 2 ^ (k + 1)) .exact >>> k) = _
      have double : c * 2 ^ (k + 1) = c * 2 * 2 ^ k := by rw [pow_succ]; ring
      rw [double, ih (c * 2)]
      simp [ExtendedMantissa.shiftRightOne]

theorem roundedMantissa_bounds (em : ExtendedMantissa) :
    em.mantissa ≤ em.roundedMantissa ∧ em.roundedMantissa ≤ em.mantissa + 1 := by
  obtain ⟨m, round, sticky⟩ := em
  cases round <;> cases sticky <;>
    simp only [ExtendedMantissa.roundedMantissa, ExtendedMantissa.accuracy,
      Accuracy.roundToNearestEven] <;>
    omega

/-- The significand `m` with `k` bits dropped and rounded. -/
def dropBits (m k : Nat) : Nat :=
  (ExtendedMantissa.ofMantissaAndAccuracy m .exact >>> k).roundedMantissa

theorem le_dropBits {m k c : Nat} (le : c * 2 ^ k ≤ m) : c ≤ dropBits m k := by
  have floor : c ≤ m / 2 ^ k := (Nat.le_div_iff_mul_le (Nat.two_pow_pos k)).2 le
  have := (roundedMantissa_bounds (ExtendedMantissa.ofMantissaAndAccuracy m .exact >>> k)).1
  rw [mantissa_shiftRight] at this
  exact floor.trans this

theorem dropBits_le {m k c : Nat} (le : m ≤ c * 2 ^ k) : dropBits m k ≤ c := by
  by_cases whole : 2 ^ k ∣ m
  · obtain ⟨n, rfl⟩ := whole
    rw [mul_comm] at le ⊢
    simp only [dropBits]
    rw [shiftRight_exact]
    exact Nat.le_of_mul_le_mul_right le (Nat.two_pow_pos k)
  · have lt : m < c * 2 ^ k :=
      lt_of_le_of_ne le fun same => whole (same ▸ Dvd.intro_left c rfl)
    have floor : m / 2 ^ k < c := (Nat.div_lt_iff_lt_mul (Nat.two_pow_pos k)).2 lt
    have := (roundedMantissa_bounds (ExtendedMantissa.ofMantissaAndAccuracy m .exact >>> k)).2
    rw [mantissa_shiftRight] at this
    exact this.trans floor

/-! ## The nearest significand -/

/-- The round bit tells whether half a unit or more was dropped, and the sticky bit whether
anything was dropped below it. -/
theorem dropped_shiftRight (m k : Nat) :
    (ExtendedMantissa.ofMantissaAndAccuracy m .exact >>> k).roundBit =
        decide (2 ^ k ≤ 2 * (m % 2 ^ k)) ∧
      (ExtendedMantissa.ofMantissaAndAccuracy m .exact >>> k).stickyBit =
        decide (2 * (m % 2 ^ k) % 2 ^ k ≠ 0) := by
  induction k with
  | zero =>
      simp [HShiftRight.hShiftRight, Nat.repeat, ExtendedMantissa.ofMantissaAndAccuracy,
        Nat.mod_one]
  | succ k ih =>
      obtain ⟨round, sticky⟩ := ih
      have halves := mantissa_shiftRight (.ofMantissaAndAccuracy m .exact) k
      rw [mantissa_ofMantissaAndAccuracy] at halves
      change ((ExtendedMantissa.ofMantissaAndAccuracy m .exact >>> k).mantissa % 2 != 0) = _ ∧
        ((ExtendedMantissa.ofMantissaAndAccuracy m .exact >>> k).roundBit ||
          (ExtendedMantissa.ofMantissaAndAccuracy m .exact >>> k).stickyBit) = _
      rw [halves, round, sticky, Nat.mod_pow_succ, pow_succ']
      have small : m % 2 ^ k < 2 ^ k := Nat.mod_lt _ (Nat.two_pow_pos k)
      generalize m / 2 ^ k = q
      generalize m % 2 ^ k = r at small
      generalize 2 ^ k = unit at small
      have below : 2 * (r + unit * (q % 2)) % (2 * unit) = 2 * r := by
        rw [Nat.mul_mod_mul_left, Nat.add_mul_mod_self_left, Nat.mod_eq_of_lt small]
      rw [below]
      constructor
      · obtain even | odd := Nat.mod_two_eq_zero_or_one q
        · rw [even, decide_eq_false (by omega)]
          rfl
        · rw [odd, decide_eq_true (by omega)]
          rfl
      · rw [← Bool.decide_or]
        refine decide_eq_decide.2 ⟨?_, ?_⟩
        · rintro (half | rest) <;> rintro zero
          · omega
          · rw [zero, Nat.zero_mod] at rest
            exact rest rfl
        · intro some
          by_cases half : unit ≤ 2 * r
          · exact Or.inl half
          · right
            rw [Nat.mod_eq_of_lt (by omega)]
            exact some

/-- **Dropping bits rounds to the nearest significand**, and to the even one between two. -/
theorem dropBits_eq (m k : Nat) : dropBits m k = m / 2 ^ k +
    if 2 * (m % 2 ^ k) < 2 ^ k then 0
    else if 2 * (m % 2 ^ k) = 2 ^ k then m / 2 ^ k % 2
    else 1 := by
  obtain ⟨round, sticky⟩ := dropped_shiftRight m k
  have halves := mantissa_shiftRight (.ofMantissaAndAccuracy m .exact) k
  rw [mantissa_ofMantissaAndAccuracy] at halves
  have small : m % 2 ^ k < 2 ^ k := Nat.mod_lt _ (Nat.two_pow_pos k)
  simp only [dropBits]
  generalize ExtendedMantissa.ofMantissaAndAccuracy m .exact >>> k = em at round sticky halves
  obtain ⟨q, r, rest⟩ := em
  dsimp only at round sticky halves
  subst halves round sticky
  generalize m % 2 ^ k = r at small
  generalize m / 2 ^ k = q
  generalize 2 ^ k = unit at small
  rcases lt_trichotomy (2 * r) unit with less | half | more
  · rw [if_pos less, decide_eq_false (by omega)]
    cases decide (2 * r % unit ≠ 0) <;> rfl
  · rw [if_neg (by omega), if_pos half, decide_eq_true (by omega), half, Nat.mod_self,
      decide_eq_false (by simp)]
    rfl
  · have left : 2 * r % unit = 2 * r - unit := by
      rw [Nat.mod_eq_sub_mod more.le, Nat.mod_eq_of_lt (by omega)]
    rw [if_neg (by omega), if_neg (by omega), decide_eq_true more.le, left,
      decide_eq_true (by omega)]
    rfl

/-- What is less than half a unit above a significand is rounded to no more than it. -/
theorem dropBits_le_of_lt {m k c : Nat} (lt : 2 * m < (2 * c + 1) * 2 ^ k) : dropBits m k ≤ c := by
  have whole := Nat.div_add_mod m (2 ^ k)
  rw [dropBits_eq]
  generalize m / 2 ^ k = q at whole
  generalize m % 2 ^ k = r at whole
  generalize 2 ^ k = unit at whole lt
  have floor : q ≤ c := by
    by_contra above
    have : unit * (c + 1) ≤ unit * q := Nat.mul_le_mul_left unit (by omega)
    nlinarith
  rcases floor.lt_or_eq with less | rfl
  · have : (if 2 * r < unit then 0 else if 2 * r = unit then q % 2 else 1) ≤ 1 := by
      split_ifs <;> omega
    omega
  · have half : 2 * r < unit := by nlinarith
    rw [if_pos half]
    rfl

/-- Half a unit above an odd significand is rounded up. -/
theorem dropBits_le_iff {m k c : Nat} (odd : c % 2 = 1) :
    dropBits m k ≤ c ↔ 2 * m < (2 * c + 1) * 2 ^ k := by
  refine ⟨?_, dropBits_le_of_lt⟩
  intro le
  have whole := Nat.div_add_mod m (2 ^ k)
  have small : m % 2 ^ k < 2 ^ k := Nat.mod_lt _ (Nat.two_pow_pos k)
  rw [dropBits_eq] at le
  generalize m / 2 ^ k = q at whole le
  generalize m % 2 ^ k = r at whole le small
  generalize 2 ^ k = unit at whole le small ⊢
  rcases (show q ≤ c by omega).lt_or_eq with less | rfl
  · have : unit * (q + 1) ≤ unit * c := Nat.mul_le_mul_left unit (by omega)
    nlinarith
  · have half : 2 * r < unit := by
      by_contra half
      rw [if_neg half] at le
      split_ifs at le <;> omega
    nlinarith

/-! ## Rounding -/

theorem targetExponent_binary64 (total : Int) :
    Format.binary64.targetExponent total = max (total - 53) (-1074) := rfl

/-- The bits to drop: as many as leave 53, or fewer where the exponent is the least. -/
theorem exists_drop {m : Nat} {e : Int}
    (below : e ≤ Format.binary64.targetExponent (totalExponent m e)) :
    ∃ k : Nat, Format.binary64.targetExponent (totalExponent m e) = e + k ∧
      -1074 ≤ e + k ∧ m < 2 ^ 53 * 2 ^ k ∧ (2 ^ 52 * 2 ^ k ≤ m ∨ e + k = -1074) := by
  obtain ⟨k, target⟩ : ∃ k : Nat, Format.binary64.targetExponent (totalExponent m e) = e + k :=
    ⟨(Format.binary64.targetExponent (totalExponent m e) - e).toNat, by omega⟩
  have shape := target
  rw [targetExponent_binary64] at shape
  simp only [totalExponent] at shape
  refine ⟨k, target, by omega, ?_, ?_⟩
  · rw [← pow_add]
    exact Nat.lt_log2_self.trans_le (Nat.pow_le_pow_right (by omega) (by omega))
  · by_cases tiny : e + k = -1074
    · exact Or.inr tiny
    · left
      -- zero has no leading bit, and only the least exponent
      have positive : m ≠ 0 := by
        rintro rfl
        rw [Nat.log2_zero] at shape
        omega
      rw [← pow_add, show 52 + k = m.log2 by omega]
      exact Nat.log2_self_le positive

/-- Rounding drops bits once; a carry makes one more step. -/
theorem roundWithAccuracy_eq (s : Sign) {m d : Nat} (e : Int) (accuracy : Accuracy) (k : Nat)
    (dropped : (ExtendedMantissa.ofMantissaAndAccuracy m accuracy >>> k).roundedMantissa = d)
    (target : Format.binary64.targetExponent (totalExponent m e) = e + k)
    (bounded : d ≤ 2 ^ 53) (least : -1074 ≤ e + k) :
    roundWithAccuracy Format.binary64 s m e accuracy =
      if d = 2 ^ 53 then .finite s (2 ^ 52) (e + k + 1) (by decide)
      else if h : d = 0 then .zero s
      else .finite s d (e + k) (Nat.pos_of_ne_zero h) := by
  have first : shiftToTargetExponent Format.binary64 m e accuracy =
      (ExtendedMantissa.ofMantissaAndAccuracy m accuracy >>> k, e + k) := by
    have amount : (e + k - e).toNat = k := by omega
    simp only [shiftToTargetExponent, shiftToExponent, target, amount]
  have small : d ≠ 2 ^ 53 → (Format.binary64.targetExponent
      (totalExponent d (e + k)) - (e + k)).toNat = 0 := by
    intro ne
    have log : d.log2 < 53 := by
      by_cases zero : d = 0
      · rw [zero, Nat.log2_zero]
        omega
      · exact (Nat.log2_lt zero).2 (by omega)
    rw [targetExponent_binary64]
    simp only [totalExponent]
    omega
  have carry : (Format.binary64.targetExponent
      (totalExponent (2 ^ 53) (e + k)) - (e + k)).toNat = 1 := by
    rw [targetExponent_binary64]
    simp only [totalExponent]
    rw [Nat.log2_two_pow]
    omega
  simp only [roundWithAccuracy]
  rw [first]
  dsimp only
  rw [dropped]
  by_cases full : d = 2 ^ 53
  · simp only [full, shiftToTargetExponent, shiftToExponent, carry, mantissa_shiftRight,
      ExtendedMantissa.ofMantissaAndAccuracy]
    norm_num
  · simp only [if_neg full, shiftToTargetExponent, shiftToExponent, small full,
      mantissa_shiftRight, ExtendedMantissa.ofMantissaAndAccuracy]
    simp

/-- Rounding keeps the sign, and gives zero or a float of no larger an exponent than a carry
makes. -/
theorem roundWithAccuracy_fits (s : Sign) {m : Nat} {e : Int} (accuracy : Accuracy)
    (below : e ≤ Format.binary64.targetExponent (totalExponent m e)) :
    roundWithAccuracy Format.binary64 s m e accuracy = .zero s ∨
      ∃ n f h, roundWithAccuracy Format.binary64 s m e accuracy = .finite s n f h ∧
        Fits n f ∧ f ≤ Format.binary64.targetExponent (totalExponent m e) + 1 := by
  obtain ⟨k, target, least, upper, leading⟩ := exists_drop below
  obtain ⟨d, dropped⟩ : ∃ d, (ExtendedMantissa.ofMantissaAndAccuracy m accuracy >>>
      k).roundedMantissa = d := ⟨_, rfl⟩
  obtain ⟨floor, ceiling⟩ : m / 2 ^ k ≤ d ∧ d ≤ m / 2 ^ k + 1 := by
    have bounds := roundedMantissa_bounds (ExtendedMantissa.ofMantissaAndAccuracy m accuracy >>> k)
    rwa [dropped, mantissa_shiftRight, mantissa_ofMantissaAndAccuracy] at bounds
  have short : m / 2 ^ k < 2 ^ 53 := (Nat.div_lt_iff_lt_mul (Nat.two_pow_pos k)).2 upper
  rw [roundWithAccuracy_eq s e accuracy k dropped target (by omega) least, target]
  by_cases full : d = 2 ^ 53
  · rw [if_pos full]
    exact Or.inr ⟨_, _, _, rfl, ⟨by norm_num, by omega, Or.inl le_rfl⟩, le_rfl⟩
  · rw [if_neg full]
    by_cases zero : d = 0
    · rw [dif_pos zero]
      exact Or.inl rfl
    · rw [dif_neg zero]
      have long : 2 ^ 52 ≤ d ∨ e + k = -1074 := leading.imp_left fun normal =>
        ((Nat.le_div_iff_mul_le (Nat.two_pow_pos k)).2 normal).trans floor
      exact Or.inr ⟨_, _, _, rfl, ⟨by omega, by omega, long⟩, by omega⟩

/-- What was got for an exact size is on the same side of every float. -/
structure Faithful (exact got : Nat) : Prop where
  above : ∀ {n : Nat} {f : Int}, Fits n f → size n f ≤ exact → size n f ≤ got
  below : ∀ {n : Nat} {f : Int}, Fits n f → exact ≤ size n f → got ≤ size n f

/-- The bits that are dropped are those below the unit of the result.  A float with that
unit or a larger one is a whole number of units; one with a smaller unit is smaller than
all results. -/
theorem dropBits_faithful {m k : Nat} {e : Int} (least : -1074 ≤ e)
    (leading : 2 ^ 52 * 2 ^ k ≤ m ∨ e + k = -1074) :
    Faithful (size m e) (size (dropBits m k) (e + k)) := by
  refine ⟨?_, ?_⟩
  · intro n f fits le
    rcases le_or_gt (e + k) f with coarse | fine
    · obtain ⟨j, rfl⟩ : ∃ j : Nat, f = e + k + j := ⟨(f - (e + k)).toNat, by omega⟩
      rw [size_add _ _ (by omega : -1074 ≤ e + k)] at le ⊢
      rw [size_add _ _ least, size_le_size_iff] at le
      exact size_le_size _ (le_dropBits le)
    · have normal := leading.resolve_right (by have := fits.least; omega)
      exact (size_lt_of_exponent_lt fits fine).le.trans (size_le_size _ (le_dropBits normal))
  · intro n f fits le
    rcases le_or_gt (e + k) f with coarse | fine
    · obtain ⟨j, rfl⟩ : ∃ j : Nat, f = e + k + j := ⟨(f - (e + k)).toNat, by omega⟩
      rw [size_add _ _ (by omega : -1074 ≤ e + k)] at le ⊢
      rw [size_add _ _ least, size_le_size_iff] at le
      exact size_le_size _ (dropBits_le le)
    · have normal := leading.resolve_right (by have := fits.least; omega)
      have lt := size_lt_of_exponent_lt fits fine
      rw [size_add _ _ least] at lt
      exact absurd (le.trans_lt lt) (not_lt.2 (size_le_size e normal))

/-- **Rounding a positive whole number of units gives a float that is faithful to it.** -/
theorem roundWithAccuracy_spec (s : Sign) {m : Nat} {e : Int} (positive : 0 < m)
    (least : -1074 ≤ e) (below : e ≤ Format.binary64.targetExponent (totalExponent m e)) :
    ∃ n f h, roundWithAccuracy Format.binary64 s m e .exact = .finite s n f h ∧
      Fits n f ∧ Faithful (size m e) (size n f) := by
  obtain ⟨k, target, least', upper, leading⟩ := exists_drop below
  have bounded : dropBits m k ≤ 2 ^ 53 := dropBits_le upper.le
  have drops : dropBits m k ≠ 0 := by
    rcases leading with normal | tiny
    · exact (lt_of_lt_of_le (by norm_num) (le_dropBits normal)).ne'
    · obtain rfl : k = 0 := by omega
      exact Nat.one_le_iff_ne_zero.1 (le_dropBits (by omega : 1 * 2 ^ 0 ≤ m))
  have faithful := dropBits_faithful least leading
  rw [roundWithAccuracy_eq s e .exact k (rfl : _ = dropBits m k) target bounded least']
  by_cases full : dropBits m k = 2 ^ 53
  · -- the carry moves on to the next exponent and keeps the size
    rw [if_pos full]
    rw [full, ← show size (2 ^ 52) (e + k + 1) = size (2 ^ 53) (e + k) from
      size_add (2 ^ 52) 1 least'] at faithful
    exact ⟨_, _, _, rfl, ⟨by norm_num, by omega, Or.inl le_rfl⟩, faithful⟩
  · rw [if_neg full, dif_neg drops]
    exact ⟨_, _, _, rfl, ⟨by omega, by omega, leading.imp_left le_dropBits⟩, faithful⟩

/-- A significand that is too short is first made longer. -/
theorem exists_longer {m : Nat} {e : Int} (positive : 0 < m) : ∃ k : Nat,
    (∀ s, UnpackedFloat.round Format.binary64 s m e =
      roundWithAccuracy Format.binary64 s (m * 2 ^ k) (e - k) .exact) ∧
    e - k ≤ Format.binary64.targetExponent (totalExponent (m * 2 ^ k) (e - k)) ∧
    (-1074 ≤ e → -1074 ≤ e - k) := by
  obtain ⟨k, hk⟩ : ∃ k : Nat,
      (e - Format.binary64.targetExponent (totalExponent m e)).toNat = k := ⟨_, rfl⟩
  have longer : 0 < m * 2 ^ k := Nat.mul_pos positive (Nat.two_pow_pos k)
  have log : (m * 2 ^ k).log2 = m.log2 + k := by
    rw [Nat.log2_eq_iff longer.ne', show m.log2 + k + 1 = m.log2 + 1 + k by omega, pow_add, pow_add]
    exact ⟨Nat.mul_le_mul_right _ (Nat.log2_self_le positive.ne'),
      Nat.mul_lt_mul_of_pos_right Nat.lt_log2_self (Nat.two_pow_pos k)⟩
  have total : totalExponent (m * 2 ^ k) (e - k) = totalExponent m e := by
    simp only [totalExponent]
    rw [log]
    omega
  refine ⟨k, ?_, by rw [total]; omega, ?_⟩
  · intro s
    simp only [UnpackedFloat.round, decreaseExponent, hk, Nat.shiftLeft_eq]
  · intro least
    rw [targetExponent_binary64] at hk
    omega

/-- **Rounding from any exponent** is faithful as well. -/
theorem round_spec (s : Sign) {m : Nat} {e : Int} (positive : 0 < m) (least : -1074 ≤ e) :
    ∃ n f h, UnpackedFloat.round Format.binary64 s m e = .finite s n f h ∧
      Fits n f ∧ Faithful (size m e) (size n f) := by
  obtain ⟨k, longer, below, low⟩ := exists_longer (e := e) positive
  have same : size (m * 2 ^ k) (e - k) = size m e := by
    rw [← size_add m k (low least)]
    congr 1
    omega
  rw [longer, ← same]
  exact roundWithAccuracy_spec s (Nat.mul_pos positive (Nat.two_pow_pos k)) (low least) below

end SensorMonitor.Number
