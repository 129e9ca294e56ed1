/-
# Proofs.Number.Overflow -- which results are too large to be finite

A finite float stands for a rational number (`toRat`).  A sum, a difference or a product of
finite floats is finite exactly if the exact result is below `overflow` in magnitude, which is
half a unit above the largest float (`isFinite_add_iff`, `isFinite_sub_iff`,
`isFinite_mul_iff`).  The significand of the largest float is odd, so that what lies half a
unit above it is rounded up, and then there is no exponent left for it
(`bounded_roundWithAccuracy`).
-/
import SensorMonitor.Proofs.Number.Order

namespace SensorMonitor.Number

set_option autoImplicit false

open Float.Model Float.Model.UnpackedFloat

/-! ## Exact values -/

/-- The rational number that a finite float stands for, and zero for the others. -/
def amount : UnpackedFloat → ℚ
  | .finite s m e _ => (s.apply m : ℤ) * 2 ^ e
  | _ => 0

/-- The rational number that a finite float stands for, and zero for the others. -/
def toRat (x : Float) : ℚ := amount (parts x)

/-- The least magnitude that is rounded to an infinity: half a unit above the largest float, which
is `(2 ^ 53 - 1) * 2 ^ 971`. -/
def overflow : ℚ := (2 ^ 54 - 1) * 2 ^ (970 : ℤ)

theorem overflow_pos : 0 < overflow := by
  have unit : (0 : ℚ) < 2 ^ (970 : ℤ) := by positivity
  exact mul_pos (by norm_num) unit

/-- The largest float is below the overflow, and the next power of two above it. -/
theorem overflow_bounds : ((2 ^ 53 - 1 : Nat) : ℚ) * 2 ^ (971 : ℤ) < overflow ∧
    overflow ≤ (2 ^ 52 : Nat) * 2 ^ (972 : ℤ) := by
  have positive : (0 : ℚ) < 2 ^ (970 : ℤ) := by positivity
  have next : (2 : ℚ) ^ (971 : ℤ) = 2 ^ (970 : ℤ) * 2 := zpow_add_one₀ two_ne_zero 970
  have second : (2 : ℚ) ^ (972 : ℤ) = 2 ^ (971 : ℤ) * 2 := zpow_add_one₀ two_ne_zero 971
  rw [overflow, second, next]
  generalize (2 : ℚ) ^ (970 : ℤ) = unit at positive
  push_cast
  constructor <;> linarith

theorem abs_apply (s : Sign) (m : Nat) : |((s.apply m : ℤ) : ℚ)| = m := by
  cases s <;> simp [Sign.apply]

theorem abs_amount_finite (s : Sign) {m : Nat} {e : Int} (h : 0 < m) :
    |amount (.finite s m e h)| = m * 2 ^ e := by
  have power : (0 : ℚ) < 2 ^ e := by positivity
  rw [amount, abs_mul, abs_apply, abs_of_pos power]

theorem amount_neg (u : UnpackedFloat) : amount u.neg = -amount u := by
  cases u with
  | notANumber | infinity s | zero s => exact neg_zero.symm
  | finite s m e h =>
      simp only [UnpackedFloat.neg, amount]
      rw [apply_neg]
      push_cast
      ring

/-- Whole numbers of a unit are compared without it. -/
theorem mul_zpow_lt_iff (m n k : Nat) (e : Int) :
    (m : ℚ) * 2 ^ e < n * 2 ^ (e + k) ↔ m < n * 2 ^ k := by
  have power : (0 : ℚ) < 2 ^ e := by positivity
  rw [zpow_add₀ two_ne_zero, zpow_natCast, mul_left_comm, mul_comm (m : ℚ),
    mul_lt_mul_iff_right₀ power]
  exact_mod_cast Iff.rfl

/-! ## What rounding leaves finite -/

section Dropping

variable {m k : Nat} {e : Int}

/-- Below the largest exponent all that is rounded is small enough. -/
theorem lt_overflow_of_low (upper : m < 2 ^ 53 * 2 ^ k) (low : e + k < 971) :
    (m : ℚ) * 2 ^ e < overflow := by
  have positive : (0 : ℚ) < 2 ^ (970 : ℤ) := by positivity
  have within : (2 : ℚ) ^ (e + k) ≤ 2 ^ (970 : ℤ) := zpow_le_zpow_right₀ one_le_two (by omega)
  calc (m : ℚ) * 2 ^ e < (2 ^ 53 : Nat) * 2 ^ (e + k) := (mul_zpow_lt_iff m _ k e).2 upper
    _ ≤ (2 ^ 53 : Nat) * 2 ^ (970 : ℤ) := mul_le_mul_of_nonneg_left within (Nat.cast_nonneg _)
    _ < overflow := by
        rw [overflow]
        generalize (2 : ℚ) ^ (970 : ℤ) = unit at positive
        push_cast
        linarith

/-- At the largest exponent only a carry is too large: the largest significand is odd, so that what
lies half a unit above it is rounded up. -/
theorem lt_overflow_iff (top : e + k = 971) :
    (m : ℚ) * 2 ^ e < overflow ↔ dropBits m k ≤ 2 ^ 53 - 1 := by
  have odd : (2 ^ 53 - 1) % 2 = 1 := by norm_num
  have half : (970 : ℤ) = e + k - 1 := by omega
  have doubled : (m : ℚ) * 2 ^ e < overflow ↔
      ((2 * m : Nat) : ℚ) * 2 ^ e < (2 * (2 ^ 53 - 1) + 1 : Nat) * 2 ^ (e + k) := by
    rw [overflow, half, zpow_sub_one₀ two_ne_zero]
    push_cast
    constructor <;> intro lt <;> linarith
  rw [doubled, mul_zpow_lt_iff, dropBits_le_iff odd]

/-- Above the largest exponent everything with a leading bit is too large. -/
theorem overflow_le_of_high (normal : 2 ^ 52 * 2 ^ k ≤ m) (high : 971 < e + k) :
    overflow ≤ (m : ℚ) * 2 ^ e := by
  have within : (2 : ℚ) ^ (972 : ℤ) ≤ 2 ^ (e + k) := zpow_le_zpow_right₀ one_le_two (by omega)
  calc overflow ≤ (2 ^ 52 : Nat) * 2 ^ (972 : ℤ) := overflow_bounds.2
    _ ≤ (2 ^ 52 : Nat) * 2 ^ (e + k) := mul_le_mul_of_nonneg_left within (Nat.cast_nonneg _)
    _ ≤ m * 2 ^ e := not_lt.1 ((mul_zpow_lt_iff m _ k e).not.2 (not_lt.2 normal))

end Dropping

theorem bounded_settle_finite (s : Sign) {m : Nat} {e : Int} (h : 0 < m) :
    Bounded (settle (.finite s m e h)) ↔ e ≤ 971 := by
  rw [settle]
  split_ifs with small
  · exact iff_of_true trivial small
  · exact iff_of_false id small

/-- **What is rounded is finite exactly if it is below half a unit above the largest float.** -/
theorem bounded_roundWithAccuracy (s : Sign) {m : Nat} {e : Int}
    (below : e ≤ Format.binary64.targetExponent (totalExponent m e)) :
    Bounded (settle (roundWithAccuracy Format.binary64 s m e .exact)) ↔
      (m : ℚ) * 2 ^ e < overflow := by
  obtain ⟨k, target, least, upper, leading⟩ := exists_drop below
  have short : dropBits m k ≤ 2 ^ 53 := dropBits_le upper.le
  rw [roundWithAccuracy_eq s e .exact k (rfl : _ = dropBits m k) target short least]
  rcases lt_trichotomy (e + k) 971 with low | top | high
  · -- even a carry leaves room
    refine iff_of_true ?_ (lt_overflow_of_low upper low)
    split_ifs with full zero
    · exact (bounded_settle_finite s _).2 (by omega)
    · exact trivial
    · exact (bounded_settle_finite s _).2 (by omega)
  · rw [lt_overflow_iff top]
    split_ifs with full zero
    · rw [bounded_settle_finite, full]
      exact iff_of_false (by omega) (by norm_num)
    · exact iff_of_true trivial (by omega)
    · rw [bounded_settle_finite]
      exact iff_of_true top.le (by omega)
  · have normal : 2 ^ 52 * 2 ^ k ≤ m := leading.resolve_right (by omega)
    have long : 2 ^ 52 ≤ dropBits m k := le_dropBits normal
    refine iff_of_false ?_ (not_lt.2 (overflow_le_of_high normal high))
    split_ifs with full zero
    · rw [bounded_settle_finite]
      omega
    · omega
    · rw [bounded_settle_finite]
      omega

theorem bounded_round (s : Sign) {m : Nat} {e : Int} (positive : 0 < m) :
    Bounded (settle (UnpackedFloat.round Format.binary64 s m e)) ↔ (m : ℚ) * 2 ^ e < overflow := by
  obtain ⟨k, longer, below, -⟩ := exists_longer (e := e) positive
  have same : ((m * 2 ^ k : Nat) : ℚ) * 2 ^ (e - k) = m * 2 ^ e := by
    rw [zpow_sub₀ two_ne_zero, zpow_natCast]
    push_cast
    field_simp
  rw [longer, bounded_roundWithAccuracy s below, same]

theorem bounded_normalize (z : Int) (e : Int) (s : Sign) :
    Bounded (settle (UnpackedFloat.normalize Format.binary64 z e s)) ↔
      |(z : ℚ)| * 2 ^ e < overflow := by
  rcases lt_trichotomy z 0 with neg | rfl | pos
  · have positive : 0 < (-z).toNat := by omega
    have magnitude : |(z : ℚ)| = ((-z).toNat : ℚ) := by
      have whole : ((-z).toNat : ℤ) = -z := Int.toNat_of_nonneg (by omega)
      rw [abs_of_neg (by exact_mod_cast neg)]
      exact_mod_cast whole.symm
    rw [UnpackedFloat.normalize, compare_lt_iff_lt.2 neg, magnitude]
    exact bounded_round .negative positive
  · rw [Int.cast_zero, abs_zero, zero_mul]
    exact iff_of_true trivial overflow_pos
  · have positive : 0 < z.toNat := by omega
    have magnitude : |(z : ℚ)| = (z.toNat : ℚ) := by
      have whole : (z.toNat : ℤ) = z := Int.toNat_of_nonneg (by omega)
      rw [abs_of_pos (by exact_mod_cast pos)]
      exact_mod_cast whole.symm
    rw [UnpackedFloat.normalize, compare_gt_iff_gt.2 pos, magnitude]
    exact bounded_round .positive positive

/-! ## Sums -/

/-- Finite floats are below the overflow themselves. -/
theorem abs_amount_lt {u : UnpackedFloat} (stored : Stored u) : |amount u| < overflow := by
  rcases u with s | _ | s | ⟨s, m, e, h⟩
  · simpa [amount] using overflow_pos
  · simpa [amount] using overflow_pos
  · simpa [amount] using overflow_pos
  · have bounded : m ≤ 2 ^ 53 - 1 := Nat.le_sub_one_of_lt stored.1.bounded
    rw [abs_amount_finite]
    calc (m : ℚ) * 2 ^ e ≤ (2 ^ 53 - 1 : Nat) * 2 ^ (971 : ℤ) := by
          gcongr
          · exact one_le_two
          · exact stored.le_largest
      _ < overflow := overflow_bounds.1

theorem apply_shiftLeft (s : Sign) (m : Nat) {e t : Int} (le : t ≤ e) :
    ((s.apply (m <<< (e - t).toNat : Nat) : ℤ) : ℚ) * 2 ^ t = (s.apply m : ℤ) * 2 ^ e := by
  obtain ⟨k, rfl⟩ : ∃ k : Nat, e = t + k := ⟨(e - t).toNat, by omega⟩
  have amount : (t + k - t).toNat = k := by omega
  rw [amount, Nat.shiftLeft_eq, zpow_add₀ two_ne_zero, zpow_natCast]
  cases s <;> simp only [Sign.apply] <;> push_cast <;> ring

/-- **A sum is finite exactly if the parts are and the exact sum is below the overflow.** -/
theorem bounded_add {u v : UnpackedFloat} (hu : Stored u) (hv : Stored v) :
    Bounded (settle (UnpackedFloat.add Format.binary64 u v)) ↔
      Bounded u ∧ Bounded v ∧ |amount u + amount v| < overflow := by
  rcases u with s | _ | s | ⟨s, m, e, h⟩
  · refine iff_of_false ?_ (fun both => both.1)
    rcases v with s' | _ | s' | ⟨s', n, f, h'⟩
    · simp only [UnpackedFloat.add]
      split <;> exact id
    · exact id
    · exact id
    · exact id
  · exact iff_of_false id (fun both => both.1)
  · rcases v with s' | _ | s' | ⟨s', n, f, h'⟩
    · exact iff_of_false id (fun both => both.2.1)
    · exact iff_of_false id (fun both => both.2.1)
    · have small : |amount (.zero s) + amount (.zero s')| < overflow := by
        simpa [amount] using overflow_pos
      refine iff_of_true ?_ ⟨trivial, trivial, small⟩
      simp only [UnpackedFloat.add]
      split <;> exact trivial
    · have small := abs_amount_lt hv
      have same : amount (.zero s) + amount (.finite s' n f h') = amount (.finite s' n f h') :=
        zero_add _
      rw [same]
      refine iff_of_true ?_ ⟨trivial, trivial, small⟩
      change Bounded (settle (.finite s' n f h'))
      rw [hv.2]
      trivial
  · rcases v with s' | _ | s' | ⟨s', n, f, h'⟩
    · exact iff_of_false id (fun both => both.2.1)
    · exact iff_of_false id (fun both => both.2.1)
    · have small := abs_amount_lt hu
      have same : amount (.finite s m e h) + amount (.zero s') = amount (.finite s m e h) :=
        add_zero _
      rw [same]
      refine iff_of_true ?_ ⟨trivial, trivial, small⟩
      change Bounded (settle (.finite s m e h))
      rw [hu.2]
      trivial
    · have power : (0 : ℚ) < 2 ^ min e f := by positivity
      have exact_ : amount (.finite s m e h) + amount (.finite s' n f h') =
          ((s.apply (m <<< (e - min e f).toNat : Nat) +
            s'.apply (n <<< (f - min e f).toNat : Nat) : ℤ) : ℚ) * 2 ^ min e f := by
        rw [Int.cast_add, add_mul, apply_shiftLeft s m (min_le_left e f),
          apply_shiftLeft s' n (min_le_right e f)]
        rfl
      rw [exact_, abs_mul, abs_of_pos power]
      simp only [UnpackedFloat.add, decreaseExponent]
      rw [bounded_normalize]
      exact ⟨fun lt => ⟨trivial, trivial, lt⟩, fun both => both.2.2⟩

/-! ## Products -/

/-- The significand of a product is long enough to be rounded as it is. -/
theorem mul_exponent_le {m n : Nat} {e f : Int} (fits : Fits m e) (fits' : Fits n f) (h : 0 < m)
    (h' : 0 < n) :
    e + f ≤ Format.binary64.targetExponent (totalExponent (m * n) (e + f)) := by
  rw [targetExponent_binary64]
  by_cases tiny : e = -1074 ∧ f = -1074
  · omega
  · have long : 52 ≤ (m * n).log2 := by
      rw [Nat.le_log2 (Nat.mul_pos h h').ne']
      rcases fits.leading with normal | least
      · exact normal.trans (Nat.le_mul_of_pos_right m h')
      · have normal := fits'.leading.resolve_right fun least' => tiny ⟨least, least'⟩
        exact normal.trans (Nat.le_mul_of_pos_left n h)
    simp only [totalExponent]
    omega

/-- **A product is finite exactly if the factors are and the exact product is below the
overflow.** -/
theorem bounded_mul {u v : UnpackedFloat} (hu : Stored u) (hv : Stored v) :
    Bounded (settle (UnpackedFloat.mul Format.binary64 u v)) ↔
      Bounded u ∧ Bounded v ∧ |amount u * amount v| < overflow := by
  rcases u with s | _ | s | ⟨s, m, e, h⟩
  · refine iff_of_false ?_ (fun both => both.1)
    rcases v with s' | _ | s' | ⟨s', n, f, h'⟩ <;> exact id
  · exact iff_of_false id (fun both => both.1)
  · rcases v with s' | _ | s' | ⟨s', n, f, h'⟩
    · exact iff_of_false id (fun both => both.2.1)
    · exact iff_of_false id (fun both => both.2.1)
    · exact iff_of_true trivial ⟨trivial, trivial, by simpa [amount] using overflow_pos⟩
    · exact iff_of_true trivial ⟨trivial, trivial, by simpa [amount] using overflow_pos⟩
  · rcases v with s' | _ | s' | ⟨s', n, f, h'⟩
    · exact iff_of_false id (fun both => both.2.1)
    · exact iff_of_false id (fun both => both.2.1)
    · exact iff_of_true trivial ⟨trivial, trivial, by simpa [amount] using overflow_pos⟩
    · have product : |amount (.finite s m e h) * amount (.finite s' n f h')| =
          ((m * n : Nat) : ℚ) * 2 ^ (e + f) := by
        rw [abs_mul, abs_amount_finite, abs_amount_finite, zpow_add₀ two_ne_zero]
        push_cast
        ring
      rw [product]
      change Bounded (settle (roundWithAccuracy _ (s * s') (m * n) (e + f) .exact)) ↔ _
      rw [bounded_roundWithAccuracy _ (mul_exponent_le hu.1 hv.1 h h')]
      exact ⟨fun lt => ⟨trivial, trivial, lt⟩, fun both => both.2.2⟩

theorem canonical_mul {u v : UnpackedFloat} (hu : Stored u) (hv : Stored v) :
    Canonical (UnpackedFloat.mul Format.binary64 u v) := by
  rcases u with s | _ | s | ⟨s, m, e, h⟩ <;> rcases v with s' | _ | s' | ⟨s', n, f, h'⟩ <;>
    try trivial
  change Canonical (roundWithAccuracy _ (s * s') (m * n) (e + f) .exact)
  obtain zero | ⟨k, g, r, kept, fits, -⟩ := roundWithAccuracy_fits (s * s') .exact
    (mul_exponent_le hu.1 hv.1 h h')
  · rw [zero]
    trivial
  · rw [kept]
    exact fits

theorem canonical_add {u v : UnpackedFloat} (hu : Stored u) (hv : Stored v) :
    Canonical (UnpackedFloat.add Format.binary64 u v) := by
  by_cases both : Bounded u ∧ Bounded v
  · exact (add_nearest hu hv both.1 both.2).canonical
  · -- what is not finite needs no rounding
    rcases u with s | _ | s | ⟨s, m, e, h⟩
    · rcases v with s' | _ | s' | ⟨s', n, f, h'⟩
      · simp only [UnpackedFloat.add]
        split <;> trivial
      all_goals trivial
    · trivial
    all_goals
      rcases v with s' | _ | s' | ⟨s', n, f, h'⟩
      · trivial
      · trivial
      all_goals exact absurd ⟨trivial, trivial⟩ both

/-! ## Floats -/

section Floats

variable (x y : Float)

theorem parts_add : parts (x + y) =
    settle (UnpackedFloat.add Format.binary64 (parts x) (parts y)) :=
  parts_of_pack (canonical_add (stored_parts x) (stored_parts y)) rfl

theorem parts_sub : parts (x - y) =
    settle (UnpackedFloat.add Format.binary64 (parts x) (parts y).neg) := by
  rw [← sub_eq_add]
  refine parts_of_pack ?_ rfl
  rw [sub_eq_add]
  exact canonical_add (stored_parts x) (neg_stored (stored_parts y))

theorem parts_mul : parts (x * y) =
    settle (UnpackedFloat.mul Format.binary64 (parts x) (parts y)) :=
  parts_of_pack (canonical_mul (stored_parts x) (stored_parts y)) rfl

/-- **A sum is finite exactly if the terms are and the exact sum is below the overflow.** -/
theorem isFinite_add_iff : (x + y).isFinite = true ↔
    x.isFinite = true ∧ y.isFinite = true ∧ |toRat x + toRat y| < overflow := by
  rw [isFinite_iff, isFinite_iff, isFinite_iff, parts_add,
    bounded_add (stored_parts x) (stored_parts y)]
  rfl

/-- **A difference is finite exactly if the terms are and the exact difference is below the
overflow.** -/
theorem isFinite_sub_iff : (x - y).isFinite = true ↔
    x.isFinite = true ∧ y.isFinite = true ∧ |toRat x - toRat y| < overflow := by
  have negated : Bounded (parts y).neg ↔ Bounded (parts y) := by cases parts y <;> exact Iff.rfl
  rw [isFinite_iff, isFinite_iff, isFinite_iff, parts_sub,
    bounded_add (stored_parts x) (neg_stored (stored_parts y)), negated, amount_neg,
    ← sub_eq_add_neg]
  rfl

/-- **A product is finite exactly if the factors are and the exact product is below the
overflow.** -/
theorem isFinite_mul_iff : (x * y).isFinite = true ↔
    x.isFinite = true ∧ y.isFinite = true ∧ |toRat x * toRat y| < overflow := by
  rw [isFinite_iff, isFinite_iff, isFinite_iff, parts_mul,
    bounded_mul (stored_parts x) (stored_parts y)]
  rfl

variable {x y}

/-- A share of at most the whole is finite exactly if the whole is. -/
theorem isFinite_mul_share_iff (finite : y.isFinite = true) (share : |toRat y| ≤ 1) :
    (x * y).isFinite = true ↔ x.isFinite = true := by
  have whole : |toRat x| < overflow := abs_amount_lt (stored_parts x)
  have part : |toRat x * toRat y| < overflow := by
    rw [abs_mul]
    exact (mul_le_of_le_one_right (abs_nonneg _) share).trans_lt whole
  rw [isFinite_mul_iff]
  exact ⟨fun all => all.1, fun finite' => ⟨finite', finite, part⟩⟩

/-- The sum of finite numbers may be infinite, but it is a number. -/
theorem isNaN_add (finite : x.isFinite = true) (finite' : y.isFinite = true) :
    (x + y).isNaN = false := by
  have nearest := add_nearest (stored_parts x) (stored_parts y) ((isFinite_iff x).1 finite)
    ((isFinite_iff y).1 finite')
  exact (parts_of_nearest (x := x + y) nearest rfl).2

/-- So is the product of a number and a finite one that is not zero. -/
theorem isNaN_mul (number : x.isNaN = false) (finite : y.isFinite = true)
    (nonzero : (y == 0) = false) : (x * y).isNaN = false := by
  rw [isNaN_eq_false_iff] at number
  have bounded := (isFinite_iff y).1 finite
  have positive : place y ≠ 0 := by
    intro zero
    have same : (y == 0) = true := (beq_iff y 0).2 ⟨isNaN_of_isFinite finite, rfl, zero⟩
    rw [same] at nonzero
    cases nonzero
  have stored := stored_parts x
  have stored' := stored_parts y
  rw [isNaN_eq_false_iff, parts_mul]
  rw [place] at positive
  generalize parts x = u at number stored ⊢
  generalize parts y = v at bounded positive stored' ⊢
  rcases v with s' | _ | s' | ⟨s', n, f, h'⟩
  · exact bounded.elim
  · exact bounded.elim
  · exact absurd rfl positive
  · rcases u with s | _ | s | ⟨s, m, e, h⟩
    · simp [UnpackedFloat.mul, settle]
    · exact absurd rfl number
    · simp [UnpackedFloat.mul, settle]
    · change settle (roundWithAccuracy _ (s * s') (m * n) (e + f) .exact) ≠ _
      obtain zero | ⟨k, g, r, kept, -, -⟩ := roundWithAccuracy_fits (s * s') .exact
        (mul_exponent_le stored.1 stored'.1 h h')
      · rw [zero]
        simp [settle]
      · rw [kept, settle]
        split_ifs <;> simp

/-! ## Infinities -/

theorem lt_infinity (finite : x.isFinite = true) : x < infinity := by
  have number := isNaN_of_isFinite finite
  have before := (isFinite_iff_place number).1 finite
  have last : place infinity = beyond := rfl
  rw [lt_iff, last]
  exact ⟨number, rfl, by omega⟩

/-- Between finite numbers there are only finite ones. -/
theorem isFinite_of_between {z : Float} (finite : x.isFinite = true) (finite' : z.isFinite = true)
    (le : x ≤ y) (le' : y ≤ z) : y.isFinite = true := by
  obtain ⟨number, between, low⟩ := (le_iff x y).1 le
  obtain ⟨-, number', high⟩ := (le_iff y z).1 le'
  rw [isFinite_iff_place number] at finite
  rw [isFinite_iff_place number'] at finite'
  rw [isFinite_iff_place between]
  omega

/-- A number that is at most a finite one is finite if some finite number is at most it. -/
theorem exists_le_iff (finite : y.isFinite = true) (le : x ≤ y) :
    (∃ z : Float, z.isFinite = true ∧ z ≤ x) ↔ x.isFinite = true := by
  constructor
  · rintro ⟨z, known, below⟩
    exact isFinite_of_between known finite below le
  · intro known
    have number := isNaN_of_isFinite known
    exact ⟨x, known, (le_iff x x).2 ⟨number, number, le_rfl⟩⟩

/-- A number that is at least a finite one is finite if some finite number is at least it. -/
theorem exists_ge_iff (finite : x.isFinite = true) (le : x ≤ y) :
    (∃ z : Float, z.isFinite = true ∧ y ≤ z) ↔ y.isFinite = true := by
  constructor
  · rintro ⟨z, known, above⟩
    exact isFinite_of_between finite known le above
  · intro known
    have number := isNaN_of_isFinite known
    exact ⟨y, known, (le_iff y y).2 ⟨number, number, le_rfl⟩⟩

/-- Nothing is larger than a number that is neither finite nor negative. -/
theorem not_lt_of_infinite (nonneg : 0 ≤ x) (infinite : x.isFinite = false) : ¬ x < y := by
  have top : parts x = .infinity .positive := by
    refine (bounded_or_infinity nonneg).resolve_left fun bounded => ?_
    rw [(isFinite_iff x).2 bounded] at infinite
    cases infinite
  rw [lt_iff]
  rintro ⟨-, number, less⟩
  obtain ⟨s, n, f, -, within, size⟩ :=
    exists_size (stored_parts y) ((isNaN_eq_false_iff y).1 number)
  rw [place, place, top, size] at less
  cases s <;> simp only [extent, Sign.apply] at less <;> omega

end Floats

end SensorMonitor.Number
