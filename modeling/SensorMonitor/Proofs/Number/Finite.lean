/-
# Proofs.Number.Finite -- what stays finite

A float is finite unless the field of its exponent is full (`isFinite_unpack`), and just the
finite floats have a magnitude (`isSome_magnitude?_iff`).  Natural numbers of 64 bits are
finite floats (`finite_ofRatio`), a finite float stays finite under its other sign, and also
when it is divided by two or more (`isFinite_div`): the exponent of the quotient leaves room
for a carry.
-/
import SensorMonitor.Proofs.Number.Order

namespace SensorMonitor.Number

set_option autoImplicit false

open Float.Model Float.Model.UnpackedFloat

/-! ## Bits -/

theorem toNat_unpackExponent (b : BitVec Format.binary64.numBits) :
    (unpackExponent b).toNat = b.toNat / 2 ^ 52 % 2 ^ 11 := by
  simp only [unpackExponent, BitVec.toNat_cast]
  rw [BitVec.extractLsb_toNat, Nat.shiftRight_eq_div_pow]

theorem toNat_unpackSign (b : BitVec Format.binary64.numBits) :
    (unpackSign b).toNat = b.toNat / 2 ^ 63 % 2 := by
  simp only [unpackSign, BitVec.toNat_cast]
  rw [BitVec.extractLsb_toNat, Nat.shiftRight_eq_div_pow]

/-- Bits stand for a finite float unless the field of the exponent is full. -/
theorem isFinite_unpack (b : BitVec 64) :
    (UnpackedFloat.unpack Format.binary64 b).isFinite = true ↔
      b.toNat / 2 ^ 52 % 2 ^ 11 ≠ 2047 := by
  have full : @unpackExponent Format.binary64 b = -1#11 ↔
      b.toNat / 2 ^ 52 % 2 ^ 11 = 2047 := by
    have field := toNat_unpackExponent b
    rw [← field]
    exact ⟨fun same => same ▸ rfl, fun same => BitVec.eq_of_toNat_eq same⟩
  rw [Ne, ← full]
  simp only [UnpackedFloat.unpack]
  split_ifs with infinite <;> simp only [UnpackedFloat.isFinite, infinite, Bool.false_eq_true,
    not_true_eq_false, not_false_eq_true]

/-- Bits without a sign stand for no float below zero. -/
theorem extent_unpack_nonneg (b : BitVec 64) (positive : b.toNat < 2 ^ 63) :
    0 ≤ extent (UnpackedFloat.unpack Format.binary64 b) := by
  have sign : Sign.ofBitVec (@unpackSign Format.binary64 b) = .positive := by
    have zero : @unpackSign Format.binary64 b = 0#1 := by
      apply BitVec.eq_of_toNat_eq
      rw [toNat_unpackSign, Nat.div_eq_of_lt positive]
      rfl
    rw [zero]
    rfl
  have far := beyond_pos
  simp only [UnpackedFloat.unpack, sign]
  split_ifs <;> simp only [extent, Sign.apply] <;> omega

/-- A float has a magnitude if and only if it is finite. -/
theorem isSome_magnitude?_iff (x : Float) : (magnitude? x).isSome = true ↔ x.isFinite = true := by
  show _ ↔ (UnpackedFloat.unpack Format.binary64 x.toModel.toBits.toBitVec).isFinite = true
  rw [isFinite_unpack]
  have field : x.toBits.toNat / leadingBit % 0x800 =
      x.toModel.toBits.toBitVec.toNat / 2 ^ 52 % 2 ^ 11 := rfl
  simp only [magnitude?, field]
  generalize x.toModel.toBits.toBitVec.toNat / 2 ^ 52 % 2 ^ 11 = field
  split_ifs with full <;> simp [full]

/-- Bits below those of the infinity stand for a finite float that is not below zero. -/
theorem finite_withSign {bits : Nat} (below : bits < infinityBits) :
    (withSign false bits).isFinite = true ∧ 0 ≤ withSign false bits := by
  obtain ⟨b, same⟩ : ∃ b, (UInt64.ofNat bits).toBitVec = b := ⟨_, rfl⟩
  have value : b.toNat = bits := by
    rw [← same]
    exact Nat.mod_eq_of_lt (below.trans (by decide))
  have stands : parts (withSign false bits) = UnpackedFloat.unpack Format.binary64 b := by
    obtain ⟨canonical, settled⟩ := canonical_unpack b
    rw [← settled]
    refine parts_of_pack canonical ?_
    show Float.Model.ofBits (UInt64.ofNat (0 + bits)) = _
    rw [Nat.zero_add, ← same]
    rfl
  have limit : bits < 2047 * 2 ^ 52 := below
  have finite : (parts (withSign false bits)).isFinite = true := by
    rw [stands, isFinite_unpack, value]
    omega
  refine ⟨finite, (le_iff _ _).2 ⟨rfl, isNaN_of_isFinite finite, ?_⟩⟩
  show 0 ≤ extent (parts (withSign false bits))
  rw [stands]
  exact extent_unpack_nonneg b (by omega)

theorem nearestEven_le (num den : Nat) : nearestEven num den ≤ num / den + 1 := by
  simp only [nearestEven]
  split_ifs <;> omega

theorem ratioExponent_bounds (n : Nat) :
    (n.log2 : Int) - 53 ≤ ratioExponent n 1 ∧ ratioExponent n 1 ≤ (n.log2 : Int) - 52 := by
  have one : Nat.log2 1 = 0 := by decide
  simp only [ratioExponent, one]
  split_ifs <;> omega

/-- At its exponent a natural number has no more than 54 places. -/
theorem scaleRatio_lt {n : Nat} {e : Int} (least : (n.log2 : Int) - 53 ≤ e) :
    (scaleRatio n 1 e).1 / (scaleRatio n 1 e).2 < 2 ^ 54 := by
  have places : n < 2 ^ (n.log2 + 1) := Nat.lt_log2_self
  unfold scaleRatio
  split_ifs with whole
  · rw [Nat.one_mul]
    show n / 2 ^ e.toNat < 2 ^ 54
    rw [Nat.div_lt_iff_lt_mul (Nat.two_pow_pos _), ← pow_add]
    refine places.trans_le ?_
    exact Nat.pow_le_pow_right (by decide) (by omega)
  · rw [Nat.div_one]
    calc n * 2 ^ (-e).toNat < 2 ^ (n.log2 + 1) * 2 ^ (-e).toNat :=
          Nat.mul_lt_mul_of_pos_right places (Nat.two_pow_pos _)
      _ = 2 ^ (n.log2 + 1 + (-e).toNat) := (pow_add ..).symm
      _ ≤ 2 ^ 54 := Nat.pow_le_pow_right (by decide) (by omega)

/-- A natural number of 64 bits is a finite float that is not below zero. -/
theorem finite_ofRatio {n : Nat} (bounded : n < 2 ^ 64) :
    (ofRatio false n 1).isFinite = true ∧ 0 ≤ ofRatio false n 1 := by
  refine finite_withSign ?_
  unfold ratioBits
  split_ifs with zero
  · decide
  · obtain ⟨least, largest⟩ := ratioExponent_bounds n
    have short := scaleRatio_lt least
    have nearest := nearestEven_le (scaleRatio n 1 (ratioExponent n 1)).1
      (scaleRatio n 1 (ratioExponent n 1)).2
    have places : n.log2 < 64 := (Nat.log2_lt zero).2 bounded
    refine (min_le_right _ _).trans_lt ?_
    have exponent : (ratioExponent n 1 + 1074).toNat ≤ 1085 := by omega
    calc (ratioExponent n 1 + 1074).toNat * leadingBit + nearestEven _ _
        ≤ 1085 * leadingBit + 2 ^ 54 := Nat.add_le_add (Nat.mul_le_mul_right _ exponent) (by omega)
      _ < infinityBits := by decide

/-! ## Operations -/

theorem isFinite_neg (x : Float) : (-x).isFinite = x.isFinite := by
  have same : parts (-x) = settle (parts x).neg :=
    parts_of_pack (neg_stored (stored_parts x)).1 rfl
  rw [(neg_stored (stored_parts x)).2] at same
  show (parts (-x)).isFinite = (parts x).isFinite
  rw [same]
  cases parts x <;> rfl

/-- The parts are those of a positive float of full length whose exponent is not below `least`. -/
def isLong (least : Int) : UnpackedFloat → Bool
  | .finite .positive m e _ => decide (2 ^ 52 ≤ m) && decide (least ≤ e)
  | _ => false

theorem isLong_iff {least : Int} {u : UnpackedFloat} : isLong least u = true ↔
    ∃ m e h, u = .finite .positive m e h ∧ 2 ^ 52 ≤ m ∧ least ≤ e := by
  constructor
  · intro long
    rcases u with _ | _ | _ | ⟨s, m, e, h⟩
    · cases long
    · cases long
    · cases long
    · cases s with
      | positive => exact ⟨m, e, h, rfl, by simpa [isLong] using long⟩
      | negative => cases long
  · rintro ⟨m, e, h, rfl, normal, within⟩
    simpa [isLong, within] using normal

/-- The places of a quotient are those of the dividend without those of the divisor, or one
less. -/
theorem log2_div_bounds {m n s : Nat} (positive : 0 < m) (positive' : 0 < n) :
    (m * 2 ^ s / n ≠ 0 → (m * 2 ^ s / n).log2 + n.log2 ≤ m.log2 + s) ∧
      (n.log2 < m.log2 + s → m.log2 + s ≤ (m * 2 ^ s / n).log2 + n.log2 + 1) := by
  have below : m * 2 ^ s < 2 ^ (m.log2 + 1 + s) := by
    rw [pow_add]
    exact Nat.mul_lt_mul_of_pos_right Nat.lt_log2_self (Nat.two_pow_pos s)
  have above : 2 ^ (m.log2 + s) ≤ m * 2 ^ s := by
    rw [pow_add]
    exact Nat.mul_le_mul_right _ (Nat.log2_self_le positive.ne')
  constructor
  · intro nonzero
    have product : 2 ^ ((m * 2 ^ s / n).log2 + n.log2) < 2 ^ (m.log2 + 1 + s) := by
      rw [pow_add]
      calc 2 ^ (m * 2 ^ s / n).log2 * 2 ^ n.log2 ≤ m * 2 ^ s / n * n :=
            Nat.mul_le_mul (Nat.log2_self_le nonzero) (Nat.log2_self_le positive'.ne')
        _ ≤ m * 2 ^ s := Nat.div_mul_le_self _ _
        _ < 2 ^ (m.log2 + 1 + s) := below
    have := (Nat.pow_lt_pow_iff_right (by omega)).1 product
    omega
  · intro longer
    have floor : 2 ^ (m.log2 + s - n.log2 - 1) ≤ m * 2 ^ s / n := by
      rw [Nat.le_div_iff_mul_le positive']
      calc 2 ^ (m.log2 + s - n.log2 - 1) * n
          ≤ 2 ^ (m.log2 + s - n.log2 - 1) * 2 ^ (n.log2 + 1) :=
            Nat.mul_le_mul_left _ Nat.lt_log2_self.le
        _ = 2 ^ (m.log2 + s) := by
            rw [← pow_add]
            congr 1
            omega
        _ ≤ m * 2 ^ s := above
    have nonzero : m * 2 ^ s / n ≠ 0 := (Nat.two_pow_pos _).trans_le floor |>.ne'
    have := (Nat.le_log2 nonzero).2 floor
    omega

/-- A quotient is long enough to be rounded at once, and stays within the places of its terms. -/
theorem divCore_spec {m n : Nat} {e f : Int} (positive : 0 < m) (positive' : 0 < n) :
    ∃ q t accuracy, divCore Format.binary64 m e n f = (q, t, accuracy) ∧
      t ≤ Format.binary64.targetExponent (totalExponent q t) ∧
      totalExponent q t ≤ max (totalExponent m e - totalExponent n f + 1) (-1073) := by
  refine ⟨_, _, _, rfl, ?_⟩
  obtain ⟨t, target⟩ : ∃ t, min (e - f) (Format.binary64.targetExponent
    (totalExponent m e - totalExponent n f)) = t := ⟨_, rfl⟩
  obtain ⟨s, shift⟩ : ∃ s, (e - f - t).toNat = s := ⟨_, rfl⟩
  rw [target, shift, Nat.shiftLeft_eq]
  rw [targetExponent_binary64] at target ⊢
  simp only [totalExponent] at target ⊢
  obtain ⟨upper, lower⟩ := log2_div_bounds (s := s) positive positive'
  by_cases zero : m * 2 ^ s / n = 0
  · rw [zero] at lower ⊢
    rw [Nat.log2_zero] at lower ⊢
    omega
  · have := upper zero
    omega

/-- A finite float stays finite when it is divided by two or more. -/
theorem isFinite_div {x y : Float} (finite : x.isFinite = true)
    (large : isLong (-51) (parts y) = true) : (x / y).isFinite = true := by
  obtain ⟨m, e, h, divisor, normal, least⟩ := isLong_iff.1 large
  -- a quotient that is zero or small, whatever it is
  have enough : ∀ u : UnpackedFloat, UnpackedFloat.div Format.binary64 (parts x) (parts y) = u →
      Canonical u → Bounded (settle u) → (x / y).isFinite = true := by
    intro u quotient canonical bounded
    have same : parts (x / y) = settle u :=
      parts_of_pack canonical (congrArg Float.Model.pack quotient)
    rwa [isFinite_iff, same]
  have bounded := (isFinite_iff x).1 finite
  have stored := stored_parts x
  rw [divisor] at enough
  generalize parts x = u at bounded stored enough
  rcases u with s | _ | s | ⟨s, n, f, positive⟩
  · exact bounded.elim
  · exact bounded.elim
  · exact enough (.zero (s / .positive)) rfl trivial trivial
  · obtain ⟨q, t, accuracy, core, below, within⟩ := divCore_spec (e := f) (f := e) positive h
    have quotient : UnpackedFloat.div Format.binary64 (.finite s n f positive)
        (.finite .positive m e h) =
          roundWithAccuracy Format.binary64 (s / .positive) q t accuracy := by
      simp only [UnpackedFloat.div, core]
    have short : n.log2 < 53 := (Nat.log2_lt positive.ne').2 stored.1.bounded
    have long : 52 ≤ m.log2 := (Nat.le_log2 h.ne').2 normal
    have largest : f ≤ 971 := stored.le_largest
    have target : Format.binary64.targetExponent (totalExponent q t) ≤ 970 := by
      rw [targetExponent_binary64]
      simp only [totalExponent] at within ⊢
      omega
    rcases roundWithAccuracy_fits (s / .positive) accuracy below with gone | ⟨k, g, r, kept, fits,
      small⟩
    · exact enough _ (quotient.trans gone) trivial trivial
    · refine enough _ (quotient.trans kept) fits ?_
      rw [settle, if_pos (by omega)]
      trivial

end SensorMonitor.Number
