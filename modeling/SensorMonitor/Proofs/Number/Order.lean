/-
# Proofs.Number.Order -- the order of floats, and what sums do to it

The floats that are numbers are ordered by their `extent`, an integer: the value in
units of the least positive float, with the infinities beyond all others (`lt_iff`,
`le_iff`, `beq_iff`).  Taking a band away from a finite number does not make it
larger, and adding one does not make it smaller, whatever is lost in rounding
(`sub_le_self`, `le_add_self`).  And no band is so narrow that it tells apart what is the
same value (`not_lt_abs_sub`).
-/
import SensorMonitor.Number.Binary64
import SensorMonitor.Proofs.Number.Rounding

namespace SensorMonitor.Number

set_option autoImplicit false

open Float.Model Float.Model.UnpackedFloat

/-! ## Packing -/

/-- The parts of a float that can be packed: those of a finite float fit, the largest
exponent apart. -/
def Canonical : UnpackedFloat → Prop
  | .finite _ m e _ => Fits m e
  | _ => True

/-- What is left of a float after packing: one that is too large is infinite. -/
def settle : UnpackedFloat → UnpackedFloat
  | .finite s m e h => if e ≤ 971 then .finite s m e h else .infinity s
  | u => u

/-- The parts of a float. -/
def parts (x : Float) : UnpackedFloat := x.toModel.unpack

theorem toNat_implicit_append (fraction : BitVec 52) :
    (1#1 ++ fraction).toNat = 2 ^ 52 + fraction.toNat := by
  rw [BitVec.toNat_append, ← Nat.shiftLeft_add_eq_or_of_lt fraction.isLt]
  rfl

/-- What bits stand for can be packed, and is left as it is. -/
theorem canonical_unpack (b : BitVec 64) : Canonical (UnpackedFloat.unpack Format.binary64 b) ∧
    settle (UnpackedFloat.unpack Format.binary64 b) = UnpackedFloat.unpack Format.binary64 b := by
  fun_cases UnpackedFloat.unpack Format.binary64 b with
  | case1 => exact ⟨trivial, rfl⟩
  | case2 => exact ⟨trivial, rfl⟩
  | case3 => exact ⟨trivial, rfl⟩
  | case4 fraction field e sign s infinite zero nonzero =>
      have bound : fraction.toNat < 2 ^ 52 := fraction.isLt
      have exponent : e + 1 = -1074 := by simp [e, zero, Format.exponentBias]
      refine ⟨⟨by omega, by omega, Or.inr exponent⟩, ?_⟩
      simp only [settle]
      rw [if_pos (by omega)]
  | case5 fraction field e sign s infinite zero =>
      have bound : fraction.toNat < 2 ^ 52 := fraction.isLt
      have value : (1#1 ++ fraction).toNat = 2 ^ 52 + fraction.toNat :=
        toNat_implicit_append fraction
      have positive : field.toNat ≠ 0 := fun h => zero (BitVec.eq_of_toNat_eq h)
      have finite : field.toNat ≠ 2047 := fun h => infinite (BitVec.eq_of_toNat_eq h)
      have limit : field.toNat < 2048 := field.isLt
      have exponent : e = field.toNat - 1075 := by simp [e, Format.exponentBias]
      refine ⟨⟨by omega, by omega, Or.inl (by omega)⟩, ?_⟩
      simp only [settle]
      rw [if_pos (by omega)]

theorem canonical_parts (x : Float) : Canonical (parts x) ∧ settle (parts x) = parts x :=
  canonical_unpack x.toModel.toBits.toBitVec

theorem unpack_packComponents (s : Sign) (field : BitVec 11) (fraction : BitVec 52)
    (finite : field ≠ -1#11) :
    UnpackedFloat.unpack Format.binary64 (packComponents Format.binary64 s field fraction) =
      if field = 0#11 then
        if h : fraction = 0#52 then .zero s
        else .finite s fraction.toNat (-1074) (by simpa [BitVec.toNat_pos, BitVec.pos_iff_ne_zero])
      else .finite s (2 ^ 52 + fraction.toNat) (field.toNat - 1075) (by omega) := by
  simp only [UnpackedFloat.unpack]
  simp only [unpackExponent_packComponents, unpackMantissa_packComponents,
    unpackSign_packComponents, Sign.ofBitVec_toBitVec, if_neg finite, toNat_implicit_append]
  by_cases tiny : field = 0#11
  · subst tiny
    rfl
  · rw [if_neg tiny, if_neg tiny]
    rfl

/-- Packing rounds nothing: only what is too large is changed. -/
theorem unpack_pack {u : UnpackedFloat} (canonical : Canonical u) :
    (Float.Model.pack u).unpack = settle u := by
  change UnpackedFloat.unpack Format.binary64 (UnpackedFloat.pack Format.binary64 u) = settle u
  cases u with
  | notANumber => rfl
  | infinity s => cases s <;> rfl
  | zero s => cases s <;> rfl
  | finite s m e positive =>
      obtain ⟨bounded, least, leading⟩ := canonical
      obtain ⟨b, hb⟩ : ∃ b, (e + 1023 + 52).toNat = b := ⟨_, rfl⟩
      change UnpackedFloat.unpack _ (if 2 ^ 11 ≤ (e + 1023 + 52).toNat + 1 then _
        else if m.log2 + 1 = 53 then
          packComponents Format.binary64 s (BitVec.ofNat 11 (e + 1023 + 52).toNat)
            (BitVec.ofNat 52 m)
        else packComponents Format.binary64 s 0#11 (BitVec.ofNat 52 m)) = _
      rw [hb]
      by_cases large : 971 < e
      · have settled : settle (.finite s m e positive) = .infinity s := if_neg (by omega)
        rw [if_pos (by omega), settled]
        cases s <;> rfl
      · have settled : settle (.finite s m e positive) = .finite s m e positive :=
          if_pos (by omega)
        rw [if_neg (by omega), settled]
        have field : (BitVec.ofNat 11 b).toNat = b := by
          rw [BitVec.toNat_ofNat, Nat.mod_eq_of_lt (by omega)]
        -- the leading bit is left out of the fraction just where the exponent field is not zero
        by_cases normal : 2 ^ 52 ≤ m
        · have log : m.log2 = 52 := (Nat.log2_eq_iff positive.ne').2 ⟨normal, bounded⟩
          have fraction : (BitVec.ofNat 52 m).toNat = m - 2 ^ 52 := by
            rw [BitVec.toNat_ofNat]
            omega
          have notLast : BitVec.ofNat 11 b ≠ -1#11 := by
            intro h
            have : b = 2047 := field ▸ congrArg BitVec.toNat h
            omega
          have notZero : BitVec.ofNat 11 b ≠ 0#11 := by
            intro h
            have : b = 0 := field ▸ congrArg BitVec.toNat h
            omega
          rw [if_pos (by omega), unpack_packComponents _ _ _ notLast, if_neg notZero]
          congr 1
          · omega
          · omega
        · have log : m.log2 < 52 := (Nat.log2_lt positive.ne').2 (by omega)
          have fraction : (BitVec.ofNat 52 m).toNat = m := by
            rw [BitVec.toNat_ofNat, Nat.mod_eq_of_lt (by omega)]
          have nonzero : BitVec.ofNat 52 m ≠ 0#52 := by
            intro h
            have : m = 0 := fraction ▸ congrArg BitVec.toNat h
            omega
          rw [if_neg (by omega), unpack_packComponents _ _ _ (by decide), if_pos rfl,
            dif_neg nonzero]
          congr 1
          omega

/-! ## The extent of a float -/

/-- The parts are those of a float. -/
def Stored (u : UnpackedFloat) : Prop := Canonical u ∧ settle u = u

theorem stored_parts (x : Float) : Stored (parts x) := canonical_parts x

theorem Stored.le_largest {s : Sign} {m : Nat} {e : Int} {h : 0 < m}
    (stored : Stored (.finite s m e h)) : e ≤ 971 := by
  by_contra large
  have settled := stored.2
  rw [settle, if_neg large] at settled
  cases settled

/-- The place of the infinities: the first one beyond the finite floats. -/
def beyond : Nat := size (2 ^ 53) 971

/-- The value in units of the least positive float; NaN has no place in the order. -/
def extent : UnpackedFloat → Int
  | .infinity s => s.apply beyond
  | .finite s m e _ => s.apply (size m e)
  | .zero _ => 0
  | .notANumber => 0

theorem size_lt_beyond {m : Nat} {e : Int} (fits : Fits m e) (le : e ≤ 971) :
    size m e < beyond := by
  rcases le.lt_or_eq with lt | rfl
  · exact (size_lt_of_exponent_lt fits lt).trans_le (size_le_size 971 (by norm_num))
  · exact Nat.mul_lt_mul_of_pos_right fits.bounded (Nat.two_pow_pos _)

theorem size_pos {m : Nat} (e : Int) (positive : 0 < m) : 0 < size m e :=
  Nat.mul_pos positive (Nat.two_pow_pos _)

theorem beyond_pos : 0 < beyond := size_pos 971 (Nat.two_pow_pos 53)

theorem swap_compare_natCast (a b : Nat) : (compare a b).swap = compare (-(a : Int)) (-b) := by
  rcases lt_trichotomy a b with lt | rfl | gt
  · rw [compare_lt_iff_lt.2 lt, compare_gt_iff_gt.2 (by omega)]
    rfl
  · rw [compare_eq_iff_eq.2 rfl, compare_eq_iff_eq.2 rfl]
    rfl
  · rw [compare_gt_iff_gt.2 gt, compare_lt_iff_lt.2 (by omega)]
    rfl

theorem compare_natCast (a b : Nat) : compare a b = compare (a : Int) b := by
  rcases lt_trichotomy a b with lt | rfl | gt
  · rw [compare_lt_iff_lt.2 lt, compare_lt_iff_lt.2 (by omega)]
  · rw [compare_eq_iff_eq.2 rfl, compare_eq_iff_eq.2 rfl]
  · rw [compare_gt_iff_gt.2 gt, compare_gt_iff_gt.2 (by omega)]

theorem compare_extent_finite {s s' : Sign} {m n : Nat} {e f : Int} {h : 0 < m} {h' : 0 < n}
    (fits : Fits m e) (fits' : Fits n f) :
    (UnpackedFloat.finite s m e h).compare (.finite s' n f h') =
      some (compare (s.apply (size m e)) (s'.apply (size n f))) := by
  have := size_pos e h
  have := size_pos f h'
  cases s <;> cases s' <;> simp only [UnpackedFloat.compare, Sign.apply, compare_size fits fits']
  · rw [swap_compare_natCast]
  · rw [compare_lt_iff_lt.2 (by omega)]
  · rw [compare_gt_iff_gt.2 (by omega)]
  · rw [compare_natCast]

/-- **Floats that are numbers are compared by their extent.** -/
theorem compare_extent {u v : UnpackedFloat} (hu : Stored u) (hv : Stored v)
    (number : u ≠ .notANumber) (number' : v ≠ .notANumber) :
    u.compare v = some (compare (extent u) (extent v)) := by
  have far := beyond_pos
  have within : ∀ {s m e h}, Stored (.finite s m e h) → 0 < size m e ∧ size m e < beyond :=
    fun {s m e h} stored => ⟨size_pos e h, size_lt_beyond stored.1 stored.le_largest⟩
  rcases u with s | _ | s | ⟨s, m, e, h⟩
  · rcases v with s' | _ | s' | ⟨s', n, f, h'⟩
    · cases s <;> cases s' <;> simp only [UnpackedFloat.compare, extent, Sign.apply]
      · rw [compare_eq_iff_eq.2 rfl]; rfl
      · rw [compare_lt_iff_lt.2 (by omega)]; rfl
      · rw [compare_gt_iff_gt.2 (by omega)]; rfl
      · rw [compare_eq_iff_eq.2 rfl]; rfl
    · exact absurd rfl number'
    · cases s <;> simp only [UnpackedFloat.compare, extent, Sign.apply]
      · rw [compare_lt_iff_lt.2 (by omega)]
      · rw [compare_gt_iff_gt.2 (by omega)]
    · have := within hv
      cases s <;> cases s' <;> simp only [UnpackedFloat.compare, extent, Sign.apply]
      · rw [compare_lt_iff_lt.2 (by omega)]
      · rw [compare_lt_iff_lt.2 (by omega)]
      · rw [compare_gt_iff_gt.2 (by omega)]
      · rw [compare_gt_iff_gt.2 (by omega)]
  · exact absurd rfl number
  · rcases v with s' | _ | s' | ⟨s', n, f, h'⟩
    · cases s' <;> simp only [UnpackedFloat.compare, extent, Sign.apply]
      · rw [compare_gt_iff_gt.2 (by omega)]
      · rw [compare_lt_iff_lt.2 (by omega)]
    · exact absurd rfl number'
    · simp only [UnpackedFloat.compare, extent]
      rw [compare_eq_iff_eq.2 rfl]
    · have := within hv
      cases s' <;> simp only [UnpackedFloat.compare, extent, Sign.apply]
      · rw [compare_gt_iff_gt.2 (by omega)]
      · rw [compare_lt_iff_lt.2 (by omega)]
  · rcases v with s' | _ | s' | ⟨s', n, f, h'⟩
    · have := within hu
      cases s <;> cases s' <;> simp only [UnpackedFloat.compare, extent, Sign.apply]
      · rw [compare_gt_iff_gt.2 (by omega)]
      · rw [compare_lt_iff_lt.2 (by omega)]
      · rw [compare_gt_iff_gt.2 (by omega)]
      · rw [compare_lt_iff_lt.2 (by omega)]
    · exact absurd rfl number'
    · have := within hu
      cases s <;> simp only [UnpackedFloat.compare, extent, Sign.apply]
      · rw [compare_lt_iff_lt.2 (by omega)]
      · rw [compare_gt_iff_gt.2 (by omega)]
    · exact compare_extent_finite hu.1 hv.1

/-! ## Comparisons of floats -/

/-- The place of a float in the order. -/
def place (x : Float) : Int := extent (parts x)

@[simp] theorem isNaN_nan : nan.isNaN = true := rfl

theorem isNaN_eq_false_iff (x : Float) : x.isNaN = false ↔ parts x ≠ .notANumber := by
  change (parts x).isNaN = false ↔ _
  cases parts x <;> simp [UnpackedFloat.isNaN]

theorem isNaN_eq_true_iff (x : Float) : x.isNaN = true ↔ parts x = .notANumber := by
  rw [← Bool.not_eq_false, isNaN_eq_false_iff, not_not]

theorem compare_parts (x y : Float) :
    (parts x).compare (parts y) =
      if x.isNaN || y.isNaN then none else some (compare (place x) (place y)) := by
  cases hx : x.isNaN with
  | true =>
      rw [(isNaN_eq_true_iff x).1 hx]
      cases parts y <;> rfl
  | false =>
      cases hy : y.isNaN with
      | true =>
          rw [(isNaN_eq_true_iff y).1 hy]
          cases parts x <;> rfl
      | false =>
          exact compare_extent (stored_parts x) (stored_parts y) ((isNaN_eq_false_iff x).1 hx)
            ((isNaN_eq_false_iff y).1 hy)

theorem lt_iff_compare (x y : Float) : x < y ↔ (parts x).compare (parts y) = some .lt := by
  change decide ((UnpackedFloat.lt (parts x) (parts y) : Bool) = true) = true ↔ _
  simp [UnpackedFloat.lt]

theorem le_iff_compare (x y : Float) :
    x ≤ y ↔ ∃ o, (parts x).compare (parts y) = some o ∧ o.isLE = true := by
  change decide ((UnpackedFloat.le (parts x) (parts y) : Bool) = true) = true ↔ _
  simp [UnpackedFloat.le, Option.any_eq_true]

theorem beq_iff_compare (x y : Float) :
    (x == y) = true ↔ (parts x).compare (parts y) = some .eq := by
  change (UnpackedFloat.beq (parts x) (parts y) : Bool) = true ↔ _
  simp [UnpackedFloat.beq]

theorem lt_iff (x y : Float) :
    x < y ↔ x.isNaN = false ∧ y.isNaN = false ∧ place x < place y := by
  rw [lt_iff_compare, compare_parts]
  cases x.isNaN <;> cases y.isNaN <;> simp [compare_lt_iff_lt]

theorem le_iff (x y : Float) :
    x ≤ y ↔ x.isNaN = false ∧ y.isNaN = false ∧ place x ≤ place y := by
  rw [le_iff_compare, compare_parts]
  cases x.isNaN <;> cases y.isNaN <;> simp [Std.isLE_compare]

theorem beq_iff (x y : Float) :
    (x == y) = true ↔ x.isNaN = false ∧ y.isNaN = false ∧ place x = place y := by
  rw [beq_iff_compare, compare_parts]
  cases x.isNaN <;> cases y.isNaN <;> simp

theorem lt_irrefl (x : Float) : ¬ x < x := by
  rw [lt_iff]
  omega

theorem lt_of_lt_of_le {x y z : Float} (lt : x < y) (le : y ≤ z) : x < z := by
  rw [lt_iff] at lt ⊢
  rw [le_iff] at le
  exact ⟨lt.1, le.2.1, by omega⟩

theorem lt_of_le_of_lt {x y z : Float} (le : x ≤ y) (lt : y < z) : x < z := by
  rw [lt_iff] at lt ⊢
  rw [le_iff] at le
  exact ⟨le.1, lt.2.1, by omega⟩

theorem le_trans {x y z : Float} (le : x ≤ y) (le' : y ≤ z) : x ≤ z := by
  rw [le_iff] at le le' ⊢
  exact ⟨le.1, le'.2.1, by omega⟩

theorem le_of_lt {x y : Float} (lt : x < y) : x ≤ y := by
  rw [lt_iff] at lt
  rw [le_iff]
  exact ⟨lt.1, lt.2.1, by omega⟩

theorem le_refl {x : Float} (number : x.isNaN = false) : x ≤ x := by
  rw [le_iff]
  exact ⟨number, number, by omega⟩

theorem not_lt_of_le {x y : Float} (le : x ≤ y) : ¬ y < x := fun lt =>
  lt_irrefl x (lt_of_le_of_lt le lt)

theorem not_lt_iff {x y : Float} (number : x.isNaN = false) (number' : y.isNaN = false) :
    ¬ x < y ↔ y ≤ x := by
  rw [lt_iff, le_iff]
  simp only [number, number', true_and, not_lt]

theorem isNaN_of_isFinite {x : Float} (finite : x.isFinite = true) : x.isNaN = false := by
  change (parts x).isFinite = true at finite
  change (parts x).isNaN = false
  cases same : parts x <;> rw [same] at finite <;> first | rfl | cases finite

theorem le_of_not_le {x y : Float} (finite : x.isFinite = true) (finite' : y.isFinite = true)
    (notLe : ¬ y ≤ x) : x ≤ y := by
  rw [le_iff] at notLe ⊢
  have number := isNaN_of_isFinite finite
  have number' := isNaN_of_isFinite finite'
  refine ⟨number, number', ?_⟩
  by_contra lt
  exact notLe ⟨number', number, by omega⟩

/-- Finite numbers are those before the infinities. -/
theorem isFinite_iff_place {x : Float} (number : x.isNaN = false) :
    x.isFinite = true ↔ (place x).natAbs < beyond := by
  have stored := stored_parts x
  rw [isNaN_eq_false_iff] at number
  change (parts x).isFinite = true ↔ (extent (parts x)).natAbs < beyond
  have far := beyond_pos
  generalize parts x = u at stored number
  rcases u with s | _ | s | ⟨s, m, e, h⟩
  · cases s <;>
      simp only [UnpackedFloat.isFinite, extent, Sign.apply, Bool.false_eq_true, false_iff] <;>
        omega
  · exact absurd rfl number
  · simp only [UnpackedFloat.isFinite, extent, true_iff]
    omega
  · have within := size_lt_beyond stored.1 stored.le_largest
    cases s <;> simp only [UnpackedFloat.isFinite, extent, Sign.apply, true_iff] <;> omega

theorem isInf_eq (x : Float) : x.isInf = (!x.isNaN && !x.isFinite) := by
  change (parts x).isInf = (!(parts x).isNaN && !(parts x).isFinite)
  cases parts x <;> rfl

/-! ## Nearest floats -/

/-- The infinities stand where the next float would. -/
theorem size_next : size (2 ^ 52) 972 = beyond := by
  rw [show (972 : Int) = 971 + (1 : Nat) by norm_num, size_add _ _ (by norm_num)]
  exact congrArg (size · 971) (by norm_num : (2 ^ 52 * 2 ^ 1 : Nat) = 2 ^ 53)

/-- The extent of a number is, up to its sign, the size of a float. -/
theorem exists_size {u : UnpackedFloat} (stored : Stored u) (number : u ≠ .notANumber) :
    ∃ (s : Sign) (n : Nat) (f : Int), Fits n f ∧ size n f ≤ beyond ∧
      extent u = s.apply (size n f) := by
  cases u with
  | notANumber => exact absurd rfl number
  | zero s =>
      have zero : size 0 (-1074) = 0 := Nat.zero_mul _
      refine ⟨s, 0, -1074, ⟨by norm_num, le_rfl, Or.inr rfl⟩, zero.le.trans (Nat.zero_le _), ?_⟩
      rw [zero]
      cases s <;> rfl
  | infinity s =>
      refine ⟨s, 2 ^ 52, 972, ⟨by norm_num, by norm_num, Or.inl le_rfl⟩, size_next.le, ?_⟩
      rw [size_next]
      rfl
  | finite s m e h =>
      exact ⟨s, m, e, stored.1, (size_lt_beyond stored.1 stored.le_largest).le, rfl⟩

/-- What is too large takes the place of the infinities. -/
theorem extent_settle_finite (s : Sign) {m : Nat} {e : Int} (h : 0 < m) (fits : Fits m e) :
    extent (settle (.finite s m e h)) = s.apply (min (size m e) beyond : Nat) := by
  by_cases small : e ≤ 971
  · rw [settle, if_pos small, min_eq_left (size_lt_beyond fits small).le]
    rfl
  · have leading : 2 ^ 52 ≤ m := fits.leading.resolve_right (by omega)
    obtain ⟨k, rfl⟩ : ∃ k : Nat, e = 972 + k := ⟨(e - 972).toNat, by omega⟩
    have large : beyond ≤ size m (972 + k) := by
      rw [← size_next, size_add m k (by norm_num)]
      exact size_le_size 972 (leading.trans (Nat.le_mul_of_pos_right m (Nat.two_pow_pos k)))
    rw [settle, if_neg small, min_eq_right large]
    rfl

/-- A result for an exact extent: a number on the same side of every float. -/
structure Nearest (exact : Int) (u : UnpackedFloat) : Prop where
  canonical : Canonical u
  number : settle u ≠ .notANumber
  above : ∀ {v : UnpackedFloat}, Stored v → v ≠ .notANumber → extent v ≤ exact →
    extent v ≤ extent (settle u)
  below : ∀ {v : UnpackedFloat}, Stored v → v ≠ .notANumber → exact ≤ extent v →
    extent (settle u) ≤ extent v

theorem nearest_self {u : UnpackedFloat} (stored : Stored u) (number : u ≠ .notANumber) :
    Nearest (extent u) u := by
  refine ⟨stored.1, ?_, ?_, ?_⟩
  · rwa [stored.2]
  · intro v _ _ le
    rwa [stored.2]
  · intro v _ _ le
    rwa [stored.2]

theorem nearest_finite (s : Sign) {a n : Nat} {f : Int} (h : 0 < n) (fits : Fits n f)
    (faithful : Faithful a (size n f)) : Nearest (s.apply a) (.finite s n f h) := by
  refine ⟨fits, ?_, ?_, ?_⟩
  · rw [settle]
    split_ifs <;> simp
  · intro v stored number le
    obtain ⟨s', n', f', fits', bounded, same⟩ := exists_size stored number
    have := faithful.above fits'
    have := faithful.below fits'
    rw [extent_settle_finite s h fits]
    rw [same] at le ⊢
    cases s <;> cases s' <;> simp only [Sign.apply] at le ⊢ <;> omega
  · intro v stored number le
    obtain ⟨s', n', f', fits', bounded, same⟩ := exists_size stored number
    have := faithful.above fits'
    have := faithful.below fits'
    rw [extent_settle_finite s h fits]
    rw [same] at le ⊢
    cases s <;> cases s' <;> simp only [Sign.apply] at le ⊢ <;> omega

/-- Rounding a whole number of units, of either sign. -/
theorem normalize_nearest (m : Int) {e : Int} (least : -1074 ≤ e) (s : Sign) :
    Nearest (m * 2 ^ (e + 1074).toNat) (UnpackedFloat.normalize Format.binary64 m e s) := by
  simp only [UnpackedFloat.normalize]
  rcases lt_trichotomy m 0 with neg | rfl | pos
  · obtain ⟨k, rfl⟩ : ∃ k : Nat, m = -k := ⟨(-m).toNat, by omega⟩
    have positive : 0 < k := by omega
    obtain ⟨n, f, h, same, fits, faithful⟩ := round_spec .negative positive least
    have nearest := nearest_finite .negative h fits faithful
    rw [compare_lt_iff_lt.2 neg, neg_neg, Int.toNat_natCast, same]
    simpa [Sign.apply, size] using nearest
  · simpa [extent] using nearest_self (u := .zero s) ⟨trivial, rfl⟩ (by simp)
  · obtain ⟨k, rfl⟩ : ∃ k : Nat, m = k := ⟨m.toNat, by omega⟩
    have positive : 0 < k := by omega
    obtain ⟨n, f, h, same, fits, faithful⟩ := round_spec .positive positive least
    have nearest := nearest_finite .positive h fits faithful
    rw [compare_gt_iff_gt.2 pos, Int.toNat_natCast, same]
    simpa [Sign.apply, size] using nearest

/-! ## Sums -/

/-- The float is neither infinite nor NaN. -/
def Bounded : UnpackedFloat → Prop
  | .finite _ _ _ _ => True
  | .zero _ => True
  | _ => False

theorem apply_add_apply (s s' : Sign) (m n : Nat) {e f : Int} (least : -1074 ≤ e)
    (least' : -1074 ≤ f) :
    (s.apply (m <<< (e - min e f).toNat : Nat) + s'.apply (n <<< (f - min e f).toNat : Nat)) *
        2 ^ (min e f + 1074).toNat = s.apply (size m e) + s'.apply (size n f) := by
  have left : size m e = m <<< (e - min e f).toNat * 2 ^ (min e f + 1074).toNat := by
    rw [Nat.shiftLeft_eq, mul_assoc, ← pow_add, size]
    congr 2
    omega
  have right : size n f = n <<< (f - min e f).toNat * 2 ^ (min e f + 1074).toNat := by
    rw [Nat.shiftLeft_eq, mul_assoc, ← pow_add, size]
    congr 2
    omega
  rw [left, right]
  push_cast
  cases s <;> cases s' <;> simp only [Sign.apply] <;> ring

/-- **A sum is nearest to the exact sum.** -/
theorem add_nearest {u v : UnpackedFloat} (hu : Stored u) (hv : Stored v) (bounded : Bounded u)
    (bounded' : Bounded v) :
    Nearest (extent u + extent v) (UnpackedFloat.add Format.binary64 u v) := by
  rcases u with s | _ | s | ⟨s, m, e, h⟩
  · exact bounded.elim
  · exact bounded.elim
  · rcases v with s' | _ | s' | ⟨s', n, f, h'⟩
    · exact bounded'.elim
    · exact bounded'.elim
    · have zero : ∀ t : Sign, Nearest 0 (.zero t) := fun t =>
        nearest_self (u := .zero t) ⟨trivial, rfl⟩ (by simp)
      simp only [UnpackedFloat.add, extent, add_zero]
      split
      · exact zero s
      · exact zero .positive
    · have same := nearest_self hv (by simp)
      simpa [UnpackedFloat.add, extent] using same
  · rcases v with s' | _ | s' | ⟨s', n, f, h'⟩
    · exact bounded'.elim
    · exact bounded'.elim
    · have same := nearest_self hu (by simp)
      simpa [UnpackedFloat.add, extent] using same
    · have least := hu.1.least
      have least' := hv.1.least
      simp only [UnpackedFloat.add, extent, decreaseExponent]
      rw [← apply_add_apply s s' m n least least']
      exact normalize_nearest _ (by omega) .positive

theorem neg_stored {u : UnpackedFloat} (stored : Stored u) : Stored u.neg := by
  cases u with
  | notANumber => exact stored
  | infinity s => exact ⟨trivial, rfl⟩
  | zero s => exact ⟨trivial, rfl⟩
  | finite s m e h => exact ⟨stored.1, if_pos stored.le_largest⟩

theorem apply_neg (s : Sign) (z : Int) : (-s).apply z = -s.apply z := by
  cases s
  · exact (neg_neg z).symm
  · rfl

theorem extent_neg (u : UnpackedFloat) : extent u.neg = -extent u := by
  cases u with
  | notANumber => rfl
  | zero s => rfl
  | infinity s => exact apply_neg s beyond
  | finite s m e h => exact apply_neg s (size m e)

theorem sub_eq_add (u v : UnpackedFloat) :
    UnpackedFloat.sub Format.binary64 u v = UnpackedFloat.add Format.binary64 u v.neg := by
  rcases u with s | _ | s | ⟨s, m, e, h⟩ <;> rcases v with s' | _ | s' | ⟨s', n, f, h'⟩ <;>
    try rfl
  simp only [UnpackedFloat.sub, UnpackedFloat.add, UnpackedFloat.neg, apply_neg,
    Int.sub_eq_add_neg]

/-- **A difference is nearest to the exact difference.** -/
theorem sub_nearest {u v : UnpackedFloat} (hu : Stored u) (hv : Stored v) (bounded : Bounded u)
    (bounded' : Bounded v) :
    Nearest (extent u - extent v) (UnpackedFloat.sub Format.binary64 u v) := by
  have negated : Bounded v.neg := by cases v <;> exact bounded'
  have sum := add_nearest hu (neg_stored hv) bounded negated
  rwa [extent_neg, ← Int.sub_eq_add_neg, ← sub_eq_add] at sum

/-! ## Sums of floats -/

theorem isFinite_iff (x : Float) : x.isFinite = true ↔ Bounded (parts x) := by
  change (parts x).isFinite = true ↔ _
  cases parts x <;> simp [UnpackedFloat.isFinite, Bounded]

theorem parts_of_pack {x : Float} {u : UnpackedFloat} (canonical : Canonical u)
    (packed : x.toModel = Float.Model.pack u) : parts x = settle u := by
  rw [parts, packed]
  exact unpack_pack canonical

theorem parts_of_nearest {x : Float} {u : UnpackedFloat} {exact : Int}
    (nearest : Nearest exact u) (packed : x.toModel = Float.Model.pack u) :
    parts x = settle u ∧ x.isNaN = false := by
  have same : parts x = settle u := parts_of_pack nearest.canonical packed
  exact ⟨same, (isNaN_eq_false_iff x).2 (same ▸ nearest.number)⟩

/-- A number that is not negative is finite or the larger infinity. -/
theorem bounded_or_infinity {h : Float} (nonneg : 0 ≤ h) :
    Bounded (parts h) ∨ parts h = .infinity .positive := by
  obtain ⟨-, number, le⟩ := (le_iff 0 h).1 nonneg
  rw [isNaN_eq_false_iff] at number
  have zero : place 0 = 0 := rfl
  have far := beyond_pos
  rw [zero, place] at le
  generalize parts h = u at number le ⊢
  rcases u with s | _ | s | ⟨s, m, e, p⟩
  · cases s
    · simp only [extent, Sign.apply] at le
      omega
    · exact Or.inr rfl
  · exact absurd rfl number
  · exact Or.inl trivial
  · exact Or.inl trivial

/-- **Taking a band away does not make a number larger.** -/
theorem sub_le_self {x h : Float} (finite : x.isFinite = true) (nonneg : 0 ≤ h) : x - h ≤ x := by
  have bounded := (isFinite_iff x).1 finite
  have number := isNaN_of_isFinite finite
  have le : 0 ≤ place h := ((le_iff 0 h).1 nonneg).2.2
  rw [le_iff]
  rcases bounded_or_infinity nonneg with small | infinite
  · have nearest := sub_nearest (stored_parts x) (stored_parts h) bounded small
    obtain ⟨same, number'⟩ := parts_of_nearest (x := x - h) nearest rfl
    refine ⟨number', number, ?_⟩
    rw [place, same]
    refine nearest.below (stored_parts x) ((isNaN_eq_false_iff x).1 number) ?_
    exact Int.sub_le_self _ le
  · have same : parts (x - h) = .infinity .negative := by
      have difference : UnpackedFloat.sub Format.binary64 (parts x) (parts h) =
          .infinity .negative := by
        rw [infinite]
        generalize parts x = u at bounded ⊢
        cases u <;> first | rfl | exact bounded.elim
      exact parts_of_pack (u := .infinity .negative) trivial
        (congrArg Float.Model.pack difference)
    refine ⟨(isNaN_eq_false_iff _).2 (by rw [same]; simp), number, ?_⟩
    obtain ⟨s, n, f, -, within, extent_eq⟩ :=
      exists_size (stored_parts x) ((isNaN_eq_false_iff x).1 number)
    rw [place, place, same, extent_eq]
    cases s <;> simp only [extent, Sign.apply] <;> omega

/-- **Adding a band does not make a number smaller.** -/
theorem le_add_self {x h : Float} (finite : x.isFinite = true) (nonneg : 0 ≤ h) : x ≤ x + h := by
  have bounded := (isFinite_iff x).1 finite
  have number := isNaN_of_isFinite finite
  have le : 0 ≤ place h := ((le_iff 0 h).1 nonneg).2.2
  rw [le_iff]
  rcases bounded_or_infinity nonneg with small | infinite
  · have nearest := add_nearest (stored_parts x) (stored_parts h) bounded small
    obtain ⟨same, number'⟩ := parts_of_nearest (x := x + h) nearest rfl
    refine ⟨number, number', ?_⟩
    rw [place, place, same]
    refine nearest.above (stored_parts x) ((isNaN_eq_false_iff x).1 number) ?_
    exact Int.le_add_of_nonneg_right le
  · have same : parts (x + h) = .infinity .positive := by
      have sum : UnpackedFloat.add Format.binary64 (parts x) (parts h) =
          .infinity .positive := by
        rw [infinite]
        generalize parts x = u at bounded ⊢
        cases u <;> first | rfl | exact bounded.elim
      exact parts_of_pack (u := .infinity .positive) trivial (congrArg Float.Model.pack sum)
    refine ⟨number, (isNaN_eq_false_iff _).2 (by rw [same]; simp), ?_⟩
    obtain ⟨s, n, f, -, within, extent_eq⟩ :=
      exists_size (stored_parts x) ((isNaN_eq_false_iff x).1 number)
    rw [place, place, same, extent_eq]
    cases s <;> simp only [extent, Sign.apply] <;> omega

/-- The difference of two finite numbers in order is not negative. -/
theorem sub_nonneg {x y : Float} (finite : x.isFinite = true) (finite' : y.isFinite = true)
    (le : y ≤ x) : 0 ≤ x - y := by
  have nearest := sub_nearest (stored_parts x) (stored_parts y) ((isFinite_iff x).1 finite)
    ((isFinite_iff y).1 finite')
  obtain ⟨same, number⟩ := parts_of_nearest (x := x - y) nearest rfl
  have zero : parts 0 = .zero .positive := rfl
  have ordered := ((le_iff y x).1 le).2.2
  rw [le_iff]
  refine ⟨rfl, number, ?_⟩
  rw [place, place, same, zero]
  refine nearest.above ⟨trivial, rfl⟩ (by simp) ?_
  exact Int.sub_nonneg_of_le ordered

/-! ## Products -/

/-- A share of a number that is not negative is not negative. -/
theorem mul_nonneg {x y : Float} {m : Nat} {e : Int} {p : 0 < m} (nonneg : 0 ≤ x)
    (share : parts y = .finite .positive m e p) (normal : 2 ^ 52 ≤ m) : 0 ≤ x * y := by
  obtain ⟨-, number, le⟩ := (le_iff 0 x).1 nonneg
  have zero : place 0 = 0 := rfl
  have far := beyond_pos
  -- a product that is zero or positive, whatever its size
  have enough : ∀ u : UnpackedFloat, UnpackedFloat.mul Format.binary64 (parts x) (parts y) = u →
      Canonical u → settle u ≠ .notANumber → 0 ≤ extent (settle u) → 0 ≤ x * y := by
    intro u product canonical number' nonneg'
    have same : parts (x * y) = settle u :=
      parts_of_pack canonical (congrArg Float.Model.pack product)
    rw [le_iff, zero, place, same]
    exact ⟨rfl, (isNaN_eq_false_iff _).2 (same ▸ number'), nonneg'⟩
  rw [isNaN_eq_false_iff] at number
  rw [zero, place] at le
  rw [share] at enough
  generalize parts x = u at number le enough
  rcases u with s | _ | s | ⟨s, n, f, q⟩
  · cases s
    · simp only [extent, Sign.apply] at le
      omega
    · exact enough (.infinity .positive) rfl trivial (by simp [settle]) (Int.natCast_nonneg _)
  · exact absurd rfl number
  · exact enough (.zero (s * .positive)) rfl trivial (by simp [settle]) le_rfl
  · have positive : 0 < n * m := Nat.mul_pos q p
    have size := size_pos f q
    cases s
    · simp only [extent, Sign.apply] at le
      omega
    · have long : 52 ≤ (n * m).log2 :=
        (Nat.le_log2 positive.ne').2 (normal.trans (Nat.le_mul_of_pos_left m q))
      have below : f + e ≤ Format.binary64.targetExponent (totalExponent (n * m) (f + e)) := by
        rw [targetExponent_binary64]
        simp only [totalExponent]
        omega
      rcases roundWithAccuracy_fits .positive .exact below with gone | ⟨k, g, r, kept, fits, -⟩
      · exact enough _ gone trivial (by simp [settle]) le_rfl
      · refine enough _ kept fits ?_ ?_
        · rw [settle]
          split_ifs <;> simp
        · rw [extent_settle_finite .positive r fits]
          exact Int.natCast_nonneg _

/-! ## Distances -/

theorem abs_stored {u : UnpackedFloat} (stored : Stored u) : Stored u.abs := by
  cases u with
  | notANumber => exact stored
  | infinity s => exact ⟨trivial, rfl⟩
  | zero s => exact ⟨trivial, rfl⟩
  | finite s m e h => exact ⟨stored.1, if_pos stored.le_largest⟩

theorem extent_abs (u : UnpackedFloat) : extent u.abs = (extent u).natAbs := by
  have apply_abs : ∀ (s : Sign) (n : Nat), (n : Int) = (s.apply n).natAbs := by
    intro s n
    cases s <;> simp [Sign.apply]
  cases u with
  | notANumber => rfl
  | zero s => rfl
  | infinity s => exact apply_abs s beyond
  | finite s m e h => exact apply_abs s (size m e)

theorem parts_abs (x : Float) : parts x.abs = (parts x).abs := by
  have stored := abs_stored (stored_parts x)
  rw [parts_of_pack (x := x.abs) stored.1 rfl, stored.2]

theorem isNaN_abs (x : Float) : x.abs.isNaN = x.isNaN := by
  change (parts x.abs).isNaN = (parts x).isNaN
  rw [parts_abs]
  cases parts x <;> rfl

section Same

variable {x y : Float}

/-- Finite numbers at one place are a distance of zero apart, of either sign. -/
theorem place_sub_of_place_eq (finite : x.isFinite = true) (finite' : y.isFinite = true)
    (same : place x = place y) : place (x - y) = 0 := by
  have nearest := sub_nearest (stored_parts x) (stored_parts y) ((isFinite_iff x).1 finite)
    ((isFinite_iff y).1 finite')
  change Nearest (place x - place y) _ at nearest
  rw [same, Int.sub_self] at nearest
  have zero : Stored (.zero .positive) := ⟨trivial, rfl⟩
  rw [place, (parts_of_nearest (x := x - y) nearest rfl).1]
  exact le_antisymm (nearest.below zero (by simp) le_rfl) (nearest.above zero (by simp) le_rfl)

theorem parts_of_infinite (number : x.isNaN = false) (infinite : x.isFinite = false) :
    ∃ s, parts x = .infinity s := by
  rw [isNaN_eq_false_iff] at number
  change (parts x).isFinite = false at infinite
  cases same : parts x with
  | notANumber => exact absurd same number
  | infinity s => exact ⟨s, rfl⟩
  | zero s | finite s m e h =>
      rw [same] at infinite
      cases infinite

/-- Beyond the finite numbers there is one float at each place. -/
theorem parts_of_place_eq (infinite : x.isFinite = false) (number : x.isNaN = y.isNaN)
    (same : place x = place y) : parts x = parts y := by
  cases known : x.isNaN with
  | true => rw [(isNaN_eq_true_iff x).1 known, (isNaN_eq_true_iff y).1 (number ▸ known)]
  | false =>
      have infinite' : y.isFinite = false := by
        rw [← Bool.not_eq_true, isFinite_iff_place known, same] at infinite
        rwa [← Bool.not_eq_true, isFinite_iff_place (number ▸ known)]
      obtain ⟨s, here⟩ := parts_of_infinite known infinite
      obtain ⟨s', there⟩ := parts_of_infinite (number ▸ known) infinite'
      have far := beyond_pos
      rw [place, place, here, there] at same
      rw [here, there]
      cases s <;> cases s' <;> simp only [extent, Sign.apply] at same <;> first | rfl | omega

/-- What is not finite has no distance to itself. -/
theorem isNaN_sub_of_place_eq (infinite : x.isFinite = false) (number : x.isNaN = y.isNaN)
    (same : place x = place y) : (x - y).isNaN = true := by
  have difference : UnpackedFloat.sub Format.binary64 (parts x) (parts y) = .notANumber := by
    rw [← parts_of_place_eq infinite number same]
    cases known : x.isNaN with
    | true =>
        rw [(isNaN_eq_true_iff x).1 known]
        rfl
    | false =>
        obtain ⟨s, here⟩ := parts_of_infinite known infinite
        rw [here]
        cases s <;> rfl
  rw [isNaN_eq_true_iff]
  exact parts_of_pack (u := .notANumber) trivial (congrArg Float.Model.pack difference)

/-- **No band is so narrow that it tells apart what is the same value.** -/
theorem not_lt_abs_sub {band : Float} (nonneg : 0 ≤ band) (number : x.isNaN = y.isNaN)
    (same : place x = place y) : ¬ band < (x - y).abs := by
  intro lt
  obtain ⟨-, known, further⟩ := (lt_iff _ _).1 lt
  have start : 0 ≤ place band := ((le_iff 0 band).1 nonneg).2.2
  rw [isNaN_abs] at known
  rw [place.eq_1 (x - y).abs, parts_abs, extent_abs] at further
  cases finite : x.isFinite with
  | true =>
      have finite' : y.isFinite = true := by
        have here := isNaN_of_isFinite finite
        rw [isFinite_iff_place here] at finite
        rwa [isFinite_iff_place (number ▸ here), ← same]
      have zero : extent (parts (x - y)) = 0 := place_sub_of_place_eq finite finite' same
      rw [zero] at further
      omega
  | false =>
      rw [isNaN_sub_of_place_eq finite number same] at known
      cases known

end Same

end SensorMonitor.Number
