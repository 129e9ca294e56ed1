/-
# Proofs.Json.Numerals -- the numbers that are written

A numeral is legible when a reader that takes digits off the front of a text takes it as it
is: there is a digit before the point, a zero at the front stands alone, and there is nothing
but digits on both sides.  The numeral of a natural is legible and has its value
(`toNat?_nat`), and so is that of every finite float (`legible_ofFloat?`), because the
shortest digits of a float begin with a digit that is not zero (`wellFormed_shortest`).
-/
import Mathlib.Data.List.Basic
import Mathlib.Data.List.TakeDrop
import SensorMonitor.Json.Numeral

namespace SensorMonitor

set_option autoImplicit false

/-! ## Words of digits -/

/-- Nothing but digits. -/
def IsWord (word : List Char) : Prop := ∀ c ∈ word, c.isDigit = true

namespace IsWord

variable {word word' : List Char}

theorem nil : IsWord [] := List.forall_mem_nil _

theorem singleton {c : Char} (digit : c.isDigit = true) : IsWord [c] := by
  simpa [IsWord] using digit

theorem append (first : IsWord word) (second : IsWord word') : IsWord (word ++ word') := by
  intro c member
  rcases List.mem_append.1 member with early | late
  · exact first c early
  · exact second c late

theorem of_subset (all : IsWord word') (subset : word ⊆ word') : IsWord word :=
  fun c member => all c (subset member)

theorem replicate (n : Nat) : IsWord (List.replicate n '0') := by
  intro c member
  rw [List.eq_of_mem_replicate member]
  rfl

theorem toDigits (n : Nat) : IsWord (Nat.toDigits 10 n) :=
  fun _ => Nat.isDigit_of_mem_toDigits (by decide) (by decide)

end IsWord

/-- A word is taken off the front of a text that does not go on with more of it. -/
theorem span_of_stops {p : Char → Bool} {word rest : List Char} (all : ∀ c ∈ word, p c = true)
    (stops : ∀ c ∈ rest.head?, p c = false) : (word ++ rest).span p = (word, rest) := by
  rw [List.span_eq_takeWhile_dropWhile, List.takeWhile_append_of_pos all,
    List.dropWhile_append_of_pos all]
  cases rest with
  | nil => simp
  | cons c rest =>
      have stop : p c = false := stops c rfl
      simp [stop]

/-- The digits of a positive number do not begin with a zero. -/
theorem head?_toDigits_ne {n : Nat} (pos : 0 < n) : (Nat.toDigits 10 n).head? ≠ some '0' := by
  have digit : ∀ n < 10, 0 < n → [n.digitChar].head? ≠ some '0' := by decide
  induction n using Nat.strongRecOn with
  | _ n ih =>
      by_cases small : n < 10
      · rw [Nat.toDigits_of_lt_base small]
        exact digit n small pos
      · have front := ih (n / 10) (by omega) (by omega)
        rw [Nat.toDigits_of_base_le (by decide) (by omega)]
        rwa [List.head?_append_of_ne_nil _ Nat.toDigits_ne_nil]

theorem Number.digitsValue_toDigits (n : Nat) : digitsValue (Nat.toDigits 10 n) = n := by
  have read := Nat.ofDigitChars_toDigits (b := 10) (n := n) (by decide) (by decide)
  rwa [Nat.ofDigitChars_eq_foldl] at read

/-! ## Legible numerals -/

namespace Json.Numeral

/-- A reader takes the numeral as it is written. -/
structure Legible (n : Numeral) : Prop where
  some_ : n.whole ≠ []
  whole : IsWord n.whole
  leading : n.whole.head? = some '0' → n.whole = ['0']
  fraction : IsWord n.fraction

end Json.Numeral

namespace Json

open Number

theorem legible_nat (n : Nat) : Numeral.Legible ⟨false, Nat.toDigits 10 n, [], none⟩ := by
  refine ⟨Nat.toDigits_ne_nil, .toDigits n, fun zero => ?_, .nil⟩
  rcases Nat.eq_zero_or_pos n with rfl | pos
  · rfl
  · exact absurd zero (head?_toDigits_ne pos)

theorem toNat?_nat {n : Nat} (fits : n ≤ largestSignificand) :
    Numeral.toNat? ⟨false, Nat.toDigits 10 n, [], none⟩ = some n := by
  unfold Numeral.toNat?
  simp only [Number.digitsValue_toDigits]
  simp [Numeral.isInteger, fits]

end Json

/-! ## The digits of a float -/

namespace Number

/-- Digits of which the first is not zero. -/
structure Digits.WellFormed (d : Digits) : Prop where
  some_ : d.digits ≠ []
  word : IsWord d.digits
  leading : d.digits.head? ≠ some '0'

/-- Zeros taken off the end leave a front that is none. -/
theorem head?_trimmed {word : List Char} (leading : word.head? ≠ some '0') (some_ : word ≠ []) :
    (word.reverse.dropWhile (· = '0')).reverse.head? = word.head? := by
  cases word with
  | nil => exact absurd rfl some_
  | cons c rest =>
      have front : c ≠ '0' := fun zero => leading (congrArg some zero)
      rw [List.reverse_cons, List.dropWhile_append]
      split
      · simp [front]
      · simp

namespace Rounding

/-- Zero does not round to a magnitude that is none. -/
theorem pos_of_contains {m : Magnitude} (nonzero : m.significand ≠ 0) {n : Nat} {grid : Int}
    (inside : (Rounding.of m).contains (.scaled n 10 grid) = true) : 0 < n := by
  by_contra none_
  obtain rfl : n = 0 := by omega
  have low : 0 < (Rounding.of m).low.num := by
    show 0 < (Ratio.scaled _ 2 _).num
    unfold Ratio.scaled
    split
    · exact Nat.mul_pos (by split <;> omega) (Nat.pow_pos (by decide))
    · show 0 < 4 * m.significand - _
      split <;> omega
  have zero : (Ratio.scaled 0 10 grid).num = 0 := by
    unfold Ratio.scaled
    split <;> simp
  have den : 0 < (Ratio.scaled 0 10 grid).den := by
    unfold Ratio.scaled
    split
    · exact Nat.one_pos
    · exact Nat.pow_pos (by decide)
  have above := Nat.mul_pos low den
  unfold contains Ratio.le Ratio.lt at inside
  rw [zero] at inside
  split at inside
  · simp at inside
    omega
  · simp at inside

theorem pos_of_onGrid? {m : Magnitude} (nonzero : m.significand ≠ 0) {tie : Tie} {grid : Int}
    {n : Nat} (found : (Rounding.of m).onGrid? tie grid = some n) : 0 < n := by
  unfold onGrid? at found
  generalize (Rounding.of m).value.floorDiv (Ratio.scaled 1 10 grid) = below at found
  dsimp only at found
  cases inside : (Rounding.of m).contains (Ratio.scaled below 10 grid) with
  | true =>
      have pos := pos_of_contains nonzero inside
      cases next : (Rounding.of m).contains (Ratio.scaled (below + 1) 10 grid) with
      | true =>
          rw [inside, next] at found
          dsimp only at found
          have choice : below ≤ tie.choose below := by
            unfold Tie.choose
            split <;> omega
          split at found
          · cases found
            exact pos
          · split at found
            · cases found
              omega
            · cases found
              omega
      | false =>
          rw [inside, next] at found
          cases found
          exact pos
  | false =>
      cases next : (Rounding.of m).contains (Ratio.scaled (below + 1) 10 grid) with
      | true =>
          rw [inside, next] at found
          cases found
          omega
      | false =>
          rw [inside, next] at found
          cases found

end Rounding

/-- **The shortest digits of a float that is not zero begin with one that is not.** -/
theorem wellFormed_shortest (tie : Tie) {m : Magnitude} (nonzero : m.significand ≠ 0) :
    (shortest tie m).WellFormed := by
  unfold shortest
  dsimp only
  generalize found : List.findSome? _ (List.range 17) = found?
  have pos : 0 < (found?.getD (m.significand, 0)).1 := by
    cases found? with
    | none => exact Nat.pos_of_ne_zero nonzero
    | some pair =>
        obtain ⟨count, -, here⟩ := List.exists_of_findSome?_eq_some found
        obtain ⟨n, grid, rfl⟩ := Option.map_eq_some_iff.1 here
        exact Rounding.pos_of_onGrid? nonzero grid
  generalize (found?.getD (m.significand, 0)) = pair at pos
  have leading := head?_toDigits_ne pos
  have front := head?_trimmed leading Nat.toDigits_ne_nil
  refine ⟨fun empty => ?_, ?_, front ▸ leading⟩
  · dsimp only at empty
    rw [empty] at front
    exact Nat.toDigits_ne_nil (List.head?_eq_none_iff.1 front.symm)
  · refine (IsWord.toDigits pair.1).of_subset fun c member => ?_
    have dropped := List.mem_reverse.1 member
    exact List.mem_reverse.1 ((List.dropWhile_sublist _).subset dropped)

end Number

/-! ## The numeral of a float -/

namespace Json.Numeral

open Number

/-- A zero before the point stands alone. -/
theorem legible_small (negative : Bool) {fraction : List Char} (word : IsWord fraction) :
    Legible ⟨negative, ['0'], fraction, none⟩ :=
  ⟨by simp, .singleton rfl, fun _ => rfl, word⟩

theorem legible_zero (negative : Bool) : Legible ⟨negative, ['0'], ['0'], none⟩ :=
  legible_small negative (.singleton rfl)

/-- The first digits before the point, with zeros behind them. -/
theorem legible_large (negative : Bool) {d : Digits} (wf : d.WellFormed) {places : Nat}
    (pos : 0 < places) (zeros : Nat) {fraction : List Char} (word : IsWord fraction)
    (exponent : Option Int) : Legible
      ⟨negative, d.digits.take places ++ List.replicate zeros '0', fraction, exponent⟩ := by
  have some_ : d.digits.take places ≠ [] := by
    simp [wf.some_]
    omega
  have front : (d.digits.take places ++ List.replicate zeros '0').head? = d.digits.head? := by
    rw [List.head?_append_of_ne_nil _ some_, List.head?_take]
    simp
    omega
  refine ⟨by simp [some_], ?_, fun zero => ?_, word⟩
  · exact (wf.word.of_subset (List.take_subset ..)).append (.replicate zeros)
  · exact absurd (front.symm.trans zero) wf.leading

theorem legible_ofDigits (negative : Bool) {d : Digits} (wf : d.WellFormed) :
    (ofDigits negative d).Legible := by
  have behind : ∀ places, IsWord (d.digits.drop places) :=
    fun places => wf.word.of_subset (List.drop_subset ..)
  unfold ofDigits Digits.parts
  by_cases near : -4 ≤ d.point ∧ d.point ≤ 16
  · rw [if_pos near]
    by_cases below : d.point ≤ 0
    · rw [if_pos below]
      have word := (IsWord.replicate (-d.point).toNat).append wf.word
      generalize List.replicate (-d.point).toNat '0' ++ d.digits = fraction at word
      cases fraction with
      | nil => exact legible_zero negative
      | cons c rest => exact legible_small negative word
    · rw [if_neg below]
      have pos : 0 < d.point.toNat := by omega
      have word := behind d.point.toNat
      dsimp only
      generalize d.digits.drop d.point.toNat = fraction at word
      cases fraction with
      | nil => exact legible_large negative wf pos _ (.singleton rfl) none
      | cons c rest => exact legible_large negative wf pos _ word none
  · rw [if_neg near]
    have large := legible_large negative wf Nat.one_pos 0 (behind 1) (some (d.point - 1))
    rwa [List.replicate_zero, List.append_nil] at large

/-- **The numeral of a float is legible.** -/
theorem legible_ofFloat? {x : Float} {n : Numeral} (written : ofFloat? x = some n) :
    n.Legible := by
  unfold ofFloat? at written
  obtain ⟨m, -, rfl⟩ := Option.map_eq_some_iff.1 written
  split
  · exact legible_zero (isNegative x)
  · next nonzero => exact legible_ofDigits _ (wellFormed_shortest .toEven nonzero)

end Json.Numeral

end SensorMonitor
