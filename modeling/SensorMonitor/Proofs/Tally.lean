/-
# Proofs.Tally -- statistics in closed form

A tally goes through the readings once and keeps six numbers.  Each is a function of the list
of all readings (`Summarizes`): how many are numbers and how many are not, how long the longest
end of the list is that has only the ones or only the others, and the least and the greatest
of the numbers.
-/
import Mathlib.Data.List.DropRight
import Mathlib.Order.Bounds.Defs
import SensorMonitor.Proofs.Number.Order
import SensorMonitor.Tally

namespace SensorMonitor

set_option autoImplicit false

/-! ## Ends of a list -/

/-- How long the ends of a list are that have members of one kind only. -/
def endLengths {α : Type} (p : α → Bool) (xs : List α) : Set Nat :=
  {n | ∃ ys, ys <:+ xs ∧ (∀ y ∈ ys, p y = true) ∧ ys.length = n}

/-- The longest end of one kind is found from the right. -/
theorem isGreatest_length_rtakeWhile {α : Type} (p : α → Bool) (xs : List α) :
    IsGreatest (endLengths p xs) (xs.rtakeWhile p).length := by
  refine ⟨⟨_, List.rtakeWhile_suffix p xs, fun y => List.mem_rtakeWhile_imp, rfl⟩, ?_⟩
  rintro n ⟨ys, ⟨before, rfl⟩, kind, rfl⟩
  have all : ∀ y ∈ ys.reverse, p y = true := fun y member => kind y (List.mem_reverse.1 member)
  rw [List.rtakeWhile, List.length_reverse, List.reverse_append,
    List.takeWhile_append_of_pos all, List.length_append, List.length_reverse]
  omega

/-! ## Extremes -/

/-- The readings that are numbers, infinities apart. -/
def finites (xs : List Float) : Set Float := {x | x ∈ xs ∧ x.isFinite = true}

section Extremes

variable {xs : List Float} {x m : Float}

theorem mem_finites_concat (y : Float) :
    y ∈ finites (xs ++ [x]) ↔ y ∈ finites xs ∨ y = x ∧ x.isFinite = true := by
  show y ∈ xs ++ [x] ∧ y.isFinite = true ↔ (y ∈ xs ∧ y.isFinite = true) ∨ _
  rw [List.mem_append, List.mem_singleton]
  constructor
  · rintro ⟨member | rfl, finite⟩
    · exact .inl ⟨member, finite⟩
    · exact .inr ⟨rfl, finite⟩
  · rintro (⟨member, finite⟩ | ⟨rfl, finite⟩)
    · exact ⟨.inl member, finite⟩
    · exact ⟨.inr rfl, finite⟩

/-- What holds of the numbers before and of the last reading holds of all numbers. -/
theorem forall_finites_concat {P : Float → Prop} (earlier : ∀ y ∈ finites xs, P y) (last : P x) :
    ∀ y ∈ finites (xs ++ [x]), P y := by
  intro y member
  obtain before | ⟨rfl, -⟩ := (mem_finites_concat y).1 member
  · exact earlier y before
  · exact last

/-- A reading that is no number leaves the numbers as they are. -/
theorem finites_concat_of_missed (missed : x.isFinite = false) :
    finites (xs ++ [x]) = finites xs := by
  ext y
  rw [mem_finites_concat, missed]
  simp

theorem isLeast_finites_concat (finite : x.isFinite = true) (least : IsLeast (finites xs) m) :
    IsLeast (finites (xs ++ [x])) (if x < m then x else m) := by
  have number := Number.isNaN_of_isFinite finite
  have number' := Number.isNaN_of_isFinite least.1.2
  split
  · next lower =>
      refine ⟨(mem_finites_concat x).2 (.inr ⟨rfl, finite⟩), forall_finites_concat ?_ ?_⟩
      · intro y earlier
        exact Number.le_trans (Number.le_of_lt lower) (least.2 earlier)
      · exact Number.le_refl number
  · next notLower =>
      have last := (Number.not_lt_iff number number').1 notLower
      exact ⟨(mem_finites_concat m).2 (.inl least.1),
        forall_finites_concat (fun _ earlier => least.2 earlier) last⟩

theorem isGreatest_finites_concat (finite : x.isFinite = true)
    (greatest : IsGreatest (finites xs) m) :
    IsGreatest (finites (xs ++ [x])) (if m < x then x else m) := by
  have number := Number.isNaN_of_isFinite finite
  have number' := Number.isNaN_of_isFinite greatest.1.2
  split
  · next higher =>
      refine ⟨(mem_finites_concat x).2 (.inr ⟨rfl, finite⟩), forall_finites_concat ?_ ?_⟩
      · intro y earlier
        exact Number.le_trans (greatest.2 earlier) (Number.le_of_lt higher)
      · exact Number.le_refl number
  · next notHigher =>
      have last := (Number.not_lt_iff number' number).1 notHigher
      exact ⟨(mem_finites_concat m).2 (.inl greatest.1),
        forall_finites_concat (fun _ earlier => greatest.2 earlier) last⟩

/-- The first number is both extremes. -/
theorem finites_concat_of_first (finite : x.isFinite = true) (unseen : finites xs = ∅) :
    IsLeast (finites (xs ++ [x])) x ∧ IsGreatest (finites (xs ++ [x])) x := by
  have itself := Number.le_refl (Number.isNaN_of_isFinite finite)
  have here : x ∈ finites (xs ++ [x]) := (mem_finites_concat x).2 (.inr ⟨rfl, finite⟩)
  have nothing : ∀ {P : Float → Prop}, ∀ y ∈ finites xs, P y := by
    intro P y earlier
    rw [unseen] at earlier
    cases earlier
  exact ⟨⟨here, forall_finites_concat nothing itself⟩,
    here, forall_finites_concat nothing itself⟩

end Extremes

namespace Tally

/-! ## All readings -/

/-- The statistics of readings in their order. -/
def ofReadings (xs : List Float) : Tally := xs.foldl record empty

theorem ofReadings_concat (xs : List Float) (x : Float) :
    ofReadings (xs ++ [x]) = (ofReadings xs).record x := List.foldl_concat ..

theorem record_of_number (t : Tally) {x : Float} (finite : x.isFinite = true) :
    t.record x = t.recordGood x := if_pos finite

theorem record_of_missed (t : Tally) {x : Float} (missed : x.isFinite = false) :
    t.record x = t.recordMissed := if_neg (by rw [missed]; decide)

/-- What the statistics say of all readings. -/
structure Summarizes (t : Tally) (xs : List Float) : Prop where
  good : t.good = xs.countP (·.isFinite)
  missed : t.missed = xs.countP (!·.isFinite)
  /-- The longest end of the list with numbers only, and the longest with none. -/
  goodStreak : IsGreatest (endLengths (·.isFinite) xs) t.goodStreak
  missedStreak : IsGreatest (endLengths (!·.isFinite) xs) t.missedStreak
  oneStreak : t.goodStreak = 0 ∨ t.missedStreak = 0
  /-- Once there was a number, the extremes are the least and the greatest of them. -/
  extremes : (finites xs).Nonempty →
    IsLeast (finites xs) t.lowest ∧ IsGreatest (finites xs) t.highest

theorem counts_ofReadings (xs : List Float) :
    (ofReadings xs).good = xs.countP (·.isFinite) ∧
      (ofReadings xs).missed = xs.countP (!·.isFinite) := by
  induction xs using List.reverseRecOn with
  | nil => exact ⟨rfl, rfl⟩
  | append_singleton xs x ih =>
      obtain ⟨good, missed⟩ := ih
      rw [ofReadings_concat, List.countP_append, List.countP_append, ← good, ← missed]
      cases finite : x.isFinite with
      | true => rw [record_of_number _ finite]; simp [recordGood, finite]
      | false => rw [record_of_missed _ finite]; simp [recordMissed, finite]

theorem streaks_ofReadings (xs : List Float) :
    (ofReadings xs).goodStreak = (xs.rtakeWhile (·.isFinite)).length ∧
      (ofReadings xs).missedStreak = (xs.rtakeWhile (!·.isFinite)).length := by
  induction xs using List.reverseRecOn with
  | nil => exact ⟨rfl, rfl⟩
  | append_singleton xs x ih =>
      obtain ⟨good, missed⟩ := ih
      rw [ofReadings_concat, List.rtakeWhile_concat, List.rtakeWhile_concat]
      cases finite : x.isFinite with
      | true => rw [record_of_number _ finite]; simp [recordGood, good]
      | false => rw [record_of_missed _ finite]; simp [recordMissed, missed]

/-- The last reading ends the streak of the other kind. -/
theorem oneStreak_record (t : Tally) (x : Float) :
    (t.record x).goodStreak = 0 ∨ (t.record x).missedStreak = 0 := by
  cases finite : x.isFinite with
  | true => rw [record_of_number t finite]; exact .inr rfl
  | false => rw [record_of_missed t finite]; exact .inl rfl

/-- No number was counted exactly if there was none. -/
theorem good_ofReadings_eq_zero_iff (xs : List Float) :
    (ofReadings xs).good = 0 ↔ finites xs = ∅ := by
  rw [(counts_ofReadings xs).1, List.countP_eq_zero, Set.eq_empty_iff_forall_notMem]
  show (∀ x ∈ xs, _) ↔ ∀ x, ¬ (x ∈ xs ∧ x.isFinite = true)
  simp only [not_and]

theorem extremes_ofReadings (xs : List Float) (seen : (finites xs).Nonempty) :
    IsLeast (finites xs) (ofReadings xs).lowest ∧
      IsGreatest (finites xs) (ofReadings xs).highest := by
  induction xs using List.reverseRecOn with
  | nil =>
      obtain ⟨x, member, -⟩ := seen
      cases member
  | append_singleton xs x ih =>
      rw [ofReadings_concat]
      cases finite : x.isFinite with
      | false =>
          rw [finites_concat_of_missed finite] at seen ⊢
          rw [record_of_missed _ finite]
          exact ih seen
      | true =>
          rw [record_of_number _ finite]
          unfold recordGood
          by_cases first : (ofReadings xs).good = 0
          · have unseen := (good_ofReadings_eq_zero_iff xs).1 first
            simp only [if_pos first, ite_self]
            exact finites_concat_of_first finite unseen
          · have earlier : (finites xs).Nonempty := by
              rw [Set.nonempty_iff_ne_empty]
              exact mt (good_ofReadings_eq_zero_iff xs).2 first
            simp only [if_neg first]
            exact ⟨isLeast_finites_concat finite (ih earlier).1,
              isGreatest_finites_concat finite (ih earlier).2⟩

/-- **The statistics are functions of the list of all readings.** -/
theorem summarizes_ofReadings (xs : List Float) : (ofReadings xs).Summarizes xs where
  good := (counts_ofReadings xs).1
  missed := (counts_ofReadings xs).2
  goodStreak := by
    rw [(streaks_ofReadings xs).1]
    exact isGreatest_length_rtakeWhile _ xs
  missedStreak := by
    rw [(streaks_ofReadings xs).2]
    exact isGreatest_length_rtakeWhile _ xs
  oneStreak := by
    induction xs using List.reverseRecOn with
    | nil => exact .inl rfl
    | append_singleton xs x _ =>
        rw [ofReadings_concat]
        exact oneStreak_record _ x
  extremes := extremes_ofReadings xs

end Tally

end SensorMonitor
