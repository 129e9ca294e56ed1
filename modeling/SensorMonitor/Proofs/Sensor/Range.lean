/-
# Proofs.Sensor.Range -- when moved bounds are still a range

A sensor starts with finite bounds in order, and only a request moves them
(`Sensor.perform_bounds`).  If every request asks for finite bounds in order, the bounds stay
finite, and each is within the publish band of what was asked for last.  But each bound passes
the publish filter alone, so that one may move and the other stay behind.  Where the one that
moves ends at or beyond the one that stays (`Sensor.Op.overtakes`), and nowhere else, the
bounds are no range any more (`Installation.bounds_ascend_iff`).
-/
import SensorMonitor.Proofs.Sensor.Laws
import SensorMonitor.Proofs.Sensor.Staleness
import SensorMonitor.Proofs.Sensor.Suppression

namespace SensorMonitor

set_option autoImplicit false

/-! ## Bounds that pass the check -/

theorem Definition.checkBounds_eq_ok_iff (min max : Float) : checkBounds min max = .ok () ↔
    min.isFinite = true ∧ max.isFinite = true ∧ min < max := by
  simp only [checkBounds]
  by_cases finite : min.isFinite = true ∧ max.isFinite = true
  · obtain ⟨low, high⟩ := finite
    have order := Number.not_lt_iff (Number.isNaN_of_isFinite low) (Number.isNaN_of_isFinite high)
    rw [low, high]
    by_cases ascending : min < max
    · simp [ascending, order.not.1 (not_not.2 ascending)]
    · simp [ascending, order.1 ascending]
  · rw [if_pos (by simpa [← Bool.not_eq_true, imp_iff_not_or] using finite)]
    constructor
    · intro ok
      cases ok
    · rintro ⟨low, high, -⟩
      exact absurd ⟨low, high⟩ finite

/-- No band tells a number apart from itself. -/
theorem Measurement.isNews_self {x band : Float} (number : x.isNaN = false) (nonneg : 0 ≤ band) :
    isNews x x band = false := by
  simp only [isNews, number, Bool.false_or, decide_eq_false_iff_not]
  exact Number.not_lt_abs_sub nonneg rfl rfl

namespace Sensor

/-! ## What moves the bounds -/

variable {c : Conditions} {op : Op} {s : Sensor}

theorem readingLaw_sameBounds : ReadingLaw fun s s' _ => SameBounds s s' where
  trans first second := ⟨second.min.trans first.min, second.max.trans first.max⟩
  move _ same := same
  evaluate _ _ := ⟨rfl, rfl⟩
  announce s _ := .refl s
  share _ _ := .refl _

/-- **Only a request for bounds moves them.** -/
theorem perform_bounds (c : Conditions) (s : Sensor) (other : ∀ min max, op ≠ .setBounds min max) :
    SameBounds s (s.perform c op).sensor := by
  have law := readingLaw_sameBounds
  cases op with
  | write x =>
      have told : Act.Keeps (fun s s' _ => SameBounds s s') (.tellHook x) := fun _ => ⟨rfl, rfl⟩
      simp only [perform, write]
      split
      · exact law.andThen (law.andThen (law.setValue x) law.checkThresholds) told s
      · exact .refl s
  | setTrigger slot x =>
      change SameBounds s (s.setTrigger slot x).sensor
      obtain ⟨failure, refused⟩ | ⟨thresholds, edited, accepted⟩ := setTrigger_cases slot x s
      · rw [refused]
        exact .refl s
      · rw [accepted]
        exact ⟨rfl, rfl⟩
  | replaceThresholds ts =>
      change SameBounds s (s.replaceThresholds ts).sensor
      obtain ⟨failure, refused⟩ | same | ⟨abandoned, thresholds, adopted⟩ :=
        replaceThresholds_cases ts s
      · rw [refused]
        exact .refl s
      · rw [same]
        exact .refl s
      · rw [adopted]
        exact law.adoptThresholds abandoned thresholds ⟨rfl, rfl⟩
  | attach key | setHook hook => exact ⟨rfl, rfl⟩
  | _ => exact law.perform c rfl rfl other s

/-- The lower bound of a request is news. -/
def movesMin (s : Sensor) (min : Float) : Bool :=
  Measurement.isNews s.measurement.min min s.measurement.publishBand

/-- The upper bound of a request is news. -/
def movesMax (s : Sensor) (max : Float) : Bool :=
  Measurement.isNews s.measurement.max max s.measurement.publishBand

/-- **A request takes over each bound that is news**, and the other stays. -/
theorem perform_setBounds (c : Conditions) (min max : Float) (s : Sensor) :
    (s.perform c (.setBounds min max)).sensor.measurement =
      { s.measurement with
        min := if s.movesMin min then min else s.measurement.min
        max := if s.movesMax max then max else s.measurement.max } := by
  have first : (Act.setMin min s).1.measurement =
      { s.measurement with min := if s.movesMin min then min else s.measurement.min } := by
    change (if s.movesMin min then _ else _ : Sensor × List Effect).1.measurement = _
    cases s.movesMin min <;> rfl
  have second : ∀ s' : Sensor, (Act.setMax max s').1.measurement =
      { s'.measurement with max := if s'.movesMax max then max else s'.measurement.max } := by
    intro s'
    change (if s'.movesMax max then _ else _ : Sensor × List Effect).1.measurement = _
    cases s'.movesMax max <;> rfl
  change (Act.setMax max (Act.setMin min s).1).1.measurement = _
  rw [second, movesMax, first]
  rfl

/-! ## Bounds that are a range -/

/-- Both bounds are finite. -/
structure Bounded (s : Sensor) : Prop where
  min : s.measurement.min.isFinite = true
  max : s.measurement.max.isFinite = true

/-- The bounds are not in order. -/
def isCrossed (s : Sensor) : Bool := !decide (s.measurement.min < s.measurement.max)

/-- One bound moves, the other is no news and stays, and the one that moves ends at or beyond the
one that stays. -/
def Op.overtakes (_ : Conditions) (s : Sensor) : Op → Bool
  | .setBounds min max =>
      s.movesMin min && !s.movesMax max && decide (s.measurement.max ≤ min) ||
        !s.movesMin min && s.movesMax max && decide (max ≤ s.measurement.min)
  | _ => false

/-- Bounds that were finite stay finite. -/
theorem Bounded.perform (bounded : s.Bounded) (c : Conditions)
    (proper : ∀ min max, op = .setBounds min max → Definition.checkBounds min max = .ok ()) :
    (s.perform c op).sensor.Bounded := by
  by_cases other : ∀ min max, op ≠ .setBounds min max
  · obtain ⟨min, max⟩ := perform_bounds c s other
    exact ⟨min ▸ bounded.min, max ▸ bounded.max⟩
  · push Not at other
    obtain ⟨min, max, rfl⟩ := other
    obtain ⟨finite, finite', -⟩ := (Definition.checkBounds_eq_ok_iff min max).1 (proper min max rfl)
    constructor
    · rw [perform_setBounds]
      dsimp only
      split
      · exact finite
      · exact bounded.min
    · rw [perform_setBounds]
      dsimp only
      split
      · exact finite'
      · exact bounded.max

/-- **Bounds in order cross exactly where one overtakes the other.** -/
theorem isCrossed_perform (c : Conditions) (bounded : s.Bounded) (ascending : s.isCrossed = false)
    (proper : ∀ min max, op = .setBounds min max → Definition.checkBounds min max = .ok ()) :
    (s.perform c op).sensor.isCrossed = op.overtakes c s := by
  by_cases other : ∀ min max, op ≠ .setBounds min max
  · obtain ⟨low, high⟩ := perform_bounds c s other
    rw [isCrossed, low, high]
    cases op with
    | setBounds min max => exact absurd rfl (other min max)
    | _ => exact ascending
  · push Not at other
    obtain ⟨min, max, rfl⟩ := other
    obtain ⟨finite, finite', order⟩ :=
      (Definition.checkBounds_eq_ok_iff min max).1 (proper min max rfl)
    have crossed : ∀ {x y : Float}, x.isFinite = true → y.isFinite = true →
        (!decide (x < y)) = decide (y ≤ x) := fun {x y} finite finite' => by
      rw [← decide_not]
      exact decide_eq_decide.2 (Number.not_lt_iff (Number.isNaN_of_isFinite finite)
        (Number.isNaN_of_isFinite finite'))
    have moved : (s.perform c (.setBounds min max)).sensor.isCrossed =
        !decide ((if s.movesMin min then min else s.measurement.min) <
          if s.movesMax max then max else s.measurement.max) := by
      rw [isCrossed, perform_setBounds]
    have overtakes : (Op.setBounds min max).overtakes c s =
        (s.movesMin min && !s.movesMax max && decide (s.measurement.max ≤ min) ||
          !s.movesMin min && s.movesMax max && decide (max ≤ s.measurement.min)) := rfl
    rw [moved, overtakes]
    cases s.movesMin min <;> cases s.movesMax max
    · exact ascending
    · exact crossed bounded.min finite'
    · exact (crossed finite bounded.max).trans (Bool.or_false _).symm
    · exact congrArg Bool.not (decide_eq_true order)

/-- After a request each bound is within the publish band of what was asked for. -/
theorem near_setBounds (c : Conditions) {min max : Float} (finite : min.isFinite = true)
    (finite' : max.isFinite = true) (nonneg : 0 ≤ s.measurement.publishBand) :
    (s.perform c (.setBounds min max)).sensor.movesMin min = false ∧
      (s.perform c (.setBounds min max)).sensor.movesMax max = false := by
  rw [movesMin, movesMax, perform_setBounds]
  dsimp only
  constructor
  · split
    · exact Measurement.isNews_self (Number.isNaN_of_isFinite finite) nonneg
    · next suppressed => exact Bool.eq_false_of_not_eq_true suppressed
  · split
    · exact Measurement.isNews_self (Number.isNaN_of_isFinite finite') nonneg
    · next suppressed => exact Bool.eq_false_of_not_eq_true suppressed

end Sensor

/-! ## Runs -/

namespace Installation

variable {i : Installation} {hs : List Happening}

theorem bounded_step {h : Happening} (bounded : i.sensor.Bounded)
    (proper : ∀ min max, h = .perform (.setBounds min max) →
      Definition.checkBounds min max = .ok ()) : (i.step h).sensor.Bounded := by
  cases h with
  | power status | access access => exact bounded
  | perform op => exact bounded.perform _ fun min max asked => proper min max (congrArg _ asked)

theorem isCrossed_step {h : Happening} (bounded : i.sensor.Bounded)
    (ascending : i.sensor.isCrossed = false)
    (proper : ∀ min max, h = .perform (.setBounds min max) →
      Definition.checkBounds min max = .ok ()) :
    (i.step h).sensor.isCrossed = i.isOf Sensor.Op.overtakes h := by
  cases h with
  | power status | access access => exact ascending
  | perform op =>
      exact Sensor.isCrossed_perform _ bounded ascending fun min max asked =>
        proper min max (congrArg _ asked)

/-- Bounds stay finite as long as all requests are for finite bounds in order. -/
theorem bounded_run (bounded : i.sensor.Bounded)
    (proper : ∀ min max, .perform (.setBounds min max) ∈ hs →
      Definition.checkBounds min max = .ok ()) : (i.run hs).sensor.Bounded := by
  induction hs generalizing i with
  | nil => exact bounded
  | cons h hs ih =>
      refine ih (i := i.step h) (bounded_step bounded ?_) ?_
      · intro min max asked
        exact proper min max (asked ▸ List.mem_cons_self)
      · exact fun min max later => proper min max (List.mem_cons_of_mem h later)

/-- **When moved bounds are still a range.**  Let every request be for finite bounds in order.  Then
the bounds of a sensor are finite at all times, and in order at all times exactly if no request
moves one bound to or beyond the other while the other stays within the publish band of what was
asked for; and after a request each bound is within that band of what was asked for. -/
theorem bounds_ascend_iff (site : Site) (d : Definition) (i : Installation) (hs : List Happening)
    (made : make site d = .ok i)
    (proper : ∀ min max, .perform (.setBounds min max) ∈ hs →
      Definition.checkBounds min max = .ok ()) :
    (∀ before, before <+: hs → (i.run before).sensor.Bounded) ∧
      ((∀ before, before <+: hs →
          (i.run before).sensor.measurement.min < (i.run before).sensor.measurement.max) ↔
        i.sees Sensor.Op.overtakes hs = false) ∧
      ∀ before min max, before ++ [.perform (.setBounds min max)] <+: hs →
        let now := i.run (before ++ [.perform (.setBounds min max)])
        now.sensor.movesMin min = false ∧ now.sensor.movesMax max = false := by
  have defined := (make_eq_ok made).1
  obtain ⟨quantity, thresholds, described⟩ := defined.described
  obtain ⟨low, high, order⟩ := (Definition.checkBounds_eq_ok_iff _ _).1 described.bounded
  have bounded : i.sensor.Bounded := by
    constructor <;> rw [described.measurement]
    · exact low
    · exact high
  have ascending : i.sensor.isCrossed = false := by
    rw [Sensor.isCrossed, described.measurement]
    exact congrArg Bool.not (decide_eq_true order)
  refine ⟨?_, ?_, ?_⟩
  · rintro before ⟨after, rfl⟩
    exact bounded_run bounded fun min max asked => proper min max (List.mem_append_left _ asked)
  · have crosses : (∃ before, before <+: hs ∧ (i.run before).sensor.isCrossed = true) ↔
        i.sees Sensor.Op.overtakes hs = true := by
      refine exists_prefix_iff_sees Sensor.isCrossed Sensor.Op.overtakes
        (fun i => i.sensor.Bounded) ?_ bounded ascending
      intro i h member bounded ascending
      have asked : ∀ min max, h = .perform (.setBounds min max) →
          Definition.checkBounds min max = .ok () := fun min max same =>
        proper min max (same ▸ member)
      exact ⟨bounded_step bounded asked, isCrossed_step bounded ascending asked⟩
    rw [← Bool.not_eq_true, ← crosses]
    simp only [Sensor.isCrossed, Bool.not_eq_true', decide_eq_false_iff_not, not_exists, not_and,
      not_not]
  · rintro before min max ⟨after, rfl⟩
    obtain ⟨finite, finite', -⟩ := (Definition.checkBounds_eq_ok_iff min max).1
      (proper min max (by simp))
    have nonneg : 0 ≤ (i.run before).sensor.measurement.publishBand := by
      rw [run_publishBand]
      exact defined.publishBand_nonneg
    rw [run_append]
    exact Sensor.near_setBounds (i.run before).site.conditions finite finite' nonneg

/-- Both bounds move, and then both are held back. -/
def movedSample : List Happening :=
  [.perform (.setBounds 10 90), .perform (.feed 42), .perform (.setBounds 10.005 90.005)]

theorem proper_movedSample : ∀ min max, .perform (.setBounds min max) ∈ movedSample →
    Definition.checkBounds min max = .ok () := by
  intro min max asked
  simp only [movedSample, List.mem_cons, Happening.perform.injEq, Sensor.Op.setBounds.injEq,
    reduceCtorEq, List.not_mem_nil, or_false, false_or] at asked
  obtain ⟨rfl, rfl⟩ | ⟨rfl, rfl⟩ := asked <;> decide +kernel

theorem bounds_ascend_iff_sample : ∃ i, make .fresh sampleDefinition = .ok i ∧
    ∀ before, before <+: movedSample →
      (i.run before).sensor.measurement.min < (i.run before).sensor.measurement.max := by
  have found : (make .fresh sampleDefinition).toOption.any (fun i =>
      !i.sees Sensor.Op.overtakes movedSample) = true := by
    decide +kernel
  obtain ⟨i, made, found⟩ := exists_made found
  obtain ⟨-, ascend, -⟩ := bounds_ascend_iff .fresh sampleDefinition i movedSample made
    proper_movedSample
  exact ⟨i, made, ascend.2 (by simpa using found)⟩

/-- The lower bound moves past the upper one, which is asked to move by less than the band. -/
theorem request_crosses_bounds : ∃ i, make .fresh sampleDefinition = .ok i ∧
    Definition.checkBounds 100.002 100.008 = .ok () ∧
    (i.run [.perform (.setBounds 100.002 100.008)]).sensor.measurement.min = 100.002 ∧
    (i.run [.perform (.setBounds 100.002 100.008)]).sensor.measurement.max = 100 ∧
    ¬ (100.002 : Float) < 100 := by
  have found : (make .fresh sampleDefinition).toOption.any (fun i =>
      let m := (i.run [.perform (.setBounds 100.002 100.008)]).sensor.measurement
      decide (m.min = 100.002) && decide (m.max = 100)) = true := by
    decide +kernel
  obtain ⟨i, made, found⟩ := exists_made found
  obtain ⟨low, high⟩ := Bool.and_eq_true_iff.1 found
  exact ⟨i, made, by decide +kernel, of_decide_eq_true low, of_decide_eq_true high,
    by decide +kernel⟩

end Installation

end SensorMonitor
