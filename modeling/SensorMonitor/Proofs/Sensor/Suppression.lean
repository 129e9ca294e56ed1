/-
# Proofs.Sensor.Suppression -- a reading that is no news is not noticed

The publish filter holds back a reading within the band of the value.  What is held back
still counts in the statistics, is still put to the thresholds, and still shows that the
sensor works.  It turns no alarm, since alarms agree with the value that stays
(`Coherent.latch_eq`), so that all that is told is the recovery of a sensor that was not
itself (`feed_of_suppressed`).

A number that was just fed is held back when it comes again: either it became the value,
and no band is so narrow that a value leaves it by staying where it is, or it was within
the band of the value already (`admits_fed`).  So of two equal readings the second is not
noticed at all.  The band was drawn from the first range and moves with no bound
(`run_publishBand`).
-/
import SensorMonitor.Proofs.Sensor.Override

namespace SensorMonitor

set_option autoImplicit false

namespace Sensor

/-! ## Readings that are held back -/

/-- What is told of a sensor that works again, as far as it is news. -/
def recoveries (s : Sensor) : List Event :=
  (if s.health.functional then [] else [.changed s.identity.path (.functional true)]) ++
    if s.health.available then [] else [.changed s.identity.path (.available true)]

/-- The health of a sensor that was just read. -/
def recovered (s : Sensor) : Health := (s.health.setFunctional true).setAvailable true

/-- Only a number within the band of a number is held back. -/
theorem numbers_of_not_admits {m : Measurement} {x : Float} (suppressed : m.admits x = false) :
    m.value.isNaN = false ∧ x.isNaN = false := by
  simp only [Measurement.admits, Measurement.isNews, Bool.or_eq_false_iff] at suppressed
  exact suppressed.1

namespace Act

variable {power : PowerStatus} {s : Sensor} {x : Float}

theorem recover_of_number (number : x.isNaN = false) :
    recover x s = ({ s with health := s.recovered }, s.recoveries.map .announce) := by
  simp only [recover]
  rw [number]
  simp only [andThen, noteFunctional, noteAvailable, recovered, recoveries, Bool.false_eq_true,
    if_false, Health.setFunctional]
  cases s.health.functional <;> cases s.health.available <;> rfl

/-- **A reading that is held back** moves the statistics and the health only, and all that is told
is that the sensor is itself again. -/
theorem feed_of_suppressed (free : s.overridden = false) (rest : s.internal = false)
    (readable : s.isReadable power = true) (suppressed : s.measurement.admits x = false)
    (steady : s.value.isNaN = false → ∀ t ∈ s.thresholds.toList, t.latch s.value = t.active) :
    feed power x s =
      ({ s with tally := s.tally.map (·.record x), health := s.recovered },
        s.recoveries.map .announce) := by
  obtain ⟨known, number⟩ := numbers_of_not_admits suppressed
  let counted : Sensor := { s with tally := s.tally.map (·.record x) }
  have checked : checkThresholds counted = (counted, []) :=
    checkThresholds_of_steady (steady known)
  have recovered : recover x counted = _ := recover_of_number number
  rw [feed_of_readable x free rest readable, suppressed]
  change (let checked := checkThresholds counted
    ((recover x checked.1).1, checked.2 ++ (recover x checked.1).2)) = _
  simp only [checked, recovered]
  rfl

/-! ## Readings that come again -/

/-- A number that was just fed is no news. -/
theorem admits_fed (free : s.overridden = false) (readable : s.isReadable power = true)
    (number : x.isNaN = false) (band : 0 ≤ s.measurement.publishBand) :
    (feed power x s).1.measurement.admits x = false := by
  have value : (feed power x s).1.measurement.value = _ := (feed_readable x free readable).1
  have kept : (feed power x s).1.measurement.publishBand = s.measurement.publishBand :=
    perform_publishBand ⟨power, .closed⟩ (.feed x) s
  cases admitted : s.measurement.admits x with
  | true =>
      rw [admitted, if_pos rfl] at value
      simp only [Measurement.admits, Measurement.isNews, value, kept, number, Bool.false_or,
        decide_eq_false_iff_not]
      exact Number.not_lt_abs_sub band rfl rfl
  | false =>
      rw [admitted, if_neg (by decide)] at value
      rw [Measurement.admits, value, kept]
      exact admitted

/-- **Of two equal readings the second** moves the statistics only, and nothing is told. -/
theorem feed_again (free : s.overridden = false) (rest : s.internal = false)
    (readable : s.isReadable power = true) (number : x.isNaN = false)
    (band : 0 ≤ s.measurement.publishBand)
    (steady : (feed power x s).1.value.isNaN = false →
      ∀ t ∈ (feed power x s).1.thresholds.toList, t.latch (feed power x s).1.value = t.active) :
    feed power x (feed power x s).1 =
      ({ (feed power x s).1 with tally := (feed power x s).1.tally.map (·.record x) }, []) := by
  have suppressed := admits_fed free readable number band
  have controlled := controlled_feed power x rest
  have identity : (feed power x s).1.identity = s.identity :=
    perform_identity ⟨power, .closed⟩ (.feed x) s
  have health : (feed power x s).1.health = s.recovered := by
    rw [health_feed x free rest, readable, number]
    rfl
  generalize feed power x s = fed at *
  have again := feed_of_suppressed (s := fed.1) (controlled.overridden.trans free)
    controlled.internal (by rw [isReadable, identity]; exact readable) suppressed steady
  have nothing : fed.1.recoveries = [] := by
    rw [recoveries, health]
    rfl
  have same : fed.1.recovered = fed.1.health := by
    rw [recovered, health]
    rfl
  rw [again, nothing, same]
  rfl

end Act

end Sensor

namespace Installation

/-! ## Runs -/

/-- The reading is told to nobody as a value or an alarm, and leaves the value, the alarms and the
directory as they are.  At most it is told that the sensor is itself again. -/
structure Unseen (i : Installation) (x : Float) : Prop where
  told : i.tells [.perform (.feed x)] = i.sensor.recoveries
  value : (i.step (.perform (.feed x))).sensor.value = i.sensor.value
  thresholds : (i.step (.perform (.feed x))).sensor.thresholds = i.sensor.thresholds
  directory : (i.step (.perform (.feed x))).site.directory = i.site.directory

/-- The reading is told to nobody, and changes nothing but the statistics. -/
structure Unnoticed (i : Installation) (x : Float) : Prop where
  told : i.tells [.perform (.feed x)] = []
  site : (i.step (.perform (.feed x))).site = i.site
  sensor : (i.step (.perform (.feed x))).sensor =
    { i.sensor with tally := (i.step (.perform (.feed x))).sensor.tally }

variable {i : Installation}

/-- Moved bounds leave the band of the value, which was drawn from the first ones. -/
theorem run_publishBand (i : Installation) (hs : List Happening) :
    (i.run hs).sensor.measurement.publishBand = i.sensor.measurement.publishBand := by
  induction hs generalizing i with
  | nil => rfl
  | cons h hs ih =>
      refine (ih (i.step h)).trans ?_
      cases h with
      | power status | access access => rfl
      | perform op => exact Sensor.perform_publishBand _ op _

/-- A reading without effects that moves the statistics only. -/
theorem unnoticed_of_feed {x : Float}
    (fed : ∃ tally, Sensor.Act.feed i.site.conditions.power x i.sensor =
      ({ i.sensor with tally := tally }, [])) : i.Unnoticed x := by
  obtain ⟨tally, fed⟩ := fed
  have outcome : i.sensor.perform i.site.conditions (.feed x) =
      ⟨{ i.sensor with tally := tally }, [], .done⟩ := by
    simp only [Sensor.perform, Sensor.Outcome.ofAct, fed]
  refine ⟨?_, ?_, ?_⟩
  · rw [tells_perform, outcome]
    rfl
  · simp only [step, outcome]
    rfl
  · simp only [step, outcome]

/-- A reading that tells recoveries, if anything, and moves the statistics and the health only. -/
theorem unseen_of_feed {x : Float}
    (fed : ∃ tally health, Sensor.Act.feed i.site.conditions.power x i.sensor =
      ({ i.sensor with tally := tally, health := health }, i.sensor.recoveries.map .announce)) :
    i.Unseen x := by
  obtain ⟨tally, health, fed⟩ := fed
  have outcome : i.sensor.perform i.site.conditions (.feed x) =
      ⟨{ i.sensor with tally := tally, health := health },
        i.sensor.recoveries.map .announce, .done⟩ := by
    simp only [Sensor.perform, Sensor.Outcome.ofAct, fed]
  refine ⟨?_, ?_, ?_, ?_⟩
  · rw [tells_perform, outcome]
    simp [Sensor.announced, Sensor.Effect.event?, List.filterMap_map, Function.comp_def]
  · simp only [step, outcome]
    rfl
  · simp only [step, outcome]
  · simp only [step, outcome]
    refine Site.directory_absorbAll _ ?_
    simp only [Sensor.recoveries]
    cases i.sensor.health.functional <;> cases i.sensor.health.available <;> rfl

/-- After any run the value leaves every alarm of a sensor that takes part in them as it is. -/
theorem run_latch_eq {site : Site} {d : Definition} {hs : List Happening}
    (made : make site d = .ok i) (steady : .perform (.participate false) ∉ hs)
    (number : (i.run hs).sensor.value.isNaN = false) :
    ∀ t ∈ (i.run hs).sensor.thresholds.toList,
      t.latch (i.run hs).sensor.value = t.active := by
  obtain ⟨wf, participates, value, -⟩ := (make_eq_ok made).1.fresh
  have coherent := Sensor.coherent_of_isNaN (s := i.sensor) (by rw [value, Number.isNaN_nan])
  exact (run_coherent wf participates coherent steady).latch_eq (run_wellFormed wf hs).1 number

/-- **What the publish filter holds back is not seen**, whatever was done before to a sensor that
takes part in its alarms and has power.  And of two equal readings the second is not noticed at
all, an override or not. -/
theorem suppressed_readings_are_unseen (site : Site) (d : Definition) (i : Installation)
    (hs : List Happening) (made : make site d = .ok i)
    (steady : .perform (.participate false) ∉ hs)
    (readable : (i.run hs).sensor.isReadable (i.run hs).site.conditions.power = true) :
    (∀ x, (i.run hs).sensor.overridden = false → (i.run hs).sensor.measurement.admits x = false →
        (i.run hs).Unseen x) ∧
      ∀ x, x.isNaN = false → ((i.run hs).step (.perform (.feed x))).Unnoticed x := by
  have defined := (make_eq_ok made).1
  have rest := run_internal defined.start.2.1 hs
  constructor
  · intro x free suppressed
    exact unseen_of_feed ⟨_, _, Sensor.Act.feed_of_suppressed free rest readable suppressed
      (run_latch_eq made steady)⟩
  · intro x number
    refine unnoticed_of_feed ?_
    rw [show ((i.run hs).step (.perform (.feed x))).site.conditions = (i.run hs).site.conditions
      from Site.conditions_absorbAll _ _]
    cases overridden : (i.run hs).sensor.overridden with
    | true =>
        refine ⟨(i.run hs).sensor.tally, ?_⟩
        have once : ((i.run hs).step (.perform (.feed x))).sensor = (i.run hs).sensor :=
          congrArg Prod.fst (Sensor.Act.feed_of_overridden x overridden)
        rw [once, Sensor.Act.feed_of_overridden x overridden]
        rfl
    | false =>
        have band : 0 ≤ (i.run hs).sensor.measurement.publishBand := by
          rw [run_publishBand]
          exact defined.publishBand_nonneg
        have onward : .perform (.participate false) ∉ hs ++ [.perform (.feed x)] := by
          simpa using steady
        have latched := run_latch_eq made onward
        rw [run_append] at latched
        exact ⟨_, Sensor.Act.feed_again overridden rest readable number band latched⟩

/-- A reading raised an alarm, a read failed, and the next one cleared the alarm. -/
def risenSample : List Happening :=
  [.power ⟨true, false⟩, .perform (.feed 96), .perform .countError, .perform (.feed 42)]

theorem suppressed_readings_are_unseen_sample : ∃ i, make .fresh editedDefinition = .ok i ∧
    (i.run risenSample).sensor.isReadable (i.run risenSample).site.conditions.power = true ∧
    (i.run risenSample).sensor.overridden = false ∧
    (i.run risenSample).sensor.measurement.admits 42.005 = false ∧
    (i.run risenSample).Unseen 42.005 ∧
    ((i.run risenSample).step (.perform (.feed 42))).Unnoticed 42 := by
  have found : (make .fresh editedDefinition).toOption.any (fun i =>
      (i.run risenSample).sensor.isReadable (i.run risenSample).site.conditions.power &&
        !(i.run risenSample).sensor.overridden &&
        !(i.run risenSample).sensor.measurement.admits 42.005) = true := by
    decide +kernel
  obtain ⟨i, made, found⟩ := exists_made found
  simp only [Bool.and_eq_true, Bool.not_eq_true'] at found
  obtain ⟨⟨readable, free⟩, suppressed⟩ := found
  obtain ⟨unseen, unnoticed⟩ := suppressed_readings_are_unseen .fresh editedDefinition i
    risenSample made (by simp [risenSample]) readable
  exact ⟨i, made, readable, free, suppressed, unseen 42.005 free suppressed,
    unnoticed 42 (by decide)⟩

end Installation

end SensorMonitor
