/-
# Proofs.ExternalSensor.Recovery -- what a write does not mend

A value that perishes without power is lost in the way of a reading: the sensor becomes
unavailable.  A number that is read mends that.  A number that is written does not, since
writes leave the health alone (`health_step`); so a sensor that is only written and checked
is available exactly if each of its losses came while there was power
(`available_written_iff`).
-/
import SensorMonitor.Proofs.ExternalSensor.Outpost
import SensorMonitor.Proofs.Sensor.Escalation

namespace SensorMonitor.Outpost

set_option autoImplicit false

variable {o : Outpost}

/-- The power condition of the sensor holds. -/
def isReadable (o : Outpost) : Bool := o.sensor.isReadable o.site.conditions.power

/-- The occasion takes a value away for which there is no power. -/
def drops (o : Outpost) : Occasion → Bool
  | .check => o.expires && !o.isReadable
  | _ => false

/-- Each check of the run that takes the value away does so while there is power. -/
def LosesWithPower (o : Outpost) (cs : List Occasion) : Prop :=
  ∀ before rest, cs = before ++ .check :: rest → (o.run before).expires = true →
    (o.run before).isReadable = true

theorem losesWithPower_concat (o : Outpost) (cs : List Occasion) (c : Occasion) :
    o.LosesWithPower (cs ++ [c]) ↔ o.LosesWithPower cs ∧ (o.run cs).drops c = false := by
  constructor
  · intro powered
    refine ⟨fun before rest split => powered before (rest ++ [c]) (by simp [split]), ?_⟩
    cases c with
    | check =>
        have last := powered cs [] rfl
        simp only [drops]
        cases expires : (o.run cs).expires with
        | false => rfl
        | true => rw [last expires]; rfl
    | pass ns | power status | access access | write x | perform op => rfl
  · rintro ⟨earlier, spared⟩ before rest split expires
    obtain ⟨rfl, rfl, -⟩ | ⟨rest, -, rfl⟩ := eq_or_of_concat split
    · simpa [drops, expires] using spared
    · exact earlier before rest rfl expires

/-! ## The health -/

/-- **Only a loss without power touches the health**, as long as nobody operates the sensor. -/
theorem health_step (order : o.InOrder) {c : Occasion} (remote : ∀ op, c ≠ .perform op) :
    (o.step c).sensor.health =
      if o.drops c then o.sensor.health.setAvailable false else o.sensor.health := by
  cases c with
  | pass ns | power status | access access => rfl
  | write x =>
      simp only [sensor]
      have aside : (Sensor.Op.write x).judges = false := rfl
      rw [external_write order x]
      exact Sensor.health_perform aside
  | check =>
      cases expires : o.expires with
      | false =>
          rw [step_check_of_not_expires expires]
          simp only [drops, expires]
          rfl
      | true =>
          have fed : (o.sensor.perform o.site.conditions (.feed Number.nan)).sensor.health = _ :=
            Sensor.Act.health_feed Number.nan order.receptive.free order.receptive.rest
          rw [if_pos Number.isNaN_nan] at fed
          simp only [drops, expires, isReadable]
          change (o.step .check).external.sensor.health = _
          rw [external_check expires, fed]
          cases o.sensor.isReadable o.site.conditions.power <;> rfl
  | perform op => exact absurd rfl (remote op)

theorem isRegular_of_remote {c : Occasion} (remote : ∀ op, c ≠ .perform op) :
    c.isRegular = true := by
  cases c with
  | perform op => exact absurd rfl (remote op)
  | pass ns | power status | access access | write x | check => rfl

theorem health_run (order : o.InOrder) {cs : List Occasion} (remote : ∀ op, .perform op ∉ cs) :
    (o.run cs).InOrder ∧
      (o.run cs).sensor.health.functional = o.sensor.health.functional ∧
      ((o.run cs).sensor.health.available = true ↔
        o.sensor.health.available = true ∧ o.LosesWithPower cs) := by
  -- from the right end, since whether a check takes the value away depends on the run before
  induction cs using List.reverseRecOn with
  | nil =>
      refine ⟨order, rfl, ?_⟩
      have nothing : o.LosesWithPower [] := fun before rest split => by simp at split
      exact (and_iff_left nothing).symm
  | append_singleton before c ih =>
      obtain ⟨order', functional, available⟩ :=
        ih fun op asked => remote op (List.mem_append_left _ asked)
      have last : ∀ op, c ≠ .perform op := by
        rintro op rfl
        exact remote op (List.mem_append_right _ List.mem_cons_self)
      have health := health_step order' last
      rw [run_concat, losesWithPower_concat]
      refine ⟨order'.step (isRegular_of_remote last), ?_⟩
      rw [health]
      cases (o.run before).drops c with
      | false => exact ⟨functional, by simpa using available⟩
      | true => exact ⟨functional, by simp [Health.setAvailable]⟩

/-! ## Written numbers -/

/-- **When a written number finds the sensor available.**  After a run of writes and checks, at a
moment when there is power, a number is written.  The sensor has it for its value and works, and
it is available exactly if each check of the run that took a value away did so while there was
power.  The same number, had it been read, would have made it available in any case. -/
theorem available_written_iff (site : Site) (d : Definition) (timeout : Option Nat) (now : Nat)
    (o : Outpost) (cs : List Occasion) (x : Float) (made : make site d timeout now = .ok o)
    (remote : ∀ op, .perform op ∉ cs) (number : x.isNaN = false)
    (readable : (o.run cs).isReadable = true) :
    let written := (o.run cs).step (.write x)
    let read := (o.run cs).step (.perform (.feed x))
    (written.sensor.value = x ∧ written.sensor.health.functional = true ∧
      (written.sensor.health.available = true ↔
        ∀ before rest, cs = before ++ .check :: rest → (o.run before).expires = true →
          (o.run before).isReadable = true)) ∧
      read.sensor.health.functional = true ∧ read.sensor.health.available = true := by
  obtain ⟨start, -, -, healthy⟩ := make_eq_ok made
  obtain ⟨order, functional, available⟩ := health_run start remote
  have value := (order.receptive.write (o.run cs).site.conditions x).2.2.1
  have unharmed : ((o.run cs).step (.write x)).sensor.health = (o.run cs).sensor.health :=
    health_step order fun op asked => by cases asked
  have mended : ((o.run cs).step (.perform (.feed x))).sensor.health =
      ((o.run cs).sensor.health.setFunctional true).setAvailable true := by
    have quiet : (Sensor.Op.feed x).isQuiet = true := rfl
    let power := (o.run cs).site.conditions.power
    have fed : (Sensor.Act.feed power x (o.run cs).sensor).1.health = _ :=
      Sensor.Act.health_feed x order.receptive.free order.receptive.rest
    simp only [isReadable] at readable
    rw [readable, number, if_pos rfl] at fed
    change ((o.run cs).step (.perform (.feed x))).external.sensor.health = _
    rw [external_perform quiet]
    exact fed
  refine ⟨⟨?_, ?_, ?_⟩, ?_, ?_⟩
  · simp only [sensor]
    rw [external_write order x]
    exact value
  · rw [unharmed, functional, healthy]
    rfl
  · rw [unharmed, available, healthy]
    exact and_iff_right rfl
  · rw [mended]
    rfl
  · rw [mended]
    rfl

/-- A value perishes while there is power, which then goes and comes back. -/
def lapse : List Occasion :=
  [.power ⟨true, false⟩, .write 20, .pass 2000, .check, .power ⟨false, false⟩,
    .power ⟨true, false⟩]

theorem available_written_iff_sample : ∃ o,
    make .fresh Installation.editedDefinition (some 1000) 0 = .ok o ∧
      ((o.run lapse).step (.write 25)).sensor.value = 25 ∧
      ((o.run lapse).step (.write 25)).sensor.health.functional = true ∧
      ((o.run lapse).step (.write 25)).sensor.health.available = true ∧
      ∀ before rest, lapse = before ++ .check :: rest → (o.run before).expires = true →
        (o.run before).isReadable = true := by
  have found : (make .fresh Installation.editedDefinition (some 1000) 0).toOption.any (fun o =>
      (o.run lapse).isReadable &&
        ((o.run lapse).step (.write 25)).sensor.health.available) = true := by
    decide +kernel
  obtain ⟨o, made, found⟩ := exists_ok_of_any found
  obtain ⟨readable, available⟩ := Bool.and_eq_true_iff.1 found
  obtain ⟨⟨value, functional, iff⟩, -⟩ := available_written_iff .fresh
    Installation.editedDefinition (some 1000) 0 o lapse 25 made (by simp [lapse]) (by decide)
    readable
  exact ⟨o, made, value, functional, available, iff.1 available⟩

/-- A value perishes while the power is away. -/
def outage : List Occasion :=
  [.power ⟨true, false⟩, .write 20, .power ⟨false, false⟩, .pass 2000, .check,
    .power ⟨true, false⟩]

/-- After an outage a sensor that is only written has numbers again and stays unavailable. -/
theorem written_number_leaves_unavailable : ∃ o,
    make .fresh Installation.editedDefinition (some 1000) 0 = .ok o ∧
      (o.run outage).isReadable = true ∧
      ((o.run outage).step (.write 25)).sensor.value = 25 ∧
      ((o.run outage).step (.write 25)).sensor.health.available = false := by
  have found : (make .fresh Installation.editedDefinition (some 1000) 0).toOption.any (fun o =>
      (o.run outage).isReadable && ((o.run outage).step (.write 25)).sensor.value = 25 &&
        !((o.run outage).step (.write 25)).sensor.health.available) = true := by
    decide +kernel
  obtain ⟨o, made, found⟩ := exists_ok_of_any found
  simp only [Bool.and_eq_true, decide_eq_true_eq, Bool.not_eq_true'] at found
  obtain ⟨⟨readable, value⟩, unavailable⟩ := found
  exact ⟨o, made, readable, value, unavailable⟩

end SensorMonitor.Outpost
