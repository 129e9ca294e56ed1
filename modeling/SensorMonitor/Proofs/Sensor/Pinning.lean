/-
# Proofs.Sensor.Pinning -- what a pinned sensor knows of its value

While an override is in force, the value that was written is the last one that was published.
The sensor's own copy of it is another matter.  An edit of a trigger and new definitions of
thresholds forget it, so that the next reading is news, and under an override no reading comes
(`pinned_value_until_edited`).  What was forgotten is gone (`Forgotten`) until a number is given
to the sensor: it is written, or it is read when the override has ended, and then it is told and
compared like the first reading of all.
-/
import SensorMonitor.Proofs.Sensor.Refreshing

namespace SensorMonitor

set_option autoImplicit false

namespace Sensor

/-- The operation gives the sensor a number: one that is written and accepted, or one that is read
with power and without an override. -/
def Op.restores (c : Conditions) (s : Sensor) : Op → Bool
  | .write x => (Op.write x).overrides c s && !x.isNaN
  | .feed x => !s.overridden && s.isReadable c.power && !x.isNaN
  | _ => false

/-- **What was lost stays lost** under every operation that gives no number. -/
theorem isNaN_perform {c : Conditions} {op : Op} {s : Sensor} (rest : s.internal = false)
    (lost : s.value.isNaN = true) (unrestored : op.restores c s = false) :
    (s.perform c op).sensor.value.isNaN = true := by
  have kept : ∀ {s' : Sensor}, s'.value = s.value ∨ s'.value.isNaN = true →
      s'.value.isNaN = true := by
    rintro s' (same | lost')
    · rw [same, lost]
    · exact lost'
  cases op with
  | feed x =>
      refine kept ?_
      cases overridden : s.overridden with
      | true =>
          refine Or.inl ?_
          change (Act.feed c.power x s).1.value = s.value
          rw [Act.feed_of_overridden x overridden]
          rfl
      | false =>
          refine (Act.feed_lost c.power ?_).2
          simp only [Op.restores, overridden, Bool.not_false, Bool.true_and] at unrestored
          cases readable : s.isReadable c.power with
          | false => exact Or.inr rfl
          | true =>
              rw [readable, Bool.true_and, Bool.not_eq_false'] at unrestored
              exact Or.inl unrestored
  | write x =>
      cases accepted : (Op.write x).overrides c s with
      | true =>
          rw [Op.restores, accepted, Bool.true_and, Bool.not_eq_false'] at unrestored
          rw [(write_spec rest accepted).1, unrestored]
      | false =>
          rw [overrides_write] at accepted
          simp only [perform, write]
          rw [accepted]
          exact lost
  | setHook hook => exact lost
  | setRaw x | countError | checkThresholds | markFunctional b | markAvailable b | clearOverride
  | release | setAvailable b | setTrigger slot x | setBounds min max | replaceThresholds ts
  | participate b | attach key => exact kept (value_perform c rfl s)

end Sensor

namespace Installation

variable {i : Installation}

/-- A value that was lost stays lost through a run that gives no number. -/
theorem isNaN_run (rest : i.sensor.internal = false) (lost : i.sensor.value.isNaN = true)
    {gap : List Happening} (unrestored : i.sees Sensor.Op.restores gap = false) :
    (i.run gap).sensor.value.isNaN = true := by
  induction gap generalizing i with
  | nil => exact lost
  | cons h gap ih =>
      obtain ⟨here, later⟩ := Bool.or_eq_false_iff.1 unrestored
      refine ih (run_internal rest [h]) ?_ later
      cases h with
      | power status | access access => exact lost
      | perform op => exact Sensor.isNaN_perform rest lost here

/-- The sensor has forgotten its value.  It has none until a number is given to it; a value that
is written is the value, and a reading that arrives is told and compared, whatever was published
last. -/
structure Forgotten (i : Installation) : Prop where
  lost : ∀ gap, i.sees Sensor.Op.restores gap = false →
    (i.run gap).sensor.value.isNaN = true ∧ (i.run gap).sensor.properties.value.isNaN = true
  written : ∀ gap x, (i.run gap).isOf Sensor.Op.overrides (.perform (.write x)) = true →
    ((i.run gap).step (.perform (.write x))).sensor.value = x ∧
      ((i.run gap).step (.perform (.write x))).sensor.properties.value = x
  read : ∀ gap x, i.sees Sensor.Op.restores gap = false →
    (i.run gap).sensor.overridden = false →
    (i.run gap).sensor.isReadable (i.run gap).site.conditions.power = true →
    (i.run gap).Compared x

theorem forgotten_of_lost (rest : i.sensor.internal = false) (wf : i.sensor.WellFormed)
    (lost : i.sensor.value.isNaN = true) : i.Forgotten := by
  refine ⟨fun gap unrestored => ?_, fun gap x accepted => ?_,
    fun gap x unrestored free readable => ?_⟩
  · exact ⟨isNaN_run rest lost unrestored, isNaN_run rest lost unrestored⟩
  · have written := (Sensor.write_spec (run_internal rest gap) accepted).1
    exact ⟨written, written⟩
  · exact compared_of_lost ⟨free, run_internal rest gap⟩ (run_wellFormed wf gap).1 readable
      (isNaN_run rest lost unrestored) x

/-- **While an override is in force**, the value that was written is the last one that was
published.  The sensor has it until a trigger is edited or definitions are replaced.  Then it has
none: no alarm turns any more when the value is put to the thresholds, until a value is written
or, once the override has ended, a reading arrives. -/
theorem pinned_value_until_edited (site : Site) (d : Definition) (i : Installation)
    (hs : List Happening) (made : make site d = .ok i) :
    ((i.run hs).sensor.overridden = true → ∃ before x after, i.Pinned hs before x after) ∧
      ∀ before x after, i.Pinned hs before x after →
        ((i.run hs).site.bus.values i.sensor.identity.path).getLast? = some x ∧
          let edited := ((i.run before).step (.perform (.write x))).sees Sensor.Op.edits after
          (i.run hs).sensor.value = (if edited then Number.nan else x) ∧
            (i.run hs).sensor.properties.value = (if edited then Number.nan else x) ∧
            (edited = true →
              Sensor.Act.checkThresholds (i.run hs).sensor = Sensor.Act.skip (i.run hs).sensor ∧
                (i.run hs).Forgotten) := by
  have defined := (make_eq_ok made).1
  obtain ⟨free, rest, -⟩ := defined.start
  refine ⟨(overridden_iff_pinned rest free).1, ?_⟩
  intro before x after pinned
  obtain ⟨written, published, prevails⟩ := pinned.spec rest
  have value := prevails.value
  rw [written, ← pinned.run_eq] at value
  refine ⟨?_, value, value, ?_⟩
  · rw [pinned.run_eq, prevails.values, published]
    exact List.getLast?_concat
  · intro edited
    have lost : (i.run hs).sensor.value.isNaN = true := by
      rw [value, edited]
      exact Number.isNaN_nan
    exact ⟨Sensor.Act.checkThresholds_of_isNaN lost,
      forgotten_of_lost (run_internal rest hs) (run_wellFormed defined.fresh.wellFormed hs).1 lost⟩

/-- The override of the sample is ended, and there is power again. -/
def pinnedSampleEnd : List Happening := [.perform .clearOverride, .power ⟨true, false⟩]

/-- The trigger was edited under the override, so the value that was written is gone, and what is
read after the override is told even if it is this value. -/
theorem pinned_value_until_edited_sample : ∃ i, make .fresh editedDefinition = .ok i ∧
    let hs := pinnedSampleBefore ++ .perform (.write 75) :: pinnedSampleAfter
    ((i.run hs).site.bus.values i.sensor.identity.path).getLast? = some 75 ∧
      (i.run hs).sensor.value = Number.nan ∧ ((i.run hs).run pinnedSampleEnd).Compared 75 := by
  let hs := pinnedSampleBefore ++ .perform (.write 75) :: pinnedSampleAfter
  have found : (make .fresh editedDefinition).toOption.any (fun i =>
      let written := (i.run pinnedSampleBefore).step (.perform (.write 75))
      let ended := (i.run hs).run pinnedSampleEnd
      (i.run pinnedSampleBefore).isOf Sensor.Op.overrides (.perform (.write 75)) &&
        !written.sees Sensor.Op.decides pinnedSampleAfter &&
        written.sees Sensor.Op.edits pinnedSampleAfter &&
        !(i.run hs).sees Sensor.Op.restores pinnedSampleEnd &&
        !ended.sensor.overridden && ended.sensor.isReadable ended.site.conditions.power) = true := by
    decide +kernel
  obtain ⟨i, made, found⟩ := exists_made found
  simp only [Bool.and_eq_true, Bool.not_eq_true'] at found
  obtain ⟨⟨⟨⟨⟨accepted, spared⟩, edited⟩, unrestored⟩, free⟩, readable⟩ := found
  obtain ⟨-, agree⟩ := pinned_value_until_edited .fresh editedDefinition i hs made
  obtain ⟨published, value, -, forgets⟩ := agree _ _ _ ⟨rfl, accepted, spared⟩
  obtain ⟨-, forgotten⟩ := forgets edited
  refine ⟨i, made, published, ?_, forgotten.read pinnedSampleEnd 75 unrestored free readable⟩
  rw [value, if_pos edited]

/-- An edit of a trigger makes a sensor forget the value that it is pinned to. -/
theorem edit_forgets_pinned_value : ∃ i, make .fresh editedDefinition = .ok i ∧
    let hs := [.access ⟨true, false⟩, .perform (.write 75),
      .perform (.setTrigger ⟨.warning, .high⟩ 70)]
    i.Pinned hs [.access ⟨true, false⟩] 75 [.perform (.setTrigger ⟨.warning, .high⟩ 70)] ∧
      (i.run hs).sensor.overridden = true ∧ (i.run hs).sensor.value ≠ 75 ∧
      (i.run hs).sensor.properties.value ≠ 75 := by
  let edit : Happening := .perform (.setTrigger ⟨.warning, .high⟩ 70)
  have found : (make .fresh editedDefinition).toOption.any (fun i =>
      let allowed := i.step (.access ⟨true, false⟩)
      let written := allowed.step (.perform (.write 75))
      allowed.isOf Sensor.Op.overrides (.perform (.write 75)) &&
        !written.sees Sensor.Op.decides [edit] && (written.step edit).sensor.overridden &&
        (written.step edit).sensor.value.isNaN) = true := by
    decide +kernel
  obtain ⟨i, made, found⟩ := exists_made found
  simp only [Bool.and_eq_true, Bool.not_eq_true'] at found
  obtain ⟨⟨⟨accepted, spared⟩, overridden⟩, lost⟩ := found
  have forgotten : ∀ x : Float, x.isNaN = true → x ≠ 75 := by
    rintro x lost rfl
    exact absurd lost (by decide)
  exact ⟨i, made, ⟨rfl, accepted, spared⟩, overridden, forgotten _ lost, forgotten _ lost⟩

end Installation

end SensorMonitor
