/-
# Proofs.Sensor.Readings -- what a reading does, and what leaves the value aside

Between operations the flag `internal` is down.  Then a reading does one of three things:
nothing under an override (`feed_of_overridden`), the loss of the value without power
(`feed_of_unreadable`), and else it is published if it is news, counted, put to the
thresholds, and shows that the sensor works if it is a number (`feed_of_readable`).
`health_feed` says what becomes of the health and `tally_feed` of the statistics.  A failed
read is counted where there is power, up to the limit, and else means that there is none
(`countError_of_readable`, `countError_of_unreadable`).

Most of what is done to a sensor leaves the value aside (`Aside`): it is as it was, an
override stays or stays away, and nothing is shown of a value.  What is neither a reading nor a
write keeps the value or loses it (`value_perform`).
-/
import SensorMonitor.Proofs.Sensor.Coherence
import SensorMonitor.Proofs.Sensor.Shown

namespace SensorMonitor.Sensor

set_option autoImplicit false

/-! ## The value aside -/

/-- From one sensor to the other the value was left aside. -/
structure Aside (s s' : Sensor) (effects : List Effect) : Prop where
  value : s'.value = s.value
  overridden : s'.overridden = s.overridden
  internal : s'.internal = s.internal
  shown : shown effects = []

namespace Aside

variable {s s' s'' : Sensor} {effects effects' : List Effect}

theorem refl (s : Sensor) : Aside s s [] := ⟨rfl, rfl, rfl, rfl⟩

theorem trans (first : Aside s s' effects) (second : Aside s' s'' effects') :
    Aside s s'' (effects ++ effects') :=
  ⟨second.value.trans first.value, second.overridden.trans first.overridden,
    second.internal.trans first.internal, by rw [shown_append, first.shown, second.shown]; rfl⟩

end Aside

/-- The flag is down and the override as it was. -/
structure Controlled (s s' : Sensor) : Prop where
  internal : s'.internal = false
  overridden : s'.overridden = s.overridden

theorem Aside.controlled {s s' : Sensor} {effects : List Effect} (aside : Aside s s' effects)
    (rest : s.internal = false) : Controlled s s' :=
  ⟨aside.internal.trans rest, aside.overridden⟩

namespace Act

section Aside

variable (s : Sensor)

theorem aside_noteFunctional (b : Bool) :
    Aside s (noteFunctional b s).1 (noteFunctional b s).2 := by
  rw [noteFunctional_fst]
  refine ⟨rfl, rfl, rfl, ?_⟩
  simp only [noteFunctional]
  split <;> rfl

theorem aside_noteAvailable (b : Bool) :
    Aside s (noteAvailable b s).1 (noteAvailable b s).2 := by
  rw [noteAvailable_fst]
  refine ⟨rfl, rfl, rfl, ?_⟩
  simp only [noteAvailable]
  split <;> rfl

theorem shown_publishAll (ps : List Property) (mute : ∀ p ∈ ps, ∀ x, p ≠ .value x) :
    shown (publishAll ps s).2 = [] := by
  refine List.filter_eq_nil_iff.2 ?_
  intro e member
  obtain ⟨p, present, rfl⟩ := List.mem_map.1 member
  cases p with
  | value x => exact absurd rfl (mute _ present x)
  | max x | min x | trigger name x | alarm name raised | available b | functional b =>
      simp [Effect.shows]

/-- New definitions of thresholds show nothing of a value. -/
theorem shown_adoptThresholds (abandoned : List Slot) (thresholds : Thresholds) :
    shown (adoptThresholds abandoned thresholds s).2 = [] := by
  simp only [adoptThresholds, andThen_snd, shown_append]
  rw [shown_publishAll _ _ (by simp), shown_publishAll _ _ (by simp)]
  rfl

theorem aside_checkThresholds : Aside s (checkThresholds s).1 (checkThresholds s).2 := by
  have told : shown (checkThresholds s).2 = [] := by
    simp only [checkThresholds]
    split
    · refine shown_publishAll _ _ ?_
      intro p member x
      obtain ⟨edge, -, rfl⟩ := List.mem_map.1 member
      simp [alarmOf]
    · rfl
  rw [checkThresholds_fst]
  split <;> exact ⟨rfl, rfl, rfl, told⟩

/-- Putting the value to thresholds that it leaves as they are does nothing. -/
theorem checkThresholds_of_steady {s : Sensor}
    (steady : ∀ t ∈ s.thresholds.toList, t.latch s.value = t.active) :
    checkThresholds s = skip s := by
  simp only [checkThresholds, Thresholds.evaluate_of_steady steady,
    Thresholds.edges_of_steady steady]
  split <;> rfl

/-- Where there is no value, putting it to the thresholds does nothing. -/
theorem checkThresholds_of_isNaN {s : Sensor} (lost : s.value.isNaN = true) :
    checkThresholds s = skip s :=
  checkThresholds_of_steady fun t _ => t.latch_of_isNaN s.value lost

theorem aside_recover (x : Float) : Aside s (recover x s).1 (recover x s).2 := by
  simp only [recover]
  split
  · exact .refl s
  · exact (aside_noteFunctional s true).trans (aside_noteAvailable _ true)

theorem aside_setMin (x : Float) : Aside s (setMin x s).1 (setMin x s).2 := by
  simp only [setMin]
  split <;> exact ⟨rfl, rfl, rfl, rfl⟩

theorem aside_setMax (x : Float) : Aside s (setMax x s).1 (setMax x s).2 := by
  simp only [setMax]
  split <;> exact ⟨rfl, rfl, rfl, rfl⟩

end Aside

/-! ## Readings -/

section Readings

variable {power : PowerStatus} {s : Sensor}

/-- With the flag down before, the sensor's own use of the setter is that of the value
itself, unless there is an override. -/
theorem setOwnValue_eq (x : Float) (rest : s.internal = false) :
    setOwnValue x s = if s.overridden then skip s else store x s := by
  obtain ⟨_, _, _, _, overridden, _, _, _, _, _, _, key⟩ := s
  cases rest
  cases overridden with
  | true => rfl
  | false =>
      simp only [setOwnValue, setValue, andThen, change, store, publish, share]
      cases key <;> rfl

theorem publishReading_eq (x : Float) (free : s.overridden = false) (rest : s.internal = false) :
    publishReading x s = if s.measurement.admits x then store x s else skip s := by
  simp only [publishReading]
  rw [setOwnValue_eq x rest, free]
  rfl

theorem feed_of_overridden (x : Float) (overridden : s.overridden = true) :
    feed power x s = skip s := by
  simp only [feed]
  rw [overridden]
  rfl

theorem feed_of_unreadable (x : Float) (free : s.overridden = false) (rest : s.internal = false)
    (unreadable : s.isReadable power = false) :
    feed power x s = (noteAvailable false).andThen (store Number.nan) s := by
  obtain ⟨-, overridden, internal, -⟩ := aside_noteAvailable s false
  have published := publishReading_eq Number.nan (overridden.trans free) (internal.trans rest)
  rw [admits_of_isNaN _ Number.isNaN_nan] at published
  simp only [feed, andThen]
  rw [free, unreadable, published]
  rfl

theorem feed_of_readable (x : Float) (free : s.overridden = false) (rest : s.internal = false)
    (readable : s.isReadable power = true) :
    feed power x s = ((if s.measurement.admits x then store x else skip)
      |>.andThen (record x) |>.andThen checkThresholds |>.andThen (recover x)) s := by
  have published : publishReading x s = (if s.measurement.admits x then store x else skip) s := by
    rw [publishReading_eq x free rest]
    split <;> rfl
  simp only [feed, andThen]
  rw [free, readable, published]
  rfl

theorem shown_store (x : Float) (s : Sensor) : shown (store x s).2 = (store x s).2 := by
  simp only [store, change, publish, share, andThen]
  cases s.key <;> rfl

/-- A reading with power shows itself if it is news, and nothing else of a value. -/
theorem shown_feed_of_readable (x : Float) (free : s.overridden = false)
    (rest : s.internal = false) (readable : s.isReadable power = true) :
    shown (feed power x s).2 = if s.measurement.admits x then (store x s).2 else [] := by
  rw [feed_of_readable x free rest readable]
  simp only [andThen_snd, shown_append]
  rw [(aside_checkThresholds _).shown, (aside_recover _ _).shown, List.append_nil,
    List.append_nil]
  have counted : ∀ s', shown (record x s').2 = [] := fun _ => rfl
  rw [counted, List.append_nil]
  split
  · exact shown_store x s
  · rfl

/-- A reading leaves the flag down and an override as it is. -/
theorem controlled_feed (power : PowerStatus) (x : Float) (rest : s.internal = false) :
    Controlled s (feed power x s).1 := by
  cases free : s.overridden with
  | true =>
      rw [feed_of_overridden x free]
      exact ⟨rest, rfl⟩
  | false =>
      cases readable : s.isReadable power with
      | false =>
          rw [feed_of_unreadable x free rest readable]
          obtain ⟨internal, overridden⟩ := (aside_noteAvailable s false).controlled rest
          exact ⟨internal, overridden⟩
      | true =>
          rw [feed_of_readable x free rest readable]
          simp only [andThen_fst]
          let published := ((if s.measurement.admits x then store x else skip) s).1
          have same : published.internal = s.internal ∧ published.overridden = s.overridden := by
            simp only [published]
            split <;> exact ⟨rfl, rfl⟩
          obtain ⟨-, overridden, internal, -⟩ :=
            (aside_checkThresholds (record x published).1).trans (aside_recover _ x)
          exact ⟨internal.trans (same.1.trans rest), overridden.trans same.2⟩

/-- A reading with power may move the value and the alarms, it is counted in the statistics, and
a number shows that the sensor works. -/
theorem feed_of_readable_fst (x : Float) (free : s.overridden = false) (rest : s.internal = false)
    (readable : s.isReadable power = true) : ∃ measurement thresholds, (feed power x s).1 =
      { s with
        measurement := measurement
        thresholds := thresholds
        tally := s.tally.map (·.record x)
        health :=
          if x.isNaN then s.health else (s.health.setFunctional true).setAvailable true } := by
  rw [feed_of_readable x free rest readable]
  simp only [andThen_fst]
  let published := ((if s.measurement.admits x then store x else skip) s).1
  have checked : ∃ measurement thresholds, (checkThresholds (record x published).1).1 =
      { s with
        measurement := measurement
        thresholds := thresholds
        tally := s.tally.map (·.record x) } := by
    rw [checkThresholds_fst]
    simp only [published]
    split <;> split <;> exact ⟨_, _, rfl⟩
  obtain ⟨measurement, thresholds, checked⟩ := checked
  refine ⟨measurement, thresholds, ?_⟩
  change (recover x (checkThresholds (record x published).1).1).1 = _
  rw [checked]
  simp only [recover]
  split
  · rfl
  · rw [andThen_fst, noteAvailable_fst, noteFunctional_fst]

/-- What a reading says of the health. -/
theorem health_feed (x : Float) (free : s.overridden = false) (rest : s.internal = false) :
    (feed power x s).1.health =
      if s.isReadable power then
        if x.isNaN then s.health else (s.health.setFunctional true).setAvailable true
      else s.health.setAvailable false := by
  cases readable : s.isReadable power with
  | false =>
      rw [feed_of_unreadable x free rest readable, andThen_fst, noteAvailable_fst]
      rfl
  | true =>
      obtain ⟨measurement, thresholds, fed⟩ := feed_of_readable_fst x free rest readable
      rw [fed]
      rfl

/-- What a reading says to the statistics: nothing under an override or without power. -/
theorem tally_feed (x : Float) (rest : s.internal = false) :
    (feed power x s).1.tally = if !s.overridden && s.isReadable power then
      s.tally.map (·.record x) else s.tally := by
  cases free : s.overridden with
  | true =>
      rw [feed_of_overridden x free]
      rfl
  | false =>
      cases readable : s.isReadable power with
      | false =>
          rw [feed_of_unreadable x free rest readable, andThen_fst, noteAvailable_fst]
          rfl
      | true =>
          obtain ⟨measurement, thresholds, fed⟩ := feed_of_readable_fst x free rest readable
          rw [fed]
          rfl

end Readings

/-! ## Failed reads -/

section FailedReads

variable {power : PowerStatus} {s : Sensor}

/-- A failed read is counted, and the one that reaches the limit says that the sensor is broken. -/
theorem countError_of_readable (readable : s.isReadable power = true) :
    countError power s =
      if s.health.errors + 1 = s.health.limit then
        markFunctional power false { s with health := s.health.countError }
      else ({ s with health := s.health.countError }, []) := by
  simp only [countError]
  rw [if_pos readable]
  simp only [Health.errorOutcome]
  by_cases beyond : s.health.limit ≤ s.health.errors
  · have full : s.health.countError = s.health := if_pos beyond
    rw [if_pos beyond, if_neg (by omega), full]
    rfl
  · rw [if_neg beyond]
    by_cases reaches : s.health.errors + 1 = s.health.limit
    · rw [if_pos reaches, if_pos reaches]
      rfl
    · rw [if_neg reaches, if_neg reaches]
      rfl

/-- Without power a failed read is not counted. -/
theorem countError_of_unreadable (unreadable : s.isReadable power = false) :
    countError power s = noteAvailable false s := by
  simp only [countError]
  rw [unreadable]
  rfl

end FailedReads

end Act

/-! ## Upkeep -/

/-- The operation brings the sensor no value, and its hook is not replaced. -/
def Op.isUpkeep : Op → Bool
  | .feed _ | .write _ | .setHook _ => false
  | _ => true

/-- **Upkeep keeps the value or loses it.** -/
theorem value_perform (c : Conditions) {op : Op} (upkeep : op.isUpkeep = true) (s : Sensor) :
    (s.perform c op).sensor.value = s.value ∨ (s.perform c op).sensor.value.isNaN = true := by
  have checks : ∀ {op : Op}, op.isUpkeep = true → op.evaluates = true → op = .checkThresholds := by
    intro op upkeep evaluates
    cases op with
    | checkThresholds => rfl
    | feed x | write x | setHook hook => cases upkeep
    | _ => cases evaluates
  cases perform_turn c op s with
  | kept thresholds value => exact value
  | evaluated asked | unheeded asked =>
      obtain rfl := checks upkeep asked
      exact Or.inl (Act.aside_checkThresholds s).value
  | edited asked accepted value => exact Or.inr value
  | adopted asked defined swapped value => exact Or.inr value

end SensorMonitor.Sensor
