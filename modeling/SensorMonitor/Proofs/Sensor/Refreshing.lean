/-
# Proofs.Sensor.Refreshing -- the next reading after an edit is compared afresh

An accepted edit of a trigger, definitions that replace others and the end of an override
make a sensor forget its value (`value_of_renews`), and only a number that is shown gives it
one again (`Installation.lost_until_shown`): not a failed read, not a moved bound, not a
further edit, not a write of the availability.  So whatever comes in between, the next reading
is told even if it is the one that was published last, and every alarm is put to it under the
thresholds then in force (`Installation.next_reading_is_fresh`).
-/
import SensorMonitor.Proofs.Sensor.Filtering
import SensorMonitor.Proofs.Thresholds.Latching

namespace SensorMonitor

set_option autoImplicit false

/-! ## What a reading makes of an alarm -/

/-- The threshold after a reading: its definition stays, and its alarm is raised by a reading
beyond the trigger and then stays until one is back behind the hysteresis. -/
structure Threshold.Answers (x : Float) (before after : Threshold) : Prop where
  definition : after = { before with active := after.active }
  alarm : after.active = true ↔
    match before.slot.direction with
    | .high => before.trigger < x ∨
        before.active = true ∧ ¬ x ≤ before.trigger - before.hysteresis
    | .low => x < before.trigger ∨
        before.active = true ∧ ¬ before.trigger + before.hysteresis ≤ x

theorem Threshold.Sound.answers {t : Threshold} (sound : t.Sound) (x : Float) :
    Threshold.Answers x t (t.evaluate x) := by
  refine ⟨rfl, ?_⟩
  change t.latch x = true ↔ _
  rw [sound.usable.latch_eq, Bool.or_eq_true, Bool.and_eq_true, Bool.not_eq_true']
  cases direction : t.slot.direction <;>
    simp only [raises, clears, direction, sound.band_eq, decide_eq_true_eq,
      decide_eq_false_iff_not]

namespace Thresholds

/-- What is told of the alarms that differ between two states of the same thresholds. -/
def turns (path : String) (before after : Thresholds) : List Event :=
  (before.toList.zip after.toList).filterMap fun (t, t') =>
    if t'.active = t.active then none
    else some (.changed path (.alarm t'.slot.alarmProperty t'.active))

theorem turns_map (path : String) (ts : Thresholds) (f : Threshold → Threshold) :
    ts.turns path ⟨ts.toList.map f⟩ = ts.toList.filterMap fun t =>
      if (f t).active = t.active then none
      else some (.changed path (.alarm (f t).slot.alarmProperty (f t).active)) := by
  have paired : ts.toList.zip (ts.toList.map f) = ts.toList.map fun t => (t, f t) := by
    have both := List.zip_map' (f := id) (g := f) (l := ts.toList)
    rwa [List.map_id] at both
  simp only [turns]
  rw [paired, List.filterMap_map]
  rfl

theorem turns_self (path : String) (ts : Thresholds) : ts.turns path ts = [] := by
  have same := ts.turns_map path id
  rw [List.map_id] at same
  rw [same]
  simp

/-- The changes that a reading makes are the alarms that differ after it. -/
theorem turns_evaluate (path : String) (ts : Thresholds) (x : Float) :
    ts.turns path (ts.evaluate x) =
      (ts.edges x).map fun edge => .changed path (Sensor.Act.alarmOf edge) := by
  rw [evaluate, turns_map, edges, List.map_filterMap]
  congr 1
  funext t
  rw [Threshold.edge?]
  change (if t.latch x = t.active then none else _) = _
  split <;> rfl

end Thresholds

namespace Sensor

/-! ## What makes the next reading news -/

/-- The operation ends an override or edits the thresholds. -/
def Op.renews (c : Conditions) (s : Sensor) : Op → Bool
  | .clearOverride => true
  | op => op.edits c s

/-- **An edit and the end of an override make a sensor forget its value.** -/
theorem value_of_renews {c : Conditions} {op : Op} {s : Sensor} (renews : op.renews c s = true) :
    (s.perform c op).sensor.value = Number.nan := by
  cases op with
  | clearOverride => rfl
  | setTrigger slot x =>
      have replied : (s.setTrigger slot x).reply = .done := of_decide_eq_true renews
      change (s.setTrigger slot x).sensor.value = Number.nan
      obtain ⟨failure, refused⟩ | ⟨thresholds, edited, accepted⟩ := setTrigger_cases slot x s
      · rw [refused] at replied
        cases replied
      · rw [accepted]
        rfl
  | replaceThresholds ts =>
      have replied : (s.replaceThresholds ts).reply = .changed true := of_decide_eq_true renews
      change (s.replaceThresholds ts).sensor.value = Number.nan
      obtain ⟨failure, refused⟩ | same | ⟨abandoned, thresholds, adopted⟩ :=
        replaceThresholds_cases ts s
      · rw [refused] at replied
        cases replied
      · rw [same] at replied
        cases replied
      · rw [adopted]
        rfl
  | feed x | setRaw x | countError | checkThresholds | markFunctional b | markAvailable b
  | write x | release | setAvailable b | setBounds min max | participate b | attach key
  | setHook hook => cases renews

end Sensor

/-- The event shows a value that is a number. -/
def Event.isNumber : Event → Bool
  | .changed _ (.value x) => !x.isNaN
  | _ => false

namespace Sensor

variable {op : Op} {s s' : Sensor} {effects : List Effect}

/-- Only a number that is shown gives a value to a sensor that has none. -/
theorem Move.lost (move : Move op s effects s') (lost : s.value.isNaN = true)
    (unshown : ∀ e ∈ announced effects, e.isNumber = false) : s'.value.isNaN = true := by
  cases move with
  | silent alike quiet =>
      have same : s'.value = s.value := congrArg Properties.value alike.properties
      rwa [same]
  | store x =>
      rw [Follower.announced_store] at unshown
      have number : (!x.isNaN) = false := unshown _ List.mem_cons_self
      rwa [Bool.not_eq_false'] at number
  | forget | edit asked accepted | adopt asked defined swapped => exact Number.isNaN_nan
  | functional b => rwa [Act.noteFunctional_fst]
  | available b => rwa [Act.noteAvailable_fst]
  | min x =>
      obtain ⟨bound, moved⟩ := Act.setMin_fst s x
      rwa [moved]
  | max x =>
      obtain ⟨bound, moved⟩ := Act.setMax_fst s x
      rwa [moved]
  | evaluate =>
      rw [Act.checkThresholds_fst]
      split <;> exact lost
  | participate asked => exact lost

theorem admits_of_lost {m : Measurement} (lost : m.value.isNaN = true) (x : Float) :
    m.admits x = true := by
  rw [Measurement.admits, Measurement.isNews, lost, Bool.true_or, Bool.true_or]

namespace Act

variable {power : PowerStatus} {x : Float}

/-- Putting the value to the thresholds tells the alarms that differ after it. -/
theorem announced_checkThresholds (s : Sensor) : announced (checkThresholds s).2 =
    s.thresholds.turns s.identity.path (checkThresholds s).1.thresholds := by
  simp only [checkThresholds]
  split
  · rw [publishAll, Thresholds.turns_evaluate]
    simp [announced, Effect.event?, List.filterMap_map, Function.comp_def]
  · exact (s.thresholds.turns_self s.identity.path).symm

theorem announced_recover (x : Float) (s : Sensor) :
    announced (recover x s).2 = if x.isNaN then [] else s.recoveries := by
  cases number : x.isNaN with
  | true =>
      rw [recover, number]
      rfl
  | false =>
      rw [recover_of_number number]
      simp [announced, Effect.event?, List.filterMap_map, Function.comp_def]

/-- **A reading of a sensor without a value** is told, then every alarm that it turns, and then
that the sensor is itself again if the reading is a number. -/
theorem announced_feed_of_lost (free : s.overridden = false) (rest : s.internal = false)
    (readable : s.isReadable power = true) (lost : s.value.isNaN = true) :
    announced (feed power x s).2 =
      .changed s.identity.path (.value x) ::
        (s.thresholds.turns s.identity.path (feed power x s).1.thresholds ++
          if x.isNaN then [] else s.recoveries) := by
  let counted := (record x (store x s).1).1
  let checked := checkThresholds counted
  have fed : feed power x s =
      ((recover x checked.1).1, (store x s).2 ++ [] ++ checked.2 ++ (recover x checked.1).2) := by
    rw [feed_of_readable x free rest readable, admits_of_lost lost, if_pos rfl]
    rfl
  have health : checked.1.recoveries = s.recoveries := by
    simp only [checked, checkThresholds_fst]
    split <;> rfl
  rw [fed, (recover_fst x checked.1).2]
  simp only [announced_append, Follower.announced_store, announced_recover, health]
  rw [announced_checkThresholds counted]
  rfl

end Act

end Sensor

namespace Installation

variable {i : Installation}

/-- **A value that was lost stays lost until a number is shown**, whatever else is done. -/
theorem lost_until_shown (lost : i.sensor.value.isNaN = true) {hs : List Happening}
    (unshown : ∀ e ∈ i.tells hs, e.isNumber = false) : (i.run hs).sensor.value.isNaN = true := by
  let invariant : List Event → Sensor → Prop :=
    fun events s => (∀ e ∈ events, e.isNumber = false) → s.value.isNaN = true
  obtain ⟨events, log, holds⟩ := i.run_invariant invariant hs (fun _ => lost) (by
    intro op s effects s' events _ move holds unshown
    obtain ⟨earlier, now⟩ := List.forall_mem_append.1 unshown
    exact move.lost (holds earlier) now)
  have told : i.tells hs = events := List.append_cancel_left ((i.log_run hs).symm.trans log)
  exact holds (told ▸ unshown)

/-- The reading is told and compared, whatever was published before it: it is the value, it is told
once, its alarms are those of the latch with hysteresis, and an alarm is told just where it
turns. -/
structure Compared (i : Installation) (x : Float) : Prop where
  value : (i.step (.perform (.feed x))).sensor.value = x
  once : (i.tells [.perform (.feed x)]).filter Event.isValue =
    [.changed i.sensor.identity.path (.value x)]
  told : i.tells [.perform (.feed x)] =
    .changed i.sensor.identity.path (.value x) ::
      (i.sensor.thresholds.turns i.sensor.identity.path
          (i.step (.perform (.feed x))).sensor.thresholds ++
        if x.isNaN then [] else i.sensor.recoveries)
  latched : i.sensor.participates = true → List.Forall₂ (Threshold.Answers x)
    i.sensor.thresholds.toList (i.step (.perform (.feed x))).sensor.thresholds.toList
  apart : i.sensor.participates = false →
    (i.step (.perform (.feed x))).sensor.thresholds = i.sensor.thresholds

theorem compared_of_lost (free : i.Free) (wf : i.sensor.WellFormed)
    (readable : i.sensor.isReadable i.site.conditions.power = true)
    (lost : i.sensor.value.isNaN = true) (x : Float) : i.Compared x := by
  have admitted : i.sensor.measurement.admits x = true := Sensor.admits_of_lost lost x
  obtain ⟨once, value⟩ := feed_step free (x := x) readable
  rw [admitted, if_pos rfl] at once value
  obtain ⟨-, thresholds⟩ := Sensor.Act.feed_readable x free.overridden readable
  change (i.step (.perform (.feed x))).sensor.thresholds =
    if i.sensor.participates then
      i.sensor.thresholds.evaluate (i.step (.perform (.feed x))).sensor.value
    else i.sensor.thresholds at thresholds
  refine ⟨value, once, ?_, ?_, ?_⟩
  · rw [tells_perform]
    exact Sensor.Act.announced_feed_of_lost free.overridden free.internal readable lost
  · intro participates
    rw [thresholds, if_pos participates, value]
    refine List.forall₂_map_right_iff.2 (List.forall₂_same.2 ?_)
    exact fun t member => (wf.thresholds.sound t member).answers x
  · intro idle
    rw [thresholds, if_neg (by rw [idle]; decide)]

/-- **The next reading after an edit is compared afresh.**  After any run, once a trigger was
edited, definitions were replaced or an override was ended, anything may follow that shows no
number: then the next reading with power and without an override is told once, even if it is the
one that was published last, and put to the thresholds then in force. -/
theorem next_reading_is_fresh (site : Site) (d : Definition) (i : Installation)
    (before gap : List Happening) (op : Sensor.Op) (made : make site d = .ok i)
    (renewed : (i.run before).isOf Sensor.Op.renews (.perform op) = true)
    (unshown : ∀ e ∈ ((i.run before).step (.perform op)).tells gap, e.isNumber = false)
    (free : (i.run (before ++ .perform op :: gap)).sensor.overridden = false)
    (readable : (i.run (before ++ .perform op :: gap)).sensor.isReadable
      (i.run (before ++ .perform op :: gap)).site.conditions.power = true) (x : Float) :
    (i.run (before ++ .perform op :: gap)).Compared x := by
  have defined := (make_eq_ok made).1
  have internal := run_internal defined.start.2.1
    (before ++ .perform op :: gap)
  have wf := (run_wellFormed defined.fresh.wellFormed
    (before ++ .perform op :: gap)).1
  have forgotten : ((i.run before).step (.perform op)).sensor.value = Number.nan :=
    Sensor.value_of_renews renewed
  have lost : (i.run (before ++ .perform op :: gap)).sensor.value.isNaN = true := by
    rw [run_append]
    exact lost_until_shown (i := (i.run before).step (.perform op))
      (by rw [forgotten, Number.isNaN_nan]) unshown
  exact compared_of_lost ⟨free, internal⟩ wf readable lost x

/-- An alarm was raised. -/
def raisedSample : List Happening := [.power ⟨true, false⟩, .perform (.feed 96)]

/-- A failed read, moved bounds, a loss that is told and a moment without power. -/
def quietSample : List Happening :=
  [.perform .countError, .perform (.setBounds (-10) 110), .perform (.setAvailable false),
    .power .off, .perform .countError, .power ⟨true, false⟩]

/-- The trigger was moved above the reading, which then comes again and clears the alarm. -/
theorem next_reading_is_fresh_sample : ∃ i, make .fresh editedDefinition = .ok i ∧
    let edit : Sensor.Op := .setTrigger ⟨.warning, .high⟩ 99
    let now := i.run (raisedSample ++ .perform edit :: quietSample)
    (i.run raisedSample).isOf Sensor.Op.renews (.perform edit) = true ∧
      (∀ e ∈ ((i.run raisedSample).step (.perform edit)).tells quietSample, e.isNumber = false) ∧
      now.sensor.overridden = false ∧
      now.sensor.isReadable now.site.conditions.power = true ∧
      now.Compared 96 := by
  let edit : Sensor.Op := .setTrigger ⟨.warning, .high⟩ 99
  have found : (make .fresh editedDefinition).toOption.any (fun i =>
      let now := i.run (raisedSample ++ .perform edit :: quietSample)
      (i.run raisedSample).isOf Sensor.Op.renews (.perform edit) &&
        (((i.run raisedSample).step (.perform edit)).tells quietSample).all (!·.isNumber) &&
        !now.sensor.overridden && now.sensor.isReadable now.site.conditions.power) = true := by
    decide +kernel
  obtain ⟨i, made, found⟩ := exists_made found
  simp only [Bool.and_eq_true, Bool.not_eq_true', List.all_eq_true] at found
  obtain ⟨⟨⟨renewed, unshown⟩, free⟩, readable⟩ := found
  exact ⟨i, made, renewed, unshown, free, readable,
    next_reading_is_fresh .fresh editedDefinition i raisedSample quietSample edit made renewed
      unshown free readable 96⟩

end Installation

end SensorMonitor
