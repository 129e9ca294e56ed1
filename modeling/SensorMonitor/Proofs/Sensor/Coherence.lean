/-
# Proofs.Sensor.Coherence -- alarms agree with the value

An operation does one of a few things to the value and the thresholds of a sensor
(`Turn`, `perform_turn`): it keeps the thresholds, with the value or without; it puts the
new value to them; or it edits or replaces them and forgets the value.  Hence, as long as
the sensor takes part in alarms, a value that is a number agrees with every alarm
(`run_coherent`), and an alarm turns only when a number is put to it (`fate_perform`).
Both stand together in `alarms_cohere`.
-/
import SensorMonitor.Proofs.Sensor.Installation

namespace SensorMonitor

set_option autoImplicit false

namespace Sensor

/-! ## Readings and writes -/

namespace Act

theorem setOwnValue_fst (x : Float) (s : Sensor) : (setOwnValue x s).1 =
    if s.overridden then { s with internal := false }
    else { s with internal := false, measurement := s.measurement.withValue x } := by
  unfold setOwnValue setValue
  rw [andThen_fst, andThen_fst]
  cases overridden : s.overridden <;>
    simp [change, overridden, skip, store, andThen, publish, share]

/-- A reading that is news becomes the value. -/
theorem publishReading_fst (x : Float) {s : Sensor} (free : s.overridden = false) :
    (publishReading x s).1.value = (if s.measurement.admits x then x else s.value) ∧
      (publishReading x s).1.thresholds = s.thresholds ∧
      (publishReading x s).1.participates = s.participates := by
  simp only [publishReading]
  split
  · rw [setOwnValue_fst, free]
    exact ⟨rfl, rfl, rfl⟩
  · exact ⟨rfl, rfl, rfl⟩

theorem admits_of_isNaN (m : Measurement) {x : Float} (lost : x.isNaN = true) :
    m.admits x = true := by
  rw [Measurement.admits, Measurement.isNews, lost, Bool.or_true, Bool.true_or]

theorem recover_fst (x : Float) (s : Sensor) :
    (recover x s).1.value = s.value ∧ (recover x s).1.thresholds = s.thresholds := by
  simp only [recover]
  split
  · exact ⟨rfl, rfl⟩
  · rw [andThen_fst, noteAvailable_fst, noteFunctional_fst]
    exact ⟨rfl, rfl⟩

theorem checkThresholds_spec (s : Sensor) : (checkThresholds s).1.value = s.value ∧
    (checkThresholds s).1.thresholds =
      if s.participates then s.thresholds.evaluate s.value else s.thresholds := by
  rw [checkThresholds_fst]
  split <;> exact ⟨rfl, rfl⟩

/-- A reading of a sensor with power: what is published is put to the thresholds. -/
theorem feed_readable {power : PowerStatus} (x : Float) {s : Sensor}
    (free : s.overridden = false) (readable : s.isReadable power = true) :
    (feed power x s).1.value = (if s.measurement.admits x then x else s.value) ∧
      (feed power x s).1.thresholds =
        if s.participates then s.thresholds.evaluate (feed power x s).1.value
        else s.thresholds := by
  obtain ⟨value, thresholds, participates⟩ := publishReading_fst x free
  let published := (publishReading x s).1
  let recorded := (record x published).1
  have fed : (feed power x s).1 = (recover x (checkThresholds recorded).1).1 := by
    simp only [feed]
    rw [free, readable]
    rfl
  obtain ⟨recovered, recovered'⟩ := recover_fst x (checkThresholds recorded).1
  obtain ⟨checked, checked'⟩ := checkThresholds_spec recorded
  have same : recorded.thresholds = s.thresholds := thresholds
  have same' : recorded.participates = s.participates := participates
  rw [fed, recovered, recovered', checked, checked', same, same']
  exact ⟨value, rfl⟩

/-- A reading of a sensor without power takes the value away. -/
theorem feed_unreadable {power : PowerStatus} (x : Float) {s : Sensor}
    (free : s.overridden = false) (unreadable : s.isReadable power = false) :
    (feed power x s).1.value = Number.nan ∧ (feed power x s).1.thresholds = s.thresholds := by
  have fed : (feed power x s).1 = (publishReading Number.nan (noteAvailable false s).1).1 := by
    simp only [feed]
    rw [free, unreadable]
    rfl
  have free' : (noteAvailable false s).1.overridden = false := by
    rw [noteAvailable_fst]
    exact free
  obtain ⟨value, thresholds, -⟩ := publishReading_fst Number.nan free'
  rw [fed, value, thresholds, admits_of_isNaN _ Number.isNaN_nan, noteAvailable_fst]
  exact ⟨rfl, rfl⟩

/-- Losing a reading leaves the thresholds alone, and the value unless it goes too. -/
theorem feed_lost (power : PowerStatus) {x : Float} {s : Sensor}
    (lost : x.isNaN = true ∨ s.isReadable power = false) :
    (feed power x s).1.thresholds = s.thresholds ∧
      ((feed power x s).1.value = s.value ∨ (feed power x s).1.value.isNaN = true) := by
  cases overridden : s.overridden with
  | true =>
      have same : (feed power x s).1 = s := by
        simp only [feed]
        rw [overridden]
        rfl
      rw [same]
      exact ⟨rfl, Or.inl rfl⟩
  | false =>
      cases readable : s.isReadable power with
      | false =>
          obtain ⟨value, thresholds⟩ := feed_unreadable x overridden readable
          exact ⟨thresholds, Or.inr (by rw [value, Number.isNaN_nan])⟩
      | true =>
          have nan : x.isNaN = true := lost.resolve_right (by rw [readable]; decide)
          obtain ⟨value, thresholds⟩ := feed_readable x overridden readable
          rw [admits_of_isNaN _ nan, if_pos rfl] at value
          rw [value, Thresholds.evaluate_of_isNaN _ nan, ite_self] at thresholds
          exact ⟨thresholds, Or.inr (by rw [value, nan])⟩

end Act

/-! ## Operations -/

/-- What an operation does to the value and the thresholds. -/
inductive Turn (op : Op) (s s' : Sensor) : Prop where
  | kept (thresholds : s'.thresholds = s.thresholds)
      (value : s'.value = s.value ∨ s'.value.isNaN = true)
  | evaluated (asked : op.evaluates = true) (participates : s.participates = true)
      (thresholds : s'.thresholds = s.thresholds.evaluate s'.value)
  | unheeded (asked : op.evaluates = true) (participates : s.participates = false)
      (thresholds : s'.thresholds = s.thresholds)
  | edited {slot : Slot} {x : Float} {edited : Threshold} (asked : op = .setTrigger slot x)
      (accepted : s.thresholds.setTrigger slot x = .ok (s'.thresholds, edited))
      (value : s'.value.isNaN = true)
  | adopted {ts : List Threshold} {next : Thresholds} (asked : op = .replaceThresholds ts)
      (defined : s.definitions ts = .ok next)
      (swapped : s.thresholds.replace? next = some s'.thresholds)
      (value : s'.value.isNaN = true)

theorem Turn.of_participates {op : Op} {s s' : Sensor} (asked : op.evaluates = true)
    (thresholds : s'.thresholds =
      if s.participates then s.thresholds.evaluate s'.value else s.thresholds) :
    Turn op s s' := by
  cases participates : s.participates with
  | true => exact .evaluated asked participates (by rw [thresholds, participates]; rfl)
  | false => exact .unheeded asked participates (by rw [thresholds, participates]; rfl)

theorem Turn.refl (op : Op) (s : Sensor) : Turn op s s := .kept rfl (Or.inl rfl)

theorem turn_feed (c : Conditions) (x : Float) (s : Sensor) :
    Turn (.feed x) s (s.perform c (.feed x)).sensor := by
  change Turn _ s (Act.feed c.power x s).1
  cases lost : s.overridden || !s.isReadable c.power with
  | true =>
      cases readable : s.isReadable c.power with
      | false =>
          obtain ⟨thresholds, value⟩ := Act.feed_lost c.power (x := x) (Or.inr readable)
          exact .kept thresholds value
      | true =>
          have overridden : s.overridden = true := by simpa [readable] using lost
          simp only [Act.feed]
          rw [overridden]
          exact .refl _ s
  | false =>
      obtain ⟨free, readable⟩ := Bool.or_eq_false_iff.1 lost
      exact .of_participates rfl (Act.feed_readable x free (by simpa using readable)).2

/-- Flags of health do not matter to what is kept. -/
theorem turn_lose (op : Op) (power : PowerStatus) (keep : Bool) (s before : Sensor)
    (value : before.value = s.value) (thresholds : before.thresholds = s.thresholds) :
    Turn op s ((if keep then Act.skip else .feed power Number.nan) before).1 := by
  cases keep with
  | true => exact .kept thresholds (Or.inl value)
  | false =>
      obtain ⟨same, lost⟩ := Act.feed_lost power (s := before) (Or.inl Number.isNaN_nan)
      exact .kept (same.trans thresholds) (lost.imp_left fun kept => kept.trans value)

theorem turn_markFunctional (op : Op) (power : PowerStatus) (b : Bool) (s before : Sensor)
    (value : before.value = s.value) (thresholds : before.thresholds = s.thresholds) :
    Turn op s (Act.markFunctional power b before).1 := by
  simp only [Act.markFunctional]
  rw [Act.andThen_fst, Act.noteFunctional_fst]
  exact turn_lose op power b s _ value thresholds

theorem turn_countError (c : Conditions) (s : Sensor) :
    Turn .countError s (s.perform c .countError).sensor := by
  change Turn _ s (Act.countError c.power s).1
  simp only [Act.countError]
  split
  · cases s.health.errorOutcome with
    | counted errors => exact .kept rfl (Or.inl rfl)
    | limitReached => exact turn_markFunctional _ c.power false s _ rfl rfl
    | beyondLimit => exact .refl _ s
  · rw [Act.noteAvailable_fst]
    exact .kept rfl (Or.inl rfl)

theorem turn_write (c : Conditions) (x : Float) (s : Sensor) :
    Turn (.write x) s (s.perform c (.write x)).sensor := by
  change Turn _ s (s.write c.access x).sensor
  simp only [Sensor.write]
  split
  · change Turn _ s (Act.checkThresholds (Act.setValue x s).1).1
    obtain ⟨value, thresholds⟩ := Act.checkThresholds_spec (Act.setValue x s).1
    have same : (Act.setValue x s).1.thresholds = s.thresholds ∧
        (Act.setValue x s).1.participates = s.participates := by
      simp only [Act.setValue]
      split
      · split <;> exact ⟨rfl, rfl⟩
      · exact ⟨rfl, rfl⟩
    refine .of_participates rfl ?_
    rw [thresholds, value, same.1, same.2]
  · exact .refl _ s

/-- **Every operation does one of five things to the value and the thresholds.** -/
theorem perform_turn (c : Conditions) (op : Op) (s : Sensor) :
    Turn op s (s.perform c op).sensor := by
  cases op with
  | feed x => exact turn_feed c x s
  | countError => exact turn_countError c s
  | checkThresholds =>
      obtain ⟨value, thresholds⟩ := Act.checkThresholds_spec s
      exact .of_participates rfl (thresholds.trans (by rw [← value]; rfl))
  | markFunctional b => exact turn_markFunctional _ c.power b s s rfl rfl
  | markAvailable b =>
      change Turn _ s (Act.noteAvailable b s).1
      rw [Act.noteAvailable_fst]
      exact .kept rfl (Or.inl rfl)
  | write x => exact turn_write c x s
  | clearOverride => exact .kept rfl (Or.inr Number.isNaN_nan)
  | setAvailable b =>
      change Turn _ s (Act.setAvailable c.power b s).1
      simp only [Act.setAvailable]
      split
      · exact .refl _ s
      · rw [Act.andThen_fst, Act.noteAvailable_fst]
        exact turn_lose _ c.power b s _ rfl rfl
  | setTrigger slot x =>
      change Turn _ s (s.setTrigger slot x).sensor
      simp only [Sensor.setTrigger]
      split
      · exact .refl _ s
      · next accepted => exact .edited rfl accepted Number.isNaN_nan
  | setBounds min max =>
      change Turn _ s (Act.setMax max (Act.setMin min s).1).1
      obtain ⟨low, movedMin⟩ := Act.setMin_fst s min
      obtain ⟨high, movedMax⟩ := Act.setMax_fst (Act.setMin min s).1 max
      rw [movedMax, movedMin]
      exact .kept rfl (Or.inl rfl)
  | replaceThresholds ts =>
      change Turn _ s (s.replaceThresholds ts).sensor
      simp only [Sensor.replaceThresholds]
      split
      · exact .refl _ s
      · next defined =>
          split
          · exact .refl _ s
          · next swapped => exact .adopted rfl defined swapped Number.isNaN_nan
  | setRaw x | release | participate b | attach key | setHook hook =>
      exact .kept rfl (Or.inl rfl)

/-! ## Coherence -/

/-- The value, if it is a number, agrees with every alarm: beyond the trigger the alarm is
raised, and back behind the hysteresis it is clear. -/
def Coherent (s : Sensor) : Prop :=
  s.value.isNaN = false → ∀ t ∈ s.thresholds.toList,
    (t.slot.direction = .high →
      (t.trigger < s.value → t.active = true) ∧
      (s.value ≤ t.trigger - t.hysteresis → t.active = false)) ∧
    (t.slot.direction = .low →
      (s.value < t.trigger → t.active = true) ∧
      (t.trigger + t.hysteresis ≤ s.value → t.active = false))

/-- Agreement, written out for the two directions. -/
theorem spell_agrees {t : Threshold} {x : Float}
    (agrees : t.Agrees x) (sound : t.Sound) :
    (t.slot.direction = .high →
      (t.trigger < x → t.active = true) ∧ (x ≤ t.trigger - t.hysteresis → t.active = false)) ∧
    (t.slot.direction = .low →
      (x < t.trigger → t.active = true) ∧ (t.trigger + t.hysteresis ≤ x → t.active = false)) := by
  obtain ⟨raised, cleared⟩ := agrees
  simp only [Threshold.raises] at raised
  simp only [Threshold.clears] at cleared
  rw [sound.band_eq] at cleared
  constructor <;> intro direction <;> simp only [direction, decide_eq_true_eq] at raised cleared <;>
    exact ⟨raised, cleared⟩

/-- Of a coherent sensor, the value leaves every alarm as it is. -/
theorem Coherent.latch_eq {s : Sensor} (coherent : s.Coherent) (wf : s.WellFormed)
    (number : s.value.isNaN = false) : ∀ t ∈ s.thresholds.toList, t.latch s.value = t.active := by
  intro t member
  obtain ⟨high, low⟩ := coherent number t member
  refine Threshold.Agrees.latch_eq ⟨?_, ?_⟩
  · intro raised
    simp only [Threshold.raises] at raised
    cases direction : t.slot.direction with
    | high =>
        simp only [direction, decide_eq_true_eq] at raised
        exact (high direction).1 raised
    | low =>
        simp only [direction, decide_eq_true_eq] at raised
        exact (low direction).1 raised
  · intro cleared
    simp only [Threshold.clears, (wf.thresholds.sound t member).band_eq] at cleared
    cases direction : t.slot.direction with
    | high =>
        simp only [direction, decide_eq_true_eq] at cleared
        exact (high direction).2 cleared
    | low =>
        simp only [direction, decide_eq_true_eq] at cleared
        exact (low direction).2 cleared

/-- A value that is not there agrees with every alarm. -/
theorem coherent_of_isNaN {s : Sensor} (lost : s.value.isNaN = true) : s.Coherent := by
  intro number
  rw [lost] at number
  cases number

theorem Coherent.perform {s : Sensor} (coherent : s.Coherent) (wf : s.WellFormed)
    (participates : s.participates = true) (c : Conditions) (op : Op) :
    (s.perform c op).sensor.Coherent := by
  generalize after : (s.perform c op).sensor = s'
  have turn : Turn op s s' := after ▸ perform_turn c op s
  intro number
  have notLost : s'.value.isNaN ≠ true := by rw [number]; decide
  cases turn with
  | kept thresholds value =>
      have value := value.resolve_right notLost
      rw [value] at number
      rw [thresholds, value]
      exact coherent number
  | evaluated asked participates thresholds =>
      intro t member
      rw [thresholds] at member
      obtain ⟨before, present, rfl⟩ := List.mem_map.1 member
      have sound := wf.thresholds.sound before present
      exact spell_agrees (Threshold.evaluate_agrees sound number) ⟨sound.finite, sound.nonneg⟩
  | unheeded asked refused thresholds =>
      rw [participates] at refused
      cases refused
  | edited asked accepted value => exact absurd value notLost
  | adopted asked defined swapped value => exact absurd value notLost

end Sensor

namespace Installation

theorem run_participates {i : Installation} (participates : i.sensor.participates = true)
    {hs : List Happening} (steady : .perform (.participate false) ∉ hs) :
    (i.run hs).sensor.participates = true := by
  obtain ⟨_, -, holds⟩ := i.run_invariant (fun _ s => s.participates = true) hs participates (by
    intro op s effects s' events asked move holds
    refine move.participates ?_ holds
    rintro rfl
    exact steady asked)
  exact holds

theorem run_coherent {i : Installation} (wf : i.sensor.WellFormed)
    (participates : i.sensor.participates = true) (coherent : i.sensor.Coherent)
    {hs : List Happening} (steady : .perform (.participate false) ∉ hs) :
    (i.run hs).sensor.Coherent := by
  induction hs using List.reverseRecOn with
  | nil => exact coherent
  | append_singleton before h ih =>
      have steady' : .perform (.participate false) ∉ before := fun asked =>
        steady (List.mem_append_left _ asked)
      rw [run_append]
      cases h with
      | power status => exact ih steady'
      | access access => exact ih steady'
      | perform op =>
          exact (ih steady').perform (run_wellFormed wf before).1
            (run_participates participates steady') _ op

end Installation

/-! ## Alarms turn on values only -/

/-- A happening that takes a reading away, or brings none. -/
def Happening.losesReading (i : Installation) : Happening → Prop
  | .power _ => True
  | .access _ => True
  | .perform (.feed x) => x.isNaN = true ∨ i.sensor.isReadable i.site.conditions.power = false
  | .perform .countError => True
  | .perform (.markFunctional _) => True
  | .perform (.markAvailable _) => True
  | .perform (.setAvailable _) => True
  | .perform _ => False

/-- What becomes of the alarm of a threshold when something happens. -/
inductive Fate (h : Happening) (t : Threshold) (s' : Sensor) : Prop where
  | stays {t' : Threshold} (present : t' ∈ s'.thresholds.toList) (slot : t'.slot = t.slot)
      (active : t'.active = t.active)
  | follows {op : Sensor.Op} {t' : Threshold} (asked : h = .perform op)
      (evaluates : op.evaluates = true) (number : s'.value.isNaN = false)
      (present : t' ∈ s'.thresholds.toList) (slot : t'.slot = t.slot)
      (active : t'.active = t.latch s'.value)
  | goes {ts : List Threshold} (asked : h = .perform (.replaceThresholds ts))
      (absent : ∀ t' ∈ s'.thresholds.toList, t'.slot ≠ t.slot)

theorem fate_perform {c : Conditions} {op : Sensor.Op} {s : Sensor} (wf : s.WellFormed)
    {t : Threshold} (member : t ∈ s.thresholds.toList) :
    Fate (.perform op) t (s.perform c op).sensor := by
  generalize after : (s.perform c op).sensor = s'
  have turn : Sensor.Turn op s s' := after ▸ Sensor.perform_turn c op s
  have found := (Thresholds.get?_eq_some_iff wf.thresholds.ordered t.slot t).2 ⟨member, rfl⟩
  cases turn with
  | kept thresholds value => exact .stays (thresholds ▸ member) rfl rfl
  | evaluated asked participates thresholds =>
      cases number : s'.value.isNaN with
      | true =>
          rw [Thresholds.evaluate_of_isNaN _ number] at thresholds
          exact .stays (thresholds ▸ member) rfl rfl
      | false =>
          have present : t.evaluate s'.value ∈ s'.thresholds.toList := by
            rw [thresholds]
            exact List.mem_map_of_mem member
          exact .follows rfl asked number present rfl rfl
  | unheeded asked participates thresholds => exact .stays (thresholds ▸ member) rfl rfl
  | @edited slot x edited asked accepted value =>
      have kept := Thresholds.get?_setTrigger accepted t.slot
      rw [found] at kept
      obtain ⟨present, same⟩ := Thresholds.get?_slot kept
      refine .stays present same ?_
      split <;> rfl
  | @adopted ts next asked defined swapped value =>
      have kept := Thresholds.get?_inheritAlarms s.thresholds next t.slot
      rw [← Thresholds.replace?_eq_some swapped, found] at kept
      cases there : next.get? t.slot with
      | none =>
          rw [there] at kept
          exact .goes (congrArg Happening.perform asked) ((Thresholds.get?_eq_none_iff _ _).1 kept)
      | some t' =>
          rw [there] at kept
          obtain ⟨present, same⟩ := Thresholds.get?_slot kept
          exact .stays present same rfl

/-- Losing a reading turns no alarm. -/
theorem thresholds_of_losesReading {i : Installation} {h : Happening} (lost : h.losesReading i) :
    (i.step h).sensor.thresholds = i.sensor.thresholds := by
  cases h with
  | power status => rfl
  | access access => rfl
  | perform op =>
      have turn := Sensor.perform_turn i.site.conditions op i.sensor
      cases op with
      | feed x => exact (Sensor.Act.feed_lost _ lost).1
      | countError | markFunctional b | markAvailable b | setAvailable b =>
          cases turn with
          | kept thresholds value => exact thresholds
          | evaluated asked | unheeded asked | edited asked | adopted asked => cases asked
      | setRaw x | checkThresholds | write x | clearOverride | release | setTrigger slot x
      | setBounds min max | replaceThresholds ts | participate b | attach key | setHook hook =>
          exact lost.elim

/-- **Alarms agree with the value.**  While the sensor takes part in alarms, the value of
every run agrees with every alarm.  An alarm turns only where a number is put to it, and a
lost reading leaves all of them alone. -/
theorem alarms_cohere (site : Site) (d : Definition) (i : Installation) (hs : List Happening)
    (made : Installation.make site d = .ok i) :
    (.perform (.participate false) ∉ hs → (i.run hs).sensor.Coherent) ∧
      (∀ h, ∀ t ∈ (i.run hs).sensor.thresholds.toList,
        Fate h t ((i.run hs).step h).sensor) ∧
      ∀ h, h.losesReading (i.run hs) →
        ((i.run hs).step h).sensor.thresholds = (i.run hs).sensor.thresholds := by
  obtain ⟨wf, participates, value, -⟩ :=
    (Installation.make_eq_ok made).1.fresh
  have coherent : i.sensor.Coherent := Sensor.coherent_of_isNaN (by rw [value, Number.isNaN_nan])
  refine ⟨Installation.run_coherent wf participates coherent, ?_, ?_⟩
  · intro h t member
    cases h with
    | power status => exact .stays member rfl rfl
    | access access => exact .stays member rfl rfl
    | perform op => exact fate_perform (Installation.run_wellFormed wf hs).1 member
  · intro h lost
    exact thresholds_of_losesReading lost

theorem alarms_cohere_sample :
    ∃ i, Installation.make .fresh Installation.sampleDefinition = .ok i ∧
      (i.run Installation.sampleRun).sensor.Coherent ∧
      ∀ h, ∀ t ∈ (i.run Installation.sampleRun).sensor.thresholds.toList,
        Fate h t ((i.run Installation.sampleRun).step h).sensor := by
  obtain ⟨i, made⟩ := Installation.exists_sample
  obtain ⟨coherent, fate, -⟩ :=
    alarms_cohere .fresh Installation.sampleDefinition i Installation.sampleRun made
  exact ⟨i, made, coherent (by simp [Installation.sampleRun]), fate⟩

end SensorMonitor
