/-
# Proofs.Sensor.Staleness -- what leaves a number on a sensor that is out of order

A reading settles a sensor (`settled_feed`): it is overridden, or has no value, or works and
is available.  So do most operations, and the others spare what matters (`Course`,
`perform_course`), with two exceptions.  A sensor can be declared unavailable and keep its
value, which happens to one that is told of a failed read while it is without power; and an
override can be released and leave its value behind.  These two, and nothing else, leave a
number on a sensor that is unavailable (`turns_stale_iff`).
-/
import SensorMonitor.Proofs.Sensor.Override

namespace SensorMonitor

set_option autoImplicit false

namespace Sensor

/-! ## Settled sensors -/

/-- Somebody else answers for the value, or there is none, or nothing is wrong. -/
inductive Settled (s : Sensor) : Prop where
  | overridden (overridden : s.overridden = true)
  | lost (lost : s.value.isNaN = true)
  | well (functional : s.health.functional = true) (available : s.health.available = true)

/-- The value and an override were left alone, and no flag of the health went down. -/
structure Spared (s s' : Sensor) : Prop where
  value : s'.value = s.value
  overridden : s'.overridden = s.overridden
  functional : s'.health.functional = false → s.health.functional = false
  available : s'.health.available = false → s.health.available = false

theorem Spared.refl (s : Sensor) : Spared s s := ⟨rfl, rfl, id, id⟩

/-- The operation makes the sensor unavailable and leaves the value alone. -/
def Op.drops (c : Conditions) (s : Sensor) : Op → Bool
  | .countError => !s.isReadable c.power
  | .markAvailable b => !b
  | _ => false

/-- What an operation does to a sensor, as far as it matters to what stands on it. -/
inductive Course (c : Conditions) (op : Op) (s s' : Sensor) : Prop where
  | settled (settled : Settled s')
  | spared (spared : Spared s s')
  | dropped (drops : op.drops c s = true)
      (eq : s' = { s with health := s.health.setAvailable false })
  | released (asked : op = .release) (eq : s' = { s with overridden := false })

section Acts

variable {s : Sensor}

/-- **A reading settles a sensor**, whatever it reads and whether there is power. -/
theorem settled_feed (power : PowerStatus) (x : Float) (rest : s.internal = false) :
    Settled (Act.feed power x s).1 := by
  cases free : s.overridden with
  | true =>
      rw [Act.feed_of_overridden x free]
      exact .overridden free
  | false =>
      cases readable : s.isReadable power with
      | false =>
          refine .lost ?_
          rw [(Act.feed_unreadable x free readable).1, Number.isNaN_nan]
      | true =>
          cases number : x.isNaN with
          | true =>
              refine .lost ?_
              rw [(Act.feed_readable x free readable).1, Act.admits_of_isNaN _ number]
              exact number
          | false =>
              have health : (Act.feed power x s).1.health = _ := Act.health_feed x free rest
              rw [readable, number] at health
              exact .well (by rw [health]; rfl) (by rw [health]; rfl)

theorem settled_markFunctional (power : PowerStatus) (rest : s.internal = false) :
    Settled (Act.markFunctional power false s).1 :=
  settled_feed power Number.nan ((Act.aside_noteFunctional s false).internal.trans rest)

theorem course_countError (c : Conditions) (rest : s.internal = false) :
    Course c .countError s (Act.countError c.power s).1 := by
  cases readable : s.isReadable c.power with
  | true =>
      rw [Act.countError_of_readable readable]
      split
      · exact .settled (settled_markFunctional c.power rest)
      · exact .spared ⟨rfl, rfl, s.health.countError_functional.symm.trans,
          s.health.countError_available.symm.trans⟩
  | false =>
      rw [Act.countError_of_unreadable readable, Act.noteAvailable_fst]
      exact .dropped (congrArg Bool.not readable) rfl

theorem course_setAvailable (c : Conditions) (b : Bool) (rest : s.internal = false) :
    Course c (.setAvailable b) s (Act.setAvailable c.power b s).1 := by
  simp only [Act.setAvailable]
  split
  · exact .spared (.refl s)
  · cases b with
    | true =>
        refine .spared ?_
        rw [Act.andThen_fst, Act.noteAvailable_fst]
        refine ⟨rfl, rfl, id, ?_⟩
        intro down
        cases down
    | false =>
        have noted := (Act.aside_noteAvailable s false).internal
        exact .settled (settled_feed c.power Number.nan (noted.trans rest))

end Acts

variable {c : Conditions} {op : Op} {s : Sensor}

/-- **An operation settles a sensor or spares it**, unless it drops it or releases an override. -/
theorem perform_course (c : Conditions) (op : Op) (rest : s.internal = false) :
    Course c op s (s.perform c op).sensor := by
  cases op with
  | feed x => exact .settled (settled_feed c.power x rest)
  | countError => exact course_countError c rest
  | checkThresholds =>
      refine .spared ?_
      change Spared s (Act.checkThresholds s).1
      rw [Act.checkThresholds_fst]
      split <;> exact ⟨rfl, rfl, id, id⟩
  | markFunctional b =>
      cases b with
      | true =>
          refine .spared ?_
          change Spared s (Act.noteFunctional true s).1
          rw [Act.noteFunctional_fst]
          refine ⟨rfl, rfl, ?_, id⟩
          intro down
          cases down
      | false => exact .settled (settled_markFunctional c.power rest)
  | markAvailable b =>
      change Course c _ s (Act.noteAvailable b s).1
      rw [Act.noteAvailable_fst]
      cases b with
      | true =>
          refine .spared ⟨rfl, rfl, id, ?_⟩
          intro down
          cases down
      | false => exact .dropped rfl rfl
  | write x =>
      cases accepted : (Op.write x).overrides c s with
      | true => exact .settled (.overridden (write_spec rest accepted).2.1)
      | false =>
          rw [overrides_write] at accepted
          simp only [perform, write]
          rw [accepted]
          exact .spared (.refl s)
  | clearOverride => exact .settled (.lost Number.isNaN_nan)
  | release => exact .released rfl rfl
  | setAvailable b => exact course_setAvailable c b rest
  | setTrigger slot x =>
      change Course c _ s (s.setTrigger slot x).sensor
      obtain ⟨failure, refused⟩ | ⟨thresholds, edited, accepted⟩ := setTrigger_cases slot x s
      · rw [refused]
        exact .spared (.refl s)
      · rw [accepted]
        exact .settled (.lost Number.isNaN_nan)
  | setBounds min max =>
      change Course c _ s (Act.setMax max (Act.setMin min s).1).1
      obtain ⟨low, movedMin⟩ := Act.setMin_fst s min
      obtain ⟨high, movedMax⟩ := Act.setMax_fst (Act.setMin min s).1 max
      rw [movedMax, movedMin]
      exact .spared ⟨rfl, rfl, id, id⟩
  | replaceThresholds ts =>
      change Course c _ s (s.replaceThresholds ts).sensor
      obtain ⟨failure, refused⟩ | same | ⟨abandoned, thresholds, accepted⟩ :=
        replaceThresholds_cases ts s
      · rw [refused]
        exact .spared (.refl s)
      · rw [same]
        exact .spared (.refl s)
      · rw [accepted]
        exact .settled (.lost Number.isNaN_nan)
  | setRaw x | participate b | attach key | setHook hook => exact .spared ⟨rfl, rfl, id, id⟩

/-! ## Stale values -/

/-- The sensor is unavailable, nobody overrides it, and yet it has a number for a value. -/
def isStale (s : Sensor) : Bool := !s.health.available && !s.overridden && !s.value.isNaN

/-- The operation leaves a number on a sensor that is unavailable: a failed read without power
is counted, or it is declared unavailable, and the number stays; or an override of an
unavailable sensor is released. -/
def Op.leavesStale (c : Conditions) (s : Sensor) : Op → Bool
  | .countError => !s.isReadable c.power && !s.overridden && !s.value.isNaN
  | .markAvailable b => !b && !s.overridden && !s.value.isNaN
  | .release => s.overridden && !s.health.available && !s.value.isNaN
  | _ => false

theorem Settled.isStale {s : Sensor} (settled : s.Settled) : s.isStale = false := by
  cases settled with
  | overridden overridden => simp [Sensor.isStale, overridden]
  | lost lost => rw [Sensor.isStale, lost, Bool.not_true, Bool.and_false]
  | well functional available => simp [Sensor.isStale, available]

theorem Spared.isStale {s s' : Sensor} (spared : Spared s s') (fresh : s.isStale = false) :
    s'.isStale = false := by
  rw [Sensor.isStale, spared.value, spared.overridden]
  cases available : s'.health.available with
  | true => rfl
  | false =>
      rw [Sensor.isStale, spared.available available] at fresh
      exact fresh

theorem isStale_of_leavesStale (leaves : op.leavesStale c s = true) :
    (s.perform c op).sensor.isStale = true := by
  cases op with
  | countError =>
      simp only [Op.leavesStale, Bool.and_eq_true, Bool.not_eq_true'] at leaves
      obtain ⟨⟨unreadable, free⟩, number⟩ := leaves
      change (Act.countError c.power s).1.isStale = true
      rw [Act.countError_of_unreadable unreadable, Act.noteAvailable_fst]
      change (!false && !s.overridden && !s.value.isNaN) = true
      rw [free, number]
      rfl
  | markAvailable b =>
      simp only [Op.leavesStale, Bool.and_eq_true, Bool.not_eq_true'] at leaves
      obtain ⟨⟨rfl, free⟩, number⟩ := leaves
      change (Act.noteAvailable false s).1.isStale = true
      rw [Act.noteAvailable_fst]
      change (!false && !s.overridden && !s.value.isNaN) = true
      rw [free, number]
      rfl
  | release =>
      simp only [Op.leavesStale, Bool.and_eq_true, Bool.not_eq_true'] at leaves
      obtain ⟨⟨-, unavailable⟩, number⟩ := leaves
      change (!s.health.available && !false && !s.value.isNaN) = true
      rw [unavailable, number]
      rfl
  | feed x | setRaw x | checkThresholds | markFunctional b | write x | clearOverride
  | setAvailable b | setTrigger slot x | setBounds min max | replaceThresholds ts | participate b
  | attach key | setHook hook => cases leaves

/-- **What an operation makes of a sensor that is not stale.** -/
theorem isStale_perform (rest : s.internal = false) (fresh : s.isStale = false) :
    (s.perform c op).sensor.isStale = op.leavesStale c s := by
  cases leaves : op.leavesStale c s with
  | true => exact isStale_of_leavesStale leaves
  | false =>
      cases perform_course c op rest with
      | settled settled => exact settled.isStale
      | spared spared => exact spared.isStale fresh
      | dropped drops eq =>
          rw [eq]
          change (!false && !s.overridden && !s.value.isNaN) = false
          cases op with
          | countError | markAvailable b =>
              simp only [Op.drops] at drops
              simp only [Op.leavesStale, drops] at leaves
              exact leaves
          | _ => cases drops
      | released asked eq =>
          subst asked
          rw [eq]
          change (!s.health.available && !false && !s.value.isNaN) = false
          simp only [Op.leavesStale] at leaves
          simp only [isStale] at fresh
          cases overridden : s.overridden with
          | true =>
              rw [overridden] at leaves
              simpa using leaves
          | false =>
              rw [overridden] at fresh
              exact fresh

end Sensor

/-! ## Runs -/

namespace Installation

variable {i : Installation}

theorem isStale_step {h : Happening} (rest : i.sensor.internal = false)
    (fresh : i.sensor.isStale = false) :
    (i.step h).sensor.isStale = i.isOf Sensor.Op.leavesStale h := by
  cases h with
  | power status | access access => exact fresh
  | perform op => exact Sensor.isStale_perform rest fresh

theorem exists_isStale_iff (hs : List Happening) (rest : i.sensor.internal = false)
    (fresh : i.sensor.isStale = false) :
    (∃ before, before <+: hs ∧ (i.run before).sensor.isStale = true) ↔
      i.sees Sensor.Op.leavesStale hs = true := by
  refine exists_prefix_iff_sees Sensor.isStale Sensor.Op.leavesStale
    (fun i => i.sensor.internal = false) ?_ rest fresh
  intro i h _ rest fresh
  exact ⟨run_internal rest [h], isStale_step rest fresh⟩

/-- **When a number stands on an unavailable sensor.**  A run leads to such a state exactly if in
its course a failed read without power is counted while there is a number, or the sensor is
declared unavailable or its override released in the same way.  The next reading, whatever it
is, mends it. -/
theorem turns_stale_iff (site : Site) (d : Definition) (i : Installation) (hs : List Happening)
    (made : make site d = .ok i) :
    ((∃ before, before <+: hs ∧ (i.run before).sensor.isStale = true) ↔
        i.sees Sensor.Op.leavesStale hs = true) ∧
      ∀ x, ((i.run hs).step (.perform (.feed x))).sensor.isStale = false := by
  obtain ⟨-, rest, health⟩ := (make_eq_ok made).1.start
  have fresh : i.sensor.isStale = false := by
    rw [Sensor.isStale, health]
    rfl
  refine ⟨exists_isStale_iff hs rest fresh, ?_⟩
  intro x
  exact (Sensor.settled_feed _ x (run_internal rest hs)).isStale

/-- The power goes after a reading. -/
def outage : List Happening :=
  [.power ⟨true, false⟩, .perform (.feed 42), .power ⟨false, false⟩]

theorem turns_stale_iff_sample : ∃ i, make .fresh sampleDefinition = .ok i ∧
    ¬ ∃ before, before <+: outage ++ [.perform (.feed 43), .perform .countError] ∧
      (i.run before).sensor.isStale = true := by
  have found : (make .fresh sampleDefinition).toOption.any (fun i =>
      !i.sees Sensor.Op.leavesStale
        (outage ++ [.perform (.feed 43), .perform .countError])) = true := by
    decide
  obtain ⟨i, made, found⟩ := exists_made found
  rw [Bool.not_eq_true'] at found
  refine ⟨i, made, ?_⟩
  rw [(turns_stale_iff .fresh sampleDefinition i _ made).1, found]
  decide

/-- Told of a failed read without power, a sensor becomes unavailable and keeps its reading. -/
theorem unpowered_failure_leaves_stale : ∃ i, make .fresh sampleDefinition = .ok i ∧
    let s := (i.run (outage ++ [.perform .countError])).sensor
    s.health.available = false ∧ s.overridden = false ∧ s.value.isNaN = false := by
  have found : (make .fresh sampleDefinition).toOption.any (fun i =>
      (i.run (outage ++ [.perform .countError])).sensor.isStale) = true := by
    decide
  obtain ⟨i, made, stale⟩ := exists_made found
  simp only [Sensor.isStale, Bool.and_eq_true, Bool.not_eq_true'] at stale
  exact ⟨i, made, stale.1.1, stale.1.2, stale.2⟩

end Installation

end SensorMonitor
