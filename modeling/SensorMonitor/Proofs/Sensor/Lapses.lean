/-
# Proofs.Sensor.Lapses -- what a sensor without power can still do

A sensor whose power condition does not hold is told readings and failed reads like any
other.  Whatever it is told, it only loses its value and becomes unavailable
(`lapses_perform`): nothing is counted, no alarm turns, and whether it works stays as it
was.  A reading leaves it without a value, unavailable and with no failed reads behind it
(`lost_perform`), unless it is overridden.
-/
import SensorMonitor.Proofs.Sensor.Coherence

namespace SensorMonitor

set_option autoImplicit false

namespace Sensor

/-! ## Lapses -/

/-- The effect tells of a lost value or of a sensor that became unavailable. -/
inductive Effect.IsLapse (s : Sensor) : Effect → Prop where
  | value {x : Float} (lost : x.isNaN = true) :
      IsLapse s (.announce (.changed s.identity.path (.value x)))
  | unavailable : IsLapse s (.announce (.changed s.identity.path (.available false)))
  | share {key : String} {x : Float} (lost : x.isNaN = true) : IsLapse s (.share key x)

/-- The two sensors are as able to work, raise the same alarms and have counted the same
readings; no failed read was counted in between. -/
structure Idle (s s' : Sensor) : Prop where
  identity : s'.identity = s.identity
  thresholds : s'.thresholds = s.thresholds
  tally : s'.tally = s.tally
  functional : s'.health.functional = s.health.functional
  errors : s'.health.errors ≤ s.health.errors

theorem Idle.refl (s : Sensor) : Idle s s := ⟨rfl, rfl, rfl, rfl, Nat.le_refl _⟩

theorem Idle.trans {s s' s'' : Sensor} (first : Idle s s') (second : Idle s' s'') : Idle s s'' :=
  ⟨second.identity.trans first.identity, second.thresholds.trans first.thresholds,
    second.tally.trans first.tally, second.functional.trans first.functional,
    second.errors.trans first.errors⟩

/-- From one sensor to the other there are lapses and nothing else. -/
structure Lapses (s s' : Sensor) (effects : List Effect) : Prop where
  idle : Idle s s'
  told : ∀ e ∈ effects, e.IsLapse s

namespace Lapses

variable {s s' s'' : Sensor} {effects effects' : List Effect}

theorem silent (idle : Idle s s') : Lapses s s' [] := ⟨idle, List.forall_mem_nil _⟩

theorem trans (first : Lapses s s' effects) (second : Lapses s' s'' effects') :
    Lapses s s'' (effects ++ effects') := by
  refine ⟨first.idle.trans second.idle, ?_⟩
  intro e member
  rcases List.mem_append.1 member with early | late
  · exact first.told e early
  · have same : s'.identity.path = s.identity.path := congrArg Identity.path first.idle.identity
    cases second.told e late with
    | value lost =>
        rw [same]
        exact .value lost
    | unavailable =>
        rw [same]
        exact .unavailable
    | share lost => exact .share lost

end Lapses

/-- The sensor has no value, is unavailable and has no failed reads behind it. -/
structure Lost (s : Sensor) : Prop where
  value : s.value.isNaN = true
  unavailable : s.health.available = false
  errors : s.health.errors = 0

/-! ## Acts -/

namespace Act

variable {s : Sensor} {power : PowerStatus}

theorem lapses_noteAvailable (s : Sensor) :
    Lapses s (noteAvailable false s).1 (noteAvailable false s).2 := by
  rw [noteAvailable_fst]
  refine ⟨⟨rfl, rfl, rfl, rfl, Nat.zero_le _⟩, ?_⟩
  simp only [noteAvailable]
  split
  · exact List.forall_mem_nil _
  · exact List.forall_mem_singleton.2 .unavailable

theorem lapses_store {x : Float} (lost : x.isNaN = true) (s : Sensor) :
    Lapses s (store x s).1 (store x s).2 := by
  refine ⟨⟨rfl, rfl, rfl, rfl, Nat.le_refl _⟩, ?_⟩
  simp only [store, change, andThen, publish, share, List.nil_append]
  cases s.key with
  | none => exact List.forall_mem_singleton.2 (.value lost)
  | some key =>
      exact List.forall_mem_cons.2 ⟨.value lost, List.forall_mem_singleton.2 (.share lost)⟩

theorem lapses_publishReading {x : Float} (lost : x.isNaN = true) (s : Sensor) :
    Lapses s (publishReading x s).1 (publishReading x s).2 := by
  simp only [publishReading]
  split
  · -- the flag `internal` goes up for the setter and down again
    have up : Idle s { s with internal := true } := ⟨rfl, rfl, rfl, rfl, Nat.le_refl _⟩
    have set : Lapses { s with internal := true } (setValue x { s with internal := true }).1
        (setValue x { s with internal := true }).2 := by
      simp only [setValue, if_true]
      split
      · exact .silent (.refl _)
      · exact lapses_store lost _
    exact ((Lapses.silent up).trans set).trans (.silent ⟨rfl, rfl, rfl, rfl, Nat.le_refl _⟩)
  · exact .silent (.refl s)

theorem lapses_feed (x : Float) (unreadable : s.isReadable power = false) :
    Lapses s (feed power x s).1 (feed power x s).2 := by
  simp only [feed]
  rw [unreadable]
  split
  · exact .silent (.refl s)
  · exact (lapses_noteAvailable s).trans (lapses_publishReading Number.isNaN_nan _)

theorem lapses_countError (unreadable : s.isReadable power = false) :
    Lapses s (countError power s).1 (countError power s).2 := by
  simp only [countError]
  rw [unreadable]
  exact lapses_noteAvailable s

/-- **A reading without power leaves nothing of the value**, whatever the reading. -/
theorem lost_feed (x : Float) (free : s.overridden = false)
    (unreadable : s.isReadable power = false) : Lost (feed power x s).1 := by
  have fed : (feed power x s).1 = (publishReading Number.nan (noteAvailable false s).1).1 := by
    simp only [feed]
    rw [free, unreadable]
    rfl
  have health : (publishReading Number.nan (noteAvailable false s).1).1.health =
      s.health.setAvailable false := by
    simp only [publishReading, noteAvailable_fst]
    split
    · rw [setOwnValue_fst]
      split <;> rfl
    · rfl
  refine ⟨?_, ?_, ?_⟩
  · rw [(feed_unreadable x free unreadable).1, Number.isNaN_nan]
  · rw [fed, health]
    rfl
  · rw [fed, health]
    rfl

end Act

/-! ## Operations -/

/-- The operation is what a task does to a sensor that it reads. -/
def Op.isPolled : Op → Bool
  | .feed _ => true
  | .setRaw _ => true
  | .countError => true
  | _ => false

/-- The operation gives the sensor a reading, in its course at the latest. -/
def Op.feeds (s : Sensor) : Op → Bool
  | .feed _ => true
  | .markFunctional b => !b
  | .setAvailable b => !b && s.health.available
  | _ => false

variable {c : Conditions} {op : Op} {s : Sensor}

/-- **Without power, what a task does to its sensor makes it lapse and no more.** -/
theorem lapses_perform (polled : op.isPolled = true) (unreadable : s.isReadable c.power = false) :
    Lapses s (s.perform c op).sensor (s.perform c op).effects := by
  cases op with
  | feed x => exact Act.lapses_feed x unreadable
  | setRaw x => exact .silent ⟨rfl, rfl, rfl, rfl, Nat.le_refl _⟩
  | countError => exact Act.lapses_countError unreadable
  | checkThresholds | markFunctional b | markAvailable b | write x | clearOverride | release
  | setAvailable b | setTrigger slot x | setBounds min max | replaceThresholds ts | participate b
  | attach key | setHook hook => cases polled

/-- **Without power, a reading leaves nothing of the value**, whatever asked for it. -/
theorem lost_perform (feeds : op.feeds s = true) (free : s.overridden = false)
    (unreadable : s.isReadable c.power = false) : Lost (s.perform c op).sensor := by
  cases op with
  | feed x => exact Act.lost_feed x free unreadable
  | markFunctional b =>
      obtain rfl : b = false := by simpa [Op.feeds] using feeds
      change Lost (Act.feed c.power Number.nan (Act.noteFunctional false s).1).1
      rw [Act.noteFunctional_fst]
      exact Act.lost_feed _ free unreadable
  | setAvailable b =>
      obtain ⟨rfl, available⟩ : b = false ∧ s.health.available = true := by
        simpa [Op.feeds] using feeds
      have goes : (s.perform c (.setAvailable false)).sensor =
          (Act.feed c.power Number.nan (Act.noteAvailable false s).1).1 := by
        simp [perform, Outcome.ofAct, Act.setAvailable, available]
      rw [goes, Act.noteAvailable_fst]
      exact Act.lost_feed _ free unreadable
  | setRaw x | countError | checkThresholds | markAvailable b | write x | clearOverride | release
  | setTrigger slot x | setBounds min max | replaceThresholds ts | participate b | attach key
  | setHook hook => cases feeds

end Sensor

end SensorMonitor
