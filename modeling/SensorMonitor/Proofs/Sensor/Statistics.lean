/-
# Proofs.Sensor.Statistics -- which readings the statistics are about

A sensor is given readings by feeding it, and it is given the loss of a reading by the failed
read that reaches the limit, by the word that it is broken and by a write that makes it
unavailable (`Op.gives`).  Whichever it is, the operation ends with the reading
(`exists_feed_of_gives`), and nothing else touches the statistics (`tally_of_unfed`).  So they
are about just those readings that came while the sensor listened, in their order
(`Installation.heard`), and say of them what `Tally.Summarizes` says.
-/
import SensorMonitor.Proofs.Sensor.Escalation
import SensorMonitor.Proofs.Tally

namespace SensorMonitor

set_option autoImplicit false

namespace Sensor

/-! ## What a sensor is given -/

/-- The reading that an operation gives to the sensor, NaN for the loss of one. -/
def Op.gives (c : Conditions) (s : Sensor) : Op → Option Float
  | .feed x => some x
  | .countError =>
      if s.isReadable c.power && s.health.errorOutcome = .limitReached then some Number.nan
      else none
  | .markFunctional b => if b then none else some Number.nan
  | .setAvailable b => if s.health.available && !b then some Number.nan else none
  | _ => none

/-- The sensor takes readings: it is not under an override and its power condition holds. -/
def listens (c : Conditions) (s : Sensor) : Bool := !s.overridden && s.isReadable c.power

/-- The two sensors take the same readings and have the same statistics. -/
structure Attentive (s s' : Sensor) : Prop where
  identity : s'.identity = s.identity
  overridden : s'.overridden = s.overridden
  internal : s'.internal = s.internal
  tally : s'.tally = s.tally

theorem Attentive.listens {s s' : Sensor} (alike : Attentive s s') (c : Conditions) :
    s'.listens c = s.listens c := by
  unfold Sensor.listens isReadable
  rw [alike.overridden, alike.identity]

section Given

variable {c : Conditions} {op : Op} {s : Sensor} {x : Float}

theorem attentive_of_health (s : Sensor) (health : Health) :
    Attentive s { s with health := health } := ⟨rfl, rfl, rfl, rfl⟩

/-- The word that a sensor is broken ends with the loss of its reading. -/
theorem markFunctional_false (power : PowerStatus) (s : Sensor) :
    (Act.markFunctional power false s).1 = (Act.feed power Number.nan
      { s with health := s.health.setFunctional false }).1 := by
  show (Act.feed power Number.nan (Act.noteFunctional false s).1).1 = _
  rw [Act.noteFunctional_fst]

/-- So does the word that a sensor is unavailable, if that is news. -/
theorem setAvailable_false (power : PowerStatus) (available : s.health.available = true) :
    (Act.setAvailable power false s).1 = (Act.feed power Number.nan
      { s with health := s.health.setAvailable false }).1 := by
  unfold Act.setAvailable
  rw [available, if_neg (by decide)]
  show (Act.feed power Number.nan (Act.noteAvailable false s).1).1 = _
  rw [Act.noteAvailable_fst]

/-- **An operation that gives a reading ends with it**, and takes note of nothing but the health
before. -/
theorem exists_feed_of_gives (fed : op.gives c s = some x) :
    ∃ s', Attentive s s' ∧ (s.perform c op).sensor = (Act.feed c.power x s').1 := by
  cases op with
  | feed y =>
      cases fed
      exact ⟨s, attentive_of_health s s.health, rfl⟩
  | countError =>
      simp only [Op.gives] at fed
      split at fed
      · next reached =>
          cases fed
          rw [Bool.and_eq_true, decide_eq_true_eq] at reached
          obtain ⟨readable, reached⟩ := reached
          refine ⟨_, attentive_of_health s (s.health.countError.setFunctional false), ?_⟩
          show (Act.countError c.power s).1 = _
          simp only [Act.countError, reached]
          rw [if_pos readable]
          exact markFunctional_false c.power { s with health := s.health.countError }
      · cases fed
  | markFunctional b =>
      cases b with
      | true => cases fed
      | false =>
          cases fed
          exact ⟨_, attentive_of_health s _, markFunctional_false c.power s⟩
  | setAvailable b =>
      simp only [Op.gives] at fed
      split at fed
      · next lost =>
          cases fed
          rw [Bool.and_eq_true, Bool.not_eq_true'] at lost
          obtain ⟨available, rfl⟩ := lost
          exact ⟨_, attentive_of_health s _, setAvailable_false c.power available⟩
      · cases fed
  | setRaw y | checkThresholds | markAvailable b | write y | clearOverride | release
  | setTrigger slot y | setBounds min max | replaceThresholds ts | participate b | attach key
  | setHook hook => cases fed

/-- **An operation that gives no reading leaves the statistics as they are.** -/
theorem tally_of_unfed (unfed : op.gives c s = none) :
    (s.perform c op).sensor.tally = s.tally := by
  cases judged : op.judges with
  | false => exact (books_perform judged).2
  | true =>
      cases op with
      | feed x => cases unfed
      | countError =>
          show (Act.countError c.power s).1.tally = _
          cases readable : s.isReadable c.power with
          | false => rw [Act.countError_of_unreadable readable, Act.noteAvailable_fst]
          | true =>
              unfold Act.countError
              rw [if_pos readable]
              cases outcome : s.health.errorOutcome with
              | counted errors | beyondLimit => rfl
              | limitReached =>
                  simp only [Op.gives] at unfed
                  rw [readable, outcome] at unfed
                  cases unfed
      | markFunctional b =>
          cases b with
          | false => cases unfed
          | true =>
              show (Act.noteFunctional true s).1.tally = _
              rw [Act.noteFunctional_fst]
      | markAvailable b =>
          show (Act.noteAvailable b s).1.tally = _
          rw [Act.noteAvailable_fst]
      | setAvailable b =>
          show (Act.setAvailable c.power b s).1.tally = _
          unfold Act.setAvailable
          split
          · rfl
          · next turned =>
              cases b with
              | true =>
                  show (Act.noteAvailable true s).1.tally = _
                  rw [Act.noteAvailable_fst]
              | false =>
                  simp only [Op.gives] at unfed
                  rw [Bool.not_eq_false] at turned
                  rw [turned] at unfed
                  cases unfed
      | setRaw y | checkThresholds | write y | clearOverride | release | setTrigger slot y
      | setBounds min max | replaceThresholds ts | participate b | attach key
      | setHook hook => cases judged

/-- The reading that an operation gives to a sensor that listens. -/
def Op.heard (c : Conditions) (s : Sensor) (op : Op) : Option Float :=
  (op.gives c s).filter fun _ => s.listens c

/-- **An operation records what the sensor is given if it listens**, and nothing else. -/
theorem tally_perform (rest : s.internal = false) : (s.perform c op).sensor.tally =
    s.tally.map fun tally => (op.heard c s).toList.foldl Tally.record tally := by
  unfold Op.heard
  cases fed : op.gives c s with
  | none =>
      rw [tally_of_unfed fed]
      exact Option.map_id'.symm
  | some x =>
      obtain ⟨s', alike, performed⟩ := exists_feed_of_gives fed
      rw [performed, Act.tally_feed x (alike.internal.trans rest), alike.tally]
      have heed : (!s'.overridden && s'.isReadable c.power) = s.listens c := alike.listens c
      rw [heed]
      cases s.listens c with
      | true => rfl
      | false => exact Option.map_id'.symm

end Given

end Sensor

namespace Installation

/-! ## Runs -/

/-- The reading that the sensor hears when something happens. -/
def hears (i : Installation) : Happening → Option Float
  | .perform op => op.heard i.site.conditions i.sensor
  | _ => none

/-- All readings that the sensor hears in a run. -/
def heard (i : Installation) : List Happening → List Float
  | [] => []
  | h :: hs => (i.hears h).toList ++ (i.step h).heard hs

theorem tally_step {i : Installation} (rest : i.sensor.internal = false) (h : Happening) :
    (i.step h).sensor.tally =
      i.sensor.tally.map fun tally => (i.hears h).toList.foldl Tally.record tally := by
  cases h with
  | power status | access access => exact Option.map_id'.symm
  | perform op => exact Sensor.tally_perform rest

theorem tally_run {i : Installation} (rest : i.sensor.internal = false) (hs : List Happening) :
    (i.run hs).sensor.tally =
      i.sensor.tally.map fun tally => (i.heard hs).foldl Tally.record tally := by
  induction hs generalizing i with
  | nil => exact Option.map_id'.symm
  | cons h hs ih =>
      have rest' : (i.step h).sensor.internal = false := run_internal rest [h]
      show ((i.step h).run hs).sensor.tally = _
      rw [ih rest', tally_step rest, Option.map_map]
      congr 1
      funext tally
      exact List.foldl_append.symm

/-- How a sensor keeps statistics, if its definition asks for any. -/
structure KeepsStatistics (i : Installation) (statistics : Bool) : Prop where
  /-- An operation that gives a reading ends with it, on a sensor that takes the same readings. -/
  fed : ∀ hs op x, op.gives (i.run hs).site.conditions (i.run hs).sensor = some x →
    ∃ s', (i.run hs).sensor.Attentive s' ∧ ((i.run hs).step (.perform op)).sensor =
      (Sensor.Act.feed (i.run hs).site.conditions.power x s').1
  /-- What was recorded are the readings that came while the sensor listened. -/
  recorded : ∀ hs, (i.run hs).sensor.tally =
    if statistics then some (Tally.ofReadings (i.heard hs)) else none
  summarized : ∀ hs tally, (i.run hs).sensor.tally = some tally → tally.Summarizes (i.heard hs)

/-- **Statistics in closed form**: those of any list of readings, and those of a sensor after any
run, which are about all readings that it heard. -/
theorem statistics_are_closed : (∀ xs, (Tally.ofReadings xs).Summarizes xs) ∧
    ∀ site d i, make site d = .ok i → i.KeepsStatistics d.statistics := by
  refine ⟨Tally.summarizes_ofReadings, fun site d i made => ?_⟩
  have defined := (make_eq_ok made).1
  have rest := defined.start.2.1
  obtain ⟨quantity, thresholds, described⟩ := defined.described
  have recorded : ∀ hs, (i.run hs).sensor.tally =
      if d.statistics then some (Tally.ofReadings (i.heard hs)) else none := by
    intro hs
    rw [tally_run rest, described.tally]
    cases d.statistics <;> rfl
  refine ⟨fun hs op x given => Sensor.exists_feed_of_gives given, recorded, ?_⟩
  intro hs tally now
  rw [recorded] at now
  split at now
  · cases now
    exact Tally.summarizes_ofReadings _
  · cases now

/-- A sensor with statistics that is broken after two failed reads. -/
def countedDefinition : Definition :=
  { editedDefinition with errorLimit := some 2, statistics := true }

/-- Two failed reads and a write of the availability lose the value; an override and a time
without power hide a reading each. -/
def countedRun : List Happening :=
  [.power ⟨true, false⟩, .perform (.feed 40), .perform .countError, .perform .countError,
    .perform (.setAvailable false), .access ⟨true, false⟩, .perform (.write 75),
    .perform (.feed 50), .perform .clearOverride, .power .off, .perform (.feed 60),
    .power ⟨true, false⟩, .perform (.feed 35)]

theorem statistics_are_closed_sample : ∃ i, make .fresh countedDefinition = .ok i ∧
    i.KeepsStatistics true ∧ i.heard countedRun = [40, Number.nan, Number.nan, 35] ∧
      (i.run countedRun).sensor.tally = some ⟨2, 2, 1, 0, 35, 40⟩ := by
  have found : (make .fresh countedDefinition).toOption.any (fun i =>
      decide (i.heard countedRun = [40, Number.nan, Number.nan, 35]) &&
        decide ((i.run countedRun).sensor.tally = some ⟨2, 2, 1, 0, 35, 40⟩)) = true := by
    decide +kernel
  obtain ⟨i, made, found⟩ := exists_made found
  rw [Bool.and_eq_true, decide_eq_true_eq, decide_eq_true_eq] at found
  exact ⟨i, made, statistics_are_closed.2 .fresh countedDefinition i made, found⟩

end Installation

end SensorMonitor
