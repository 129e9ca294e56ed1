/-
# Proofs.Poll.Scene -- a task among everything else that happens

A scene is a poll task with its sensor and site, the reads that are in flight and a record
of the task's resumptions.  Anything may happen in it in any order (`Occurrence`): power
and access change, others perform operations on the sensor, the task is asked to stop, the
sensor ends, and the task is woken by what it waits for, be it its time, the answer of a
read or the signal to stop.  What a read comes to is not said, so that a theorem about all
runs is one about all sources.

* `Orderly.run`: reads follow one another, and the record is a row of whole passes and the
  beginning of one;
* `kernel_resume`: all that a task does to its sensor are the operations of its deed;
* `Wakes.of_runFor`: what the clock lets a task do is a run of occurrences.
-/
import SensorMonitor.Proofs.Poll.Resumption
import SensorMonitor.Proofs.Sensor.Installation

namespace SensorMonitor.Poll

set_option autoImplicit false

variable {σ : Type}

/-- What can happen around a task. -/
inductive Occurrence where
  | power (status : PowerStatus)
  | access (access : Access)
  | perform (op : Sensor.Op)
  | cancel
  | dropSensor
  | wake (now : Nat) (w : Wake)

namespace Occurrence

/-- It is the task that is woken. -/
def isWake : Occurrence → Bool
  | .wake _ _ => true
  | _ => false

/-- From then on the task may not go on. -/
def halts : Occurrence → Bool
  | .cancel => true
  | .dropSensor => true
  | _ => false

end Occurrence

/-- The reads that are no longer in flight when this comes. -/
def Wake.landed : Wake → Nat
  | .answer _ => 1
  | _ => 0

@[simp] theorem Wake.landed_ofSignal (signalled : Bool) : (ofSignal signalled).landed = 0 := by
  cases signalled <;> rfl

/-- The reads that a deed sets off. -/
def Deed.launched : Option Deed → Nat
  | some .startRead => 1
  | _ => 0

/-- A task with its surroundings, the reads in flight, and for each time that the task was
woken by what and what it did. -/
structure Scene (σ : Type) where
  poller : Poller σ
  site : Site
  inFlight : Nat
  record : List (Wake × Option Deed)

namespace Scene

/-- Nothing has happened yet. -/
def ofPoller (p : Poller σ) (site : Site) : Scene σ := ⟨p, site, 0, []⟩

/-- The task waits for this and it can come: only a read in flight is answered. -/
def awaits (scene : Scene σ) (now : Nat) (w : Wake) : Bool :=
  scene.poller.awaits now w && w.landed ≤ scene.inFlight

/-- The task is woken. -/
def resume (scene : Scene σ) (now : Nat) (w : Wake) : Scene σ :=
  let deed := scene.poller.deed? now scene.site w
  { poller := (scene.poller.wake now scene.site w).1
    site := (scene.poller.wake now scene.site w).2
    inFlight := scene.inFlight - w.landed + Deed.launched deed
    record := scene.record ++ [(w, deed)] }

/-- One occurrence.  Nothing wakes a task that it does not wait for. -/
def step (scene : Scene σ) : Occurrence → Scene σ
  | .power status => { scene with
      site := { scene.site with conditions := { scene.site.conditions with power := status } } }
  | .access access => { scene with
      site := { scene.site with conditions := { scene.site.conditions with access := access } } }
  | .perform op => { scene with
      poller := (scene.poller.perform scene.site op).1
      site := (scene.poller.perform scene.site op).2.1 }
  | .cancel => { scene with poller := scene.poller.cancel }
  | .dropSensor => { scene with
      poller := (scene.poller.dropSensor scene.site).1
      site := (scene.poller.dropSensor scene.site).2 }
  | .wake now w => if scene.awaits now w then scene.resume now w else scene

/-- One occurrence after another. -/
def run (scene : Scene σ) (hs : List Occurrence) : Scene σ := hs.foldl step scene

theorem run_append (scene : Scene σ) (hs hs' : List Occurrence) :
    scene.run (hs ++ hs') = (scene.run hs).run hs' :=
  List.foldl_append

/-- The sensor and its surroundings, without the task. -/
def kernel (scene : Scene σ) : Option Sensor × Site := (scene.poller.sensor, scene.site)

/-! ## Passes -/

/-- A whole pass, from being woken to falling asleep: without power the sensor is told that
there is no reading; else a read gives a reading, or fails. -/
inductive Pass where
  | unread
  | read (reading : Hwmon.Reading)
  | failed (failure : Failure)

/-- What a pass leaves in the record. -/
def Pass.entries : Pass → List (Wake × Option Deed)
  | .unread => [(.turn, some .reportNothing)]
  | .read reading => [(.turn, some .startRead), (.answer (.ok reading), some (.take reading))]
  | .failed failure => [(.turn, some .startRead), (.answer (.error failure), some .countError)]

/-- How far the task is in its last pass: it has not begun it, its read is in flight, it
stopped before it began, or it stopped when the read was answered. -/
inductive LastPass where
  | ahead
  | underWay
  | omitted (signalled : Bool)
  | broken (result : Except Failure Hwmon.Reading)

namespace LastPass

/-- What the last pass has left in the record. -/
def entries : LastPass → List (Wake × Option Deed)
  | .ahead => []
  | .underWay => [(.turn, some .startRead)]
  | .omitted signalled => [(.ofSignal signalled, none)]
  | .broken result => [(.turn, some .startRead), (.answer result, none)]

/-- The phase that the task is in then. -/
def Fits : LastPass → Phase → Prop
  | .ahead, .ready => True
  | .ahead, .sleeping _ => True
  | .underWay, .reading => True
  | .omitted _, .stopped => True
  | .broken _, .stopped => True
  | _, _ => False

end LastPass

/-- Reads follow one another: one is in flight exactly while the task waits for it, and
the record is that of whole passes and the beginning of one. -/
structure Orderly (scene : Scene σ) : Prop where
  inFlight : scene.inFlight = if scene.poller.phase = .reading then 1 else 0
  record : ∃ (passes : List Pass) (last : LastPass),
    scene.record = passes.flatMap Pass.entries ++ last.entries ∧ last.Fits scene.poller.phase

theorem orderly_ofPoller (s : Sensor) (source : σ) (schedule : Schedule) (site : Site) :
    (ofPoller (.ofSensor s source schedule) site).Orderly :=
  ⟨rfl, [], .ahead, rfl, trivial⟩

section Order

variable {scene : Scene σ} {now : Nat} {w : Wake}

/-- A task that sleeps has nothing in flight and only whole passes behind it. -/
theorem Orderly.of_asleep (orderly : scene.Orderly)
    (asleep : scene.poller.phase = .ready ∨ ∃ due, scene.poller.phase = .sleeping due) :
    scene.inFlight = 0 ∧ ∃ passes, scene.record = List.flatMap Pass.entries passes := by
  obtain ⟨inFlight, passes, last, record, fits⟩ := orderly
  rcases asleep with phase | ⟨due, phase⟩ <;> rw [phase] at inFlight fits <;>
    cases last with
    | ahead => exact ⟨by simpa using inFlight, passes, by simpa [LastPass.entries] using record⟩
    | underWay | omitted signalled | broken result => exact fits.elim

/-- A task that waits for a read has begun a pass. -/
theorem Orderly.of_reading (orderly : scene.Orderly) (reading : scene.poller.phase = .reading) :
    scene.inFlight = 1 ∧ ∃ passes, scene.record =
      List.flatMap Pass.entries passes ++ [(.turn, some .startRead)] := by
  obtain ⟨inFlight, passes, last, record, fits⟩ := orderly
  rw [reading] at inFlight fits
  cases last with
  | underWay => exact ⟨by simpa using inFlight, passes, record⟩
  | ahead | omitted signalled | broken result => exact fits.elim

theorem orderly_of_last {phase : Phase} (inPhase : scene.poller.phase = phase)
    (inFlight : scene.inFlight = if phase = .reading then 1 else 0) (passes : List Pass)
    (last : LastPass) (record : scene.record = passes.flatMap Pass.entries ++ last.entries)
    (fits : last.Fits phase) : scene.Orderly :=
  ⟨by rw [inFlight, inPhase], passes, last, record, by rwa [inPhase]⟩

/-- The phase that a task is in when it was woken. -/
theorem phase_resume (scene : Scene σ) (now : Nat) (w : Wake) :
    (scene.resume now w).poller.phase = (scene.poller.phase.resume scene.poller.schedule now
      (scene.poller.view scene.site) w).1 := by
  obtain ⟨s', after, -⟩ := Poller.wake_fst scene.poller now scene.site w
  exact congrArg Poller.phase after

/-- A task that is woken keeps its record in order. -/
theorem Orderly.resume (orderly : scene.Orderly) (awaited : scene.awaits now w = true) :
    (scene.resume now w).Orderly := by
  have awaited' : scene.poller.awaits now w = true := (Bool.and_eq_true_iff.1 awaited).1
  have resumed := Poller.resumed_spec scene.site awaited'
  have inPhase := scene.phase_resume now w
  have record : (scene.resume now w).record =
      scene.record ++ [(w, scene.poller.deed? now scene.site w)] := rfl
  have inFlight : (scene.resume now w).inFlight =
      scene.inFlight - w.landed + Deed.launched (scene.poller.deed? now scene.site w) := rfl
  generalize scene.resume now w = scene' at inPhase record inFlight ⊢
  generalize scene.poller.deed? now scene.site w = deed at resumed record inFlight
  generalize (Phase.resume _ _ _ _ _).1 = phase at resumed inPhase
  rcases Poller.awaits_cases awaited' with ⟨asleep, signalled, rfl⟩ | ⟨reading, result, rfl⟩
  · -- a pass begins, and maybe ends, with this
    obtain ⟨nothing, passes, whole⟩ := orderly.of_asleep asleep
    rw [nothing, Wake.landed_ofSignal] at inFlight
    rw [whole] at record
    cases resumed with
    | stops halted => exact orderly_of_last inPhase inFlight passes (.omitted signalled) record trivial
    | starts going turn readable =>
        rw [turn] at record
        exact orderly_of_last inPhase inFlight passes .underWay record trivial
    | reports due going turn unreadable =>
        refine orderly_of_last inPhase inFlight (passes ++ [.unread]) .ahead ?_ trivial
        simp [record, turn, Pass.entries, LastPass.entries]
    | takes due going answer | fails due going answer => cases signalled <;> cases answer
  · -- the pass that was begun ends
    obtain ⟨one, passes, begun⟩ := orderly.of_reading reading
    rw [one] at inFlight
    rw [begun, List.append_assoc] at record
    cases resumed with
    | stops halted => exact orderly_of_last inPhase inFlight passes (.broken result) record trivial
    | @takes due reading' going answer =>
        refine orderly_of_last inPhase inFlight (passes ++ [.read reading']) .ahead ?_ trivial
        simp [record, answer, Pass.entries, LastPass.entries]
    | @fails due failure going answer =>
        refine orderly_of_last inPhase inFlight (passes ++ [.failed failure]) .ahead ?_ trivial
        simp [record, answer, Pass.entries, LastPass.entries]
    | starts going turn | reports due going turn => cases turn

/-- What is not a wake leaves the task in its phase. -/
theorem phase_step (scene : Scene σ) {h : Occurrence} (other : h.isWake = false) :
    (scene.step h).poller.phase = scene.poller.phase := by
  cases h with
  | perform op =>
      simp only [step, Poller.perform]
      cases scene.poller.sensor <;> rfl
  | dropSensor =>
      simp only [step, Poller.dropSensor]
      cases scene.poller.sensor <;> rfl
  | wake now w => cases other
  | power status | access access | cancel => rfl

theorem Orderly.step (orderly : scene.Orderly) (h : Occurrence) : (scene.step h).Orderly := by
  cases wake : h.isWake with
  | false =>
      have phase := phase_step scene wake
      obtain ⟨inFlight, record⟩ := orderly
      rw [← phase] at inFlight record
      cases h with
      | wake now w => cases wake
      | power status | access access | perform op | cancel | dropSensor => exact ⟨inFlight, record⟩
  | true =>
      cases h with
      | wake now w =>
          simp only [Scene.step]
          split
          · next awaited => exact orderly.resume awaited
          · exact orderly
      | power status | access access | perform op | cancel | dropSensor => cases wake

/-- **Reads follow one another in every run.** -/
theorem Orderly.run (orderly : scene.Orderly) (hs : List Occurrence) : (scene.run hs).Orderly := by
  induction hs generalizing scene with
  | nil => exact orderly
  | cons h rest ih => exact ih (orderly.step h)

end Order

/-! ## What the task does to its sensor -/

section Deeds

variable {scene : Scene σ} {now : Nat} {w : Wake}

/-- What is not a wake does the same to the sensor and its surroundings, whatever the task
is about. -/
theorem kernel_step_congr {scene' : Scene σ} (same : scene.kernel = scene'.kernel)
    {h : Occurrence} (other : h.isWake = false) :
    (scene.step h).kernel = (scene'.step h).kernel := by
  obtain ⟨sensor, site⟩ := Prod.ext_iff.1 same
  have sensor : scene.poller.sensor = scene'.poller.sensor := sensor
  have site : scene.site = scene'.site := site
  cases h with
  | wake now w => cases other
  | power status | access access => simp only [kernel, step, sensor, site]
  | cancel => exact same
  | perform op =>
      simp only [kernel, step, Poller.perform, sensor, site]
      cases present : scene'.poller.sensor with
      | none => simp [sensor, present]
      | some s => rfl
  | dropSensor =>
      simp only [kernel, step, Poller.dropSensor, sensor, site]
      cases present : scene'.poller.sensor with
      | none => simp [sensor, present]
      | some s => rfl

theorem run_perform (scene : Scene σ) (ops : List Sensor.Op) :
    scene.run (ops.map .perform) = { scene with
      poller := (scene.poller.performAll scene.site ops).1
      site := (scene.poller.performAll scene.site ops).2 } := by
  induction ops generalizing scene with
  | nil => rfl
  | cons op rest ih => exact ih (scene.step (.perform op))

theorem kernel_perform_congr {scene' : Scene σ} (same : scene.kernel = scene'.kernel)
    (ops : List Sensor.Op) :
    (scene.run (ops.map .perform)).kernel = (scene'.run (ops.map .perform)).kernel := by
  induction ops generalizing scene scene' with
  | nil => exact same
  | cons op rest ih => exact ih (kernel_step_congr same rfl)

/-- What a task that is woken does to the sensor and its surroundings is what the operations
of its deed do, whoever asks for them. -/
theorem kernel_resume (scene : Scene σ) (now : Nat) (w : Wake) :
    (scene.resume now w).kernel = (scene.run
      ((((scene.poller.deed? now scene.site w).map Deed.ops).getD []).map .perform)).kernel := by
  have woken := Poller.wake_eq scene.poller now scene.site w
  let entered : Scene σ := { scene with
    poller := { scene.poller with
      phase := (scene.poller.phase.resume scene.poller.schedule now
        (scene.poller.view scene.site) w).1 } }
  have same : entered.kernel = scene.kernel := rfl
  rw [← kernel_perform_congr same, run_perform]
  simp only [kernel, resume]
  rw [woken]

/-- Power comes and the task starts a read. -/
def sampleRun : List Occurrence := [.power ⟨true, false⟩, .wake 0 .turn]

theorem exists_reading :
    ∃ s, Sensor.ofDefinition Installation.sampleDefinition = .ok s ∧ s.identity.power = .on ∧
      s.overridden = false ∧ (ofPoller (.ofSensor s () .usual) .fresh).run sampleRun =
        ⟨{ Poller.ofSensor s () .usual with phase := .reading },
          { Site.fresh with conditions := ⟨⟨true, false⟩, .closed⟩ }, 1,
          [(.turn, some .startRead)]⟩ := by
  have accepted : (Sensor.ofDefinition Installation.sampleDefinition).toOption.any
      (fun s => s.identity.power = .on && !s.overridden) = true := by decide
  cases made : Sensor.ofDefinition Installation.sampleDefinition with
  | error failure => simp [made, Except.toOption] at accepted
  | ok s =>
      obtain ⟨power, free⟩ : s.identity.power = .on ∧ s.overridden = false := by
        simpa [made, Except.toOption] using accepted
      have readable : s.isReadable ⟨true, false⟩ = true := by
        simp [Sensor.isReadable, power, PowerNeed.isMet]
      refine ⟨s, rfl, power, free, ?_⟩
      simp [sampleRun, run, step, ofPoller, Poller.ofSensor, awaits, Poller.awaits, Wake.landed,
        resume, Poller.deed?, Poller.wake, Poller.view, Phase.resume, Phase.pass, View.goesOn,
        Site.fresh, readable, Poller.act, Deed.act, Deed.launched, Site.act, Sensor.Act.skip,
        Site.absorbAll]

end Deeds

/-! ## The clock -/

section Clock

variable {scene : Scene σ} {now : Nat} {w : Wake}

/-- A task and a site as they stand in a scene, but for what is left of the source. -/
def Matches (scene : Scene σ) (pair : Poller σ × Site) : Prop :=
  pair.2 = scene.site ∧ ∃ source, pair.1 = { scene.poller with source := source }

/-- A run of wakes alone that ends in this task and site. -/
def Wakes (scene : Scene σ) (pair : Poller σ × Site) : Prop :=
  ∃ hs : List Occurrence, (∀ h ∈ hs, h.isWake = true) ∧ (scene.run hs).Orderly ∧
    (scene.run hs).Matches pair

theorem Wakes.refl {pair : Poller σ × Site} (orderly : scene.Orderly) (matched : scene.Matches pair) :
    scene.Wakes pair :=
  ⟨[], List.forall_mem_nil _, orderly, matched⟩

theorem Wakes.trans (hs : List Occurrence) {pair : Poller σ × Site}
    (wakes : ∀ h ∈ hs, h.isWake = true) (further : (scene.run hs).Wakes pair) :
    scene.Wakes pair := by
  obtain ⟨more, wakes', orderly, matched⟩ := further
  rw [← run_append] at orderly matched
  exact ⟨hs ++ more, by simpa [or_imp, forall_and] using ⟨wakes, wakes'⟩, orderly, matched⟩

/-- The task is given what it waits for. -/
theorem Wakes.of_awaits {p : Poller σ} {site : Site} (orderly : scene.Orderly)
    (matched : scene.Matches (p, site)) (awaited : p.awaits now w = true) :
    scene.Wakes (p.wake now site w) := by
  obtain ⟨rfl, source, rfl⟩ := matched
  have awaited : scene.poller.awaits now w = true := awaited
  have comes : w.landed ≤ scene.inFlight := by
    rcases Poller.awaits_cases awaited with ⟨-, signalled, rfl⟩ | ⟨reading, result, rfl⟩
    · simp
    · rw [orderly.inFlight, if_pos reading]
      exact Nat.le_refl 1
  have both : scene.awaits now w = true := by simp [Scene.awaits, awaited, comes]
  have stepped : scene.run [.wake now w] = scene.resume now w := if_pos both
  refine Wakes.trans [.wake now w] (by simp [Occurrence.isWake]) ?_
  rw [stepped, Poller.wake_source]
  exact .refl (orderly.resume both) ⟨rfl, source, rfl⟩

section Reading

variable (read : ReadFrom σ)

/-- A turn is a wake, or two if a read is started. -/
theorem Wakes.of_turn {p : Poller σ} {site : Site} (orderly : scene.Orderly)
    (matched : scene.Matches (p, site)) : scene.Wakes (p.turn read now site) := by
  have turned : scene.Wakes (p.wake now site .turn) := by
    cases awaited : p.awaits now .turn with
    | true => exact .of_awaits orderly matched awaited
    | false =>
        rw [Poller.turn_of_not_awaits awaited]
        exact .refl orderly matched
  obtain ⟨hs, wakes, orderly, site_eq, source, poller_eq⟩ := turned
  refine Wakes.trans hs wakes ?_
  simp only [Poller.turn]
  split
  · next reading =>
      -- a read that was started is answered in the same turn
      refine .of_awaits orderly ⟨site_eq, (read _ _).2, by rw [poller_eq]⟩ ?_
      simp [Poller.awaits, reading]
  · exact .refl orderly ⟨site_eq, source, poller_eq⟩

theorem Wakes.of_step {p : Poller σ} {site : Site} (orderly : scene.Orderly)
    (matched : scene.Matches (p, site)) : scene.Wakes (p.step read now site) := by
  simp only [Poller.step]
  split
  · next due phase =>
      split
      · next cancelled =>
          refine .of_awaits orderly matched ?_
          simp [Poller.awaits, phase, cancelled]
      · exact .of_turn read orderly matched
  · exact .of_turn read orderly matched

/-- **What the clock lets a task do is a run of its wakes**, so that what holds of every run
holds of a task on the clock. -/
theorem Wakes.of_runFor (limit fuel : Nat) {now : Nat} {p : Poller σ} {site : Site}
    (orderly : scene.Orderly) (matched : scene.Matches (p, site)) :
    scene.Wakes (p.runFor read limit fuel now site) := by
  induction fuel generalizing scene now p site with
  | zero => exact .refl orderly matched
  | succ fuel ih =>
      simp only [Poller.runFor]
      split
      · exact .refl orderly matched
      · split
        · obtain ⟨hs, wakes, orderly, stepped⟩ := Wakes.of_step read orderly matched
          exact Wakes.trans hs wakes (ih orderly stepped)
        · exact .refl orderly matched

end Reading

end Clock

end Scene

end SensorMonitor.Poll
