/-
# Proofs.Sensor.Installation -- one sensor at a site, from the start on

An installation is a sensor together with the site at which it was published.  What
happens to it is an operation, or a change of power or access (`Happening`); a run is
any list of these.  `run_invariant` is the induction over runs: what holds of a fresh
sensor and no events, and is kept by every move with the events of that move, holds
after every run with the events that the run added to the log.

* `make_eq_ok`: what a fresh installation is;
* `run_invariant`: invariants of sensors and their events;
* `run_wellFormed`: the sensor is well-formed after every run.
-/
import SensorMonitor.Proofs.Sensor.Moves
import SensorMonitor.Site

namespace SensorMonitor

set_option autoImplicit false

/-! ## Making a sensor -/

namespace Sensor

section Bands

variable {min max : Float} (checked : Definition.checkBounds min max = .ok ())

include checked

theorem range_nonneg : 0 ≤ max - min := by
  simp only [Definition.checkBounds] at checked
  split at checked
  · cases checked
  · next finite =>
      split at checked
      · cases checked
      · next ascending =>
          simp only [Bool.or_eq_true, Bool.not_eq_true', not_or, Bool.not_eq_false] at finite
          have le : min ≤ max := Number.le_of_not_le finite.1 finite.2 ascending
          exact Number.sub_nonneg finite.2 finite.1 le

/-- The bands drawn from a range that passed the check. -/
theorem triggerBand_nonneg : 0 ≤ (Measurement.ofRange min max).triggerBand := by
  have share : Number.parts 0.01 = .finite .positive 5764607523034235 (-59) (by decide) := rfl
  exact Number.mul_nonneg (range_nonneg checked) share (by norm_num)

theorem publishBand_nonneg : 0 ≤ (Measurement.ofRange min max).publishBand := by
  have share : Number.parts 0.0001 = .finite .positive 7378697629483821 (-66) (by decide) := rfl
  exact Number.mul_nonneg (range_nonneg checked) share (by norm_num)

end Bands

/-- A definition that passed every check, and the sensor that it describes. -/
structure Described (d : Definition) (s : Sensor) (quantity : Quantity) (thresholds : Thresholds) :
    Prop where
  named : Definition.checkName d.name = .ok ()
  measured : Definition.quantityOf d.unit = .ok quantity
  bounded : Definition.checkBounds d.min d.max = .ok ()
  defined : Thresholds.ofList d.thresholds = .ok thresholds
  identity : s.identity =
    ⟨ObjectPath.escape d.name, d.configuration, d.model, quantity,
      ObjectPath.ofName quantity.segment (ObjectPath.escape d.name), d.power⟩
  measurement : s.measurement = .ofRange d.min d.max
  thresholds : s.thresholds = thresholds.withDefaultHysteresis s.measurement.triggerBand
  health : s.health = .ofLimit (d.errorLimit.getD Health.usualLimit)
  control : s.overridden = false ∧ s.internal = false ∧ s.participates = true
  settable : s.settable = d.settable
  tally : s.tally = if d.statistics then some Tally.empty else none
  key : s.key = none

theorem described_of_ofDefinition {d : Definition} {s : Sensor} (made : ofDefinition d = .ok s) :
    s.registered = false ∧ s.hook = none ∧
      ∃ quantity thresholds, Described d s quantity thresholds := by
  simp only [ofDefinition] at made
  obtain ⟨_, named, made⟩ := bind_eq_ok made
  obtain ⟨quantity, measured, made⟩ := bind_eq_ok made
  obtain ⟨_, bounded, made⟩ := bind_eq_ok made
  obtain ⟨thresholds, defined, made⟩ := bind_eq_ok made
  cases made
  exact ⟨rfl, rfl, quantity, thresholds, named, measured, bounded, defined, rfl, rfl, rfl, rfl,
    ⟨rfl, rfl, rfl⟩, rfl, rfl, rfl⟩

/-- The sensor is the one that the definition describes, registered or not, with a hook or
without. -/
def MadeOf (s : Sensor) (d : Definition) : Prop :=
  ofDefinition d = .ok { s with hook := none, registered := false }

theorem madeOf_of_ofDefinition {d : Definition} {s : Sensor} (made : ofDefinition d = .ok s) :
    s.MadeOf d := by
  obtain ⟨unregistered, unhooked, -⟩ := described_of_ofDefinition made
  rw [MadeOf, ← unregistered, ← unhooked]
  exact made

/-- What is true of a sensor that was just made of a definition. -/
structure Fresh (s : Sensor) (d : Definition) : Prop where
  wellFormed : s.WellFormed
  participates : s.participates = true
  value : s.value = Number.nan
  path : ∃ quantity : Quantity,
    s.identity.path = ObjectPath.ofName quantity.segment (ObjectPath.escape d.name)

namespace MadeOf

variable {d : Definition} {s : Sensor} (made : s.MadeOf d)

include made

theorem rewire (hook : Option WriteHook) (registered : Bool) :
    ({ s with hook := hook, registered := registered } : Sensor).MadeOf d :=
  made

theorem described : ∃ quantity thresholds, Described d s quantity thresholds := by
  obtain ⟨-, -, quantity, thresholds, described⟩ := described_of_ofDefinition made
  exact ⟨quantity, thresholds, { described with }⟩

theorem fresh : s.Fresh d := by
  obtain ⟨quantity, thresholds, described⟩ := made.described
  have band : 0 ≤ s.measurement.triggerBand := by
    rw [described.measurement]
    exact triggerBand_nonneg described.bounded
  refine ⟨⟨?_, band⟩, described.control.2.2, ?_, quantity, ?_⟩
  · rw [described.thresholds]
    exact Thresholds.wellFormed_of_ofList described.defined band
  · rw [value, described.measurement]
    rfl
  · rw [described.identity]

/-- A sensor starts without an override, with the flag down and in good health. -/
theorem start : s.overridden = false ∧ s.internal = false ∧
    s.health = .ofLimit (d.errorLimit.getD Health.usualLimit) := by
  obtain ⟨quantity, thresholds, described⟩ := made.described
  exact ⟨described.control.1, described.control.2.1, described.health⟩

/-- A sensor starts with a band for its value that is not negative. -/
theorem publishBand_nonneg : 0 ≤ s.measurement.publishBand := by
  obtain ⟨quantity, thresholds, described⟩ := made.described
  rw [described.measurement]
  exact Sensor.publishBand_nonneg described.bounded

end MadeOf

end Sensor

/-- An external sensor is made of a definition that is settable, stamps its writes, and was not
found stale yet. -/
theorem ExternalSensor.madeOf_of_ofDefinition {d : Definition} {timeout : Option Nat}
    {e : ExternalSensor} (made : ofDefinition d timeout = .ok e) :
    e.sensor.MadeOf { d with settable := true, mutable := true } ∧
      e.sensor.hook = some .stamp ∧ e.timeout = timeout ∧ e.stale = false := by
  simp only [ofDefinition] at made
  cases described : Sensor.ofDefinition { d with settable := true, mutable := true } with
  | error failure =>
      rw [described] at made
      cases made
  | ok s =>
      rw [described] at made
      cases made
      exact ⟨(Sensor.madeOf_of_ofDefinition described).rewire _ _, rfl, rfl, rfl⟩

/-! ## Effects at a site -/

namespace Site

theorem log_keep (site : Site) (configuration model : String) (t : Threshold) :
    (site.keep configuration model t).bus = site.bus := by
  simp only [keep]
  cases site.store <;> rfl

/-- Only announcements reach the log, and all of them do, in order. -/
theorem log_absorbAll (site : Site) (effects : List Sensor.Effect) :
    (site.absorbAll effects).bus.log.toList =
      site.bus.log.toList ++ Sensor.announced effects := by
  induction effects generalizing site with
  | nil => exact (List.append_nil _).symm
  | cons effect rest ih =>
      have further : (site.absorbAll (effect :: rest)) = (site.absorb effect).absorbAll rest := rfl
      rw [further, ih]
      cases effect with
      | announce event =>
          simp [absorb, Bus.announce, Sensor.announced, Sensor.Effect.event?]
      | keep configuration model t =>
          have same : (site.absorb (.keep configuration model t)).bus = site.bus :=
            site.log_keep configuration model t
          rw [same]
          rfl
      | share key x | unlist key | tell hook x => rfl

/-- Effects leave power and access as they are. -/
theorem conditions_absorbAll (site : Site) (effects : List Sensor.Effect) :
    (site.absorbAll effects).conditions = site.conditions := by
  induction effects generalizing site with
  | nil => rfl
  | cons effect rest ih =>
      have further : site.absorbAll (effect :: rest) = (site.absorb effect).absorbAll rest := rfl
      rw [further, ih]
      cases effect with
      | keep configuration model t =>
          simp only [absorb, keep]
          cases site.store <;> rfl
      | announce event | share key x | unlist key | tell hook x => rfl

/-- A sensor is published at a path that is free, and nothing else happens. -/
theorem register_eq_ok {site after : Site} {s s' : Sensor}
    (registered : site.register s = .ok (s', after)) :
    site.bus.isRegistered s.identity.path = false ∧ s' = { s with registered := true } ∧
      after = { site with
        bus := site.bus.announce (.registered s.identity.path s.properties) } := by
  simp only [register, Bus.register] at registered
  split at registered
  · cases registered
  · next free =>
      cases registered
      exact ⟨by simpa using free, rfl, rfl⟩

/-- A sensor that is made of a definition at a site. -/
structure Created (site : Site) (d : Definition) (s : Sensor) (after : Site) : Prop where
  made : s.MadeOf d
  registered : s.registered = true
  free : site.bus.isRegistered s.identity.path = false
  after : after = { site with
    bus := site.bus.announce (.registered s.identity.path s.properties) }

theorem created_of_create {site after : Site} {d : Definition} {s : Sensor}
    (made : site.create d = .ok (s, after)) : site.Created d s after := by
  simp only [create] at made
  obtain ⟨s', defined, registered⟩ := bind_eq_ok made
  obtain ⟨free, rfl, published⟩ := register_eq_ok registered
  exact ⟨(Sensor.madeOf_of_ofDefinition defined).rewire _ true, rfl, free, published⟩

theorem created_of_createExternal {site after : Site} {d : Definition} {timeout : Option Nat}
    {e : ExternalSensor} (made : site.createExternal d timeout = .ok (e, after)) :
    site.Created { d with settable := true, mutable := true } e.sensor after ∧
      e.sensor.hook = some .stamp ∧ e.timeout = timeout ∧ e.stale = false := by
  simp only [createExternal] at made
  obtain ⟨e', defined, made⟩ := bind_eq_ok made
  obtain ⟨⟨s, published⟩, registered, made⟩ := bind_eq_ok made
  obtain ⟨described, wiring⟩ := ExternalSensor.madeOf_of_ofDefinition defined
  obtain ⟨free, rfl, rfl⟩ := register_eq_ok registered
  cases made
  exact ⟨⟨described.rewire _ true, rfl, free, rfl⟩, wiring⟩

end Site

/-! ## Installations -/

/-- A sensor and the site at which it is published. -/
structure Installation where
  sensor : Sensor
  site : Site

/-- What can happen to a sensor. -/
inductive Happening where
  | power (status : PowerStatus)
  | access (access : Access)
  | perform (op : Sensor.Op)

namespace Installation

/-- Makes the sensor of a definition and publishes it at a site. -/
def make (site : Site) (d : Definition) : Except Failure Installation :=
  (site.create d).map fun made => ⟨made.1, made.2⟩

/-- One happening, with the effects carried out. -/
def step (i : Installation) : Happening → Installation
  | .power status =>
      { i with site := { i.site with conditions := { i.site.conditions with power := status } } }
  | .access access =>
      { i with site := { i.site with conditions := { i.site.conditions with access := access } } }
  | .perform op =>
      let outcome := i.sensor.perform i.site.conditions op
      ⟨outcome.sensor, i.site.absorbAll outcome.effects⟩

/-- One happening after another. -/
def run (i : Installation) (hs : List Happening) : Installation := hs.foldl step i

/-- Whether a happening is an operation of a kind, which may depend on the moment. -/
def isOf (i : Installation) (kind : Conditions → Sensor → Sensor.Op → Bool) : Happening → Bool
  | .perform op => kind i.site.conditions i.sensor op
  | _ => false

/-- Whether an operation of the kind is performed in a run. -/
def sees (i : Installation) (kind : Conditions → Sensor → Sensor.Op → Bool) :
    List Happening → Bool
  | [] => false
  | h :: hs => i.isOf kind h || (i.step h).sees kind hs

/-- A fresh installation has announced its sensor and nothing else. -/
theorem make_eq_ok {site : Site} {d : Definition} {i : Installation}
    (made : make site d = .ok i) :
    i.sensor.MadeOf d ∧ i.site.bus.log.toList =
      site.bus.log.toList ++ [.registered i.sensor.identity.path i.sensor.properties] := by
  simp only [make] at made
  cases created : site.create d with
  | error failure =>
      rw [created] at made
      cases made
  | ok pair =>
      rw [created] at made
      cases made
      have created := Site.created_of_create created
      refine ⟨created.made, ?_⟩
      simp [created.after, Bus.announce]

theorem run_append (i : Installation) (hs hs' : List Happening) :
    i.run (hs ++ hs') = (i.run hs).run hs' :=
  List.foldl_append

theorem sees_append (i : Installation) (kind : Conditions → Sensor → Sensor.Op → Bool)
    (hs hs' : List Happening) :
    i.sees kind (hs ++ hs') = (i.sees kind hs || (i.run hs).sees kind hs') := by
  induction hs generalizing i with
  | nil => rfl
  | cons h hs ih =>
      change (i.isOf kind h || (i.step h).sees kind (hs ++ hs')) = _
      rw [ih, ← Bool.or_assoc]
      rfl

/-- **What a happening brings about exactly if it is of a kind, a run comes to exactly if it sees
the kind.**  The `law` is what holds on the way there. -/
theorem exists_prefix_iff_sees (turned : Sensor → Bool)
    (kind : Conditions → Sensor → Sensor.Op → Bool) (law : Installation → Prop) {i : Installation}
    {hs : List Happening}
    (stepped : ∀ {i h}, h ∈ hs → law i → turned i.sensor = false →
      law (i.step h) ∧ turned (i.step h).sensor = i.isOf kind h)
    (start : law i) (fresh : turned i.sensor = false) :
    (∃ before, before <+: hs ∧ turned (i.run before).sensor = true) ↔ i.sees kind hs = true := by
  induction hs generalizing i with
  | nil =>
      constructor
      · rintro ⟨before, early, now⟩
        rw [List.prefix_nil.1 early] at now
        exact absurd (fresh.symm.trans now) (by decide)
      · intro seen
        cases seen
  | cons h hs ih =>
      obtain ⟨onward, here⟩ := stepped List.mem_cons_self start fresh
      have seen : i.sees kind (h :: hs) = (i.isOf kind h || (i.step h).sees kind hs) := rfl
      rw [seen, ← here]
      cases now : turned (i.step h).sensor with
      | true => exact iff_of_true ⟨[h], by simp, now⟩ rfl
      | false =>
          have later := ih (fun member => stepped (List.mem_cons_of_mem h member)) onward now
          rw [Bool.false_or, ← later]
          constructor
          · rintro ⟨before, early, now'⟩
            cases before with
            | nil => exact absurd (fresh.symm.trans now') (by decide)
            | cons first before =>
                obtain ⟨rfl, within⟩ := List.cons_prefix_cons.1 early
                exact ⟨before, within, now'⟩
          · rintro ⟨before, early, now'⟩
            exact ⟨h :: before, List.cons_prefix_cons.2 ⟨rfl, early⟩, now'⟩

/-- **What every move keeps, every run keeps, with the events that it adds to the log.** -/
theorem run_invariant (invariant : List Event → Sensor → Prop) (i : Installation)
    (hs : List Happening) (start : invariant [] i.sensor)
    (kept : ∀ {op s effects s' events}, .perform op ∈ hs → Sensor.Move op s effects s' →
      invariant events s → invariant (events ++ Sensor.announced effects) s') :
    ∃ events, (i.run hs).site.bus.log.toList = i.site.bus.log.toList ++ events ∧
      invariant events (i.run hs).sensor := by
  have chain : ∀ {op s effects s' events}, .perform op ∈ hs → Sensor.Moves op s effects s' →
      invariant events s → invariant (events ++ Sensor.announced effects) s' := by
    intro op s effects s' events asked moves holds
    induction moves generalizing events with
    | none s => simpa [Sensor.announced] using holds
    | cons move rest ih =>
        rw [Sensor.announced_append, ← List.append_assoc]
        exact ih (kept asked move holds)
  clear kept
  -- from the right end, since the conditions of the last happening are those of the run before
  induction hs using List.reverseRecOn with
  | nil => exact ⟨[], (List.append_nil _).symm, start⟩
  | append_singleton before h ih =>
      obtain ⟨events, log, holds⟩ := ih fun asked => chain (List.mem_append_left _ asked)
      rw [run_append]
      cases h with
      | power status => exact ⟨events, log, holds⟩
      | access access => exact ⟨events, log, holds⟩
      | perform op =>
          have moves := Sensor.perform_moves (i.run before).site.conditions op (i.run before).sensor
          refine ⟨events ++ Sensor.announced _, ?_, chain (by simp) moves holds⟩
          rw [← List.append_assoc, ← log]
          exact Site.log_absorbAll _ _

/-! ## What a run tells -/

/-- The events that a run adds to the log. -/
def tells (i : Installation) (hs : List Happening) : List Event :=
  (i.run hs).site.bus.log.toList.drop i.site.bus.log.size

theorem log_run (i : Installation) (hs : List Happening) :
    (i.run hs).site.bus.log.toList = i.site.bus.log.toList ++ i.tells hs := by
  obtain ⟨events, log, -⟩ := i.run_invariant (fun _ _ => True) hs trivial fun _ _ _ => trivial
  rw [tells, log, ← Array.length_toList, List.drop_left]

theorem tells_append (i : Installation) (hs hs' : List Happening) :
    i.tells (hs ++ hs') = i.tells hs ++ (i.run hs).tells hs' := by
  have log := i.log_run (hs ++ hs')
  rw [run_append, log_run, log_run, List.append_assoc] at log
  exact (List.append_cancel_left log).symm

@[simp] theorem tells_nil (i : Installation) : i.tells [] = [] :=
  List.drop_eq_nil_of_le (Nat.le_of_eq Array.length_toList)

theorem tells_perform (i : Installation) (op : Sensor.Op) :
    i.tells [.perform op] =
      Sensor.announced (i.sensor.perform i.site.conditions op).effects := by
  have log := i.log_run [.perform op]
  exact (List.append_cancel_left ((Site.log_absorbAll _ _).symm.trans log)).symm

/-- Power and access are not the sensor's to tell of. -/
theorem tells_power (i : Installation) (status : PowerStatus) : i.tells [.power status] = [] :=
  i.tells_nil

theorem tells_access (i : Installation) (access : Access) : i.tells [.access access] = [] :=
  i.tells_nil

/-! ## What every run keeps -/

theorem run_wellFormed {i : Installation} (wf : i.sensor.WellFormed) (hs : List Happening) :
    (i.run hs).sensor.WellFormed ∧ (i.run hs).sensor.identity = i.sensor.identity := by
  let invariant : List Event → Sensor → Prop :=
    fun _ s => s.WellFormed ∧ s.identity = i.sensor.identity
  obtain ⟨_, -, holds⟩ := run_invariant invariant i hs ⟨wf, rfl⟩ (by
    intro op s effects s' events _ move holds
    exact ⟨move.wellFormed holds.1, move.identity.trans holds.2⟩)
  exact holds

/-! ## A sample -/

/-- A temperature that is read while there is power, with two thresholds. -/
def sampleDefinition : Definition :=
  { name := "inlet", configuration := "/board/inlet", model := "TMP75", unit := "DegreesC"
    min := 0, max := 100
    thresholds := [.ofTrigger ⟨.warning, .high⟩ 80, .ofBand ⟨.critical, .high⟩ 95 5]
    mutable := true, settable := false, power := .on, errorLimit := none, statistics := false }

/-- The sample with a single threshold. -/
def editedDefinition : Definition :=
  { sampleDefinition with thresholds := [.ofTrigger ⟨.warning, .high⟩ 80] }

/-- An alarm is raised, its thresholds are replaced and an override is written. -/
def sampleRun : List Happening :=
  [.power ⟨true, false⟩, .perform (.feed 96),
    .perform (.replaceThresholds [.ofBand ⟨.warning, .high⟩ 70 2]), .access ⟨true, false⟩,
    .perform (.write 75), .perform .countError]

theorem exists_sample : ∃ i, make .fresh sampleDefinition = .ok i := by
  have accepted : (make .fresh sampleDefinition).toOption.isSome = true := by decide
  cases made : make .fresh sampleDefinition with
  | ok i => exact ⟨i, rfl⟩
  | error failure =>
      rw [made] at accepted
      cases accepted

/-- What is found by running a definition holds of the installation that it makes. -/
theorem exists_made {site : Site} {d : Definition} {p : Installation → Bool}
    (found : (make site d).toOption.any p = true) : ∃ i, make site d = .ok i ∧ p i = true :=
  exists_ok_of_any found

theorem pristine_sampleRun : ∀ ts, .perform (.replaceThresholds ts) ∈ sampleRun →
    ∀ t ∈ ts, t.active = false := by
  intro ts asked t member
  simp only [sampleRun, List.mem_cons, Happening.perform.injEq, Sensor.Op.replaceThresholds.injEq,
    reduceCtorEq, List.not_mem_nil, or_false, false_or] at asked
  subst asked
  rw [List.mem_singleton.1 member]
  rfl

end Installation

end SensorMonitor
