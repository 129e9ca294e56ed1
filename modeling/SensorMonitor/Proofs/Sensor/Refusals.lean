/-
# Proofs.Sensor.Refusals -- what is refused leaves no trace

Three operations can be refused, each for causes that are known before anything is done
(`Refused`): a write that is not allowed, an edit of a trigger that is not finite or of a
slot without a threshold, and definitions with a flaw.  A refused operation leaves the
sensor, the site and whoever keeps the sensor as they were, and has no effects: no hook
is told, and no write is stamped (`perform_of_refused`, `Fleet.spared_of_refused`).

A definition can be refused too, for a flaw of its own or because its path is taken.  In
the second case there already is a sensor, which ends without having been registered.  The
end of a registered sensor takes its path from the bus; the end of this one does not, since
the path belongs to another (`Site.attempt_of_error`).
-/
import SensorMonitor.Fleet
import SensorMonitor.Proofs.Sensor.Installation

namespace SensorMonitor

set_option autoImplicit false

/-! ## Refused operations -/

namespace Sensor

/-- The causes for which an operation is refused, each with its failure. -/
inductive Refused (c : Conditions) (s : Sensor) : Op → Failure → Prop where
  | denied (x : Float) (closed : c.access.allows s.settable = false) :
      Refused c s (.write x) s.writeDenied
  | notFinite (slot : Slot) {x : Float} (infinite : x.isFinite = false) :
      Refused c s (.setTrigger slot x) (.threshold slot.triggerProperty .triggerNotFinite)
  | notDefined {slot : Slot} {x : Float} (finite : x.isFinite = true)
      (absent : s.thresholds.get? slot = none) :
      Refused c s (.setTrigger slot x) (.threshold slot.triggerProperty .notDefined)
  | flawed {ts : List Threshold} {failure : Failure}
      (flaw : Thresholds.ofList ts = .error failure) : Refused c s (.replaceThresholds ts) failure

variable {c : Conditions} {s : Sensor} {op : Op} {failure : Failure}

/-- A cause is enough, and what is refused is refused whole. -/
theorem Refused.perform_eq (refused : Refused c s op failure) :
    s.perform c op = .refuse s failure := by
  cases refused with
  | denied x closed => exact if_neg (by rw [closed]; decide)
  | notFinite slot infinite =>
      simp only [perform, setTrigger, Thresholds.setTrigger, infinite]
      rfl
  | notDefined finite absent =>
      simp only [perform, setTrigger, Thresholds.setTrigger, finite, absent]
      rfl
  | flawed flaw =>
      simp only [perform, replaceThresholds, definitions, flaw]
      rfl

/-- **There is no other cause.** -/
theorem reply_eq_refused_iff :
    (s.perform c op).reply = .refused failure ↔ Refused c s op failure := by
  constructor
  · intro replied
    cases op with
    | write x =>
        simp only [perform, write] at replied
        split at replied
        · cases replied
        · next closed =>
            cases replied
            exact .denied x (by simpa using closed)
    | setTrigger slot x =>
        simp only [perform, setTrigger, Thresholds.setTrigger] at replied
        cases finite : x.isFinite with
        | false =>
            rw [finite] at replied
            cases replied
            exact .notFinite slot finite
        | true =>
            rw [finite] at replied
            cases found : s.thresholds.get? slot with
            | none =>
                rw [found] at replied
                cases replied
                exact .notDefined finite found
            | some t =>
                rw [found] at replied
                cases replied
    | replaceThresholds ts =>
        simp only [perform, replaceThresholds, definitions] at replied
        cases given : Thresholds.ofList ts with
        | error flaw =>
            rw [given] at replied
            cases replied
            exact .flawed given
        | ok thresholds =>
            rw [given] at replied
            dsimp only [Except.map] at replied
            split at replied <;> cases replied
    | _ => cases replied
  · intro refused
    rw [refused.perform_eq]
    rfl

theorem perform_of_refused (replied : (s.perform c op).reply = .refused failure) :
    s.perform c op = .refuse s failure :=
  (reply_eq_refused_iff.1 replied).perform_eq

end Sensor

/-! ## At a site and in a fleet -/

theorem Installation.step_of_refused {i : Installation} {op : Sensor.Op} {failure : Failure}
    (replied : (i.sensor.perform i.site.conditions op).reply = .refused failure) :
    i.step (.perform op) = i := by
  simp only [step, Sensor.perform_of_refused replied]
  rfl

theorem ExternalSensor.perform_of_refused {c : Conditions} {now : Nat} {op : Sensor.Op}
    {e : ExternalSensor} {failure : Failure}
    (replied : (e.perform c now op).2.2 = .refused failure) :
    e.perform c now op = (e, [], .refused failure) := by
  simp only [perform, Sensor.perform_of_refused replied]
  rfl

theorem ExternalSensor.write_of_refused {c : Conditions} {now : Nat} {x : Float}
    {e : ExternalSensor} {failure : Failure}
    (replied : (e.write c now x).2.2 = .refused failure) :
    e.write c now x = (e, [], .refused failure) := by
  rcases performed : e.perform c now (.write x) with ⟨written, effects, reply⟩
  simp only [write, performed] at replied ⊢
  cases reply with
  | done | changed b => cases replied
  | refused failure' =>
      cases replied
      have same := perform_of_refused (congrArg (·.2.2) performed)
      rw [performed] at same
      exact same

namespace AnySensor

variable {c : Conditions} {now : Nat} {member : AnySensor} {failure : Failure}

theorem perform_of_refused {op : Sensor.Op}
    (replied : (member.perform c now op).2.2 = .refused failure) :
    member.perform c now op = (member, [], .refused failure) := by
  cases member with
  | plain s =>
      simp only [perform, Sensor.perform_of_refused replied]
      rfl
  | external e =>
      have same : e.perform c now op = _ := ExternalSensor.perform_of_refused replied
      simp only [perform, same]

theorem write_of_refused {x : Float}
    (replied : (member.write c now x).2.2 = .refused failure) :
    member.write c now x = (member, [], .refused failure) := by
  cases member with
  | plain s =>
      have same : (plain s).perform c now (.write x) = _ := perform_of_refused replied
      exact same
  | external e =>
      have same : e.write c now x = _ := ExternalSensor.write_of_refused replied
      simp only [write, same]

end AnySensor

namespace Fleet

/-- The fleet is as it was, and there was nothing to carry out. -/
structure Spared (f f' : Fleet) (effects : List Sensor.Effect) : Prop where
  effects : effects = []
  site : f'.site = f.site
  now : f'.now = f.now
  members : ∀ name, f'.get? name = f.get? name

theorem spared_of_refused {f f' : Fleet} {name : String}
    {what : Conditions → Nat → AnySensor → AnySensor × List Sensor.Effect × Sensor.Reply}
    {effects : List Sensor.Effect} {failure : Failure}
    (whole : ∀ {c now member}, (what c now member).2.2 = .refused failure →
      what c now member = (member, [], .refused failure))
    (asked : f.doWith name what = some (f', effects, .refused failure)) : f.Spared f' effects := by
  simp only [doWith] at asked
  cases found : f.get? name with
  | none =>
      rw [found] at asked
      cases asked
  | some member =>
      rw [found, Option.map_some, Option.some.injEq, Prod.mk.injEq, Prod.mk.injEq] at asked
      obtain ⟨made, caused, replied⟩ := asked
      rw [whole replied] at made caused
      subst made caused
      refine ⟨rfl, rfl, rfl, ?_⟩
      intro other
      simp only [get?, Std.TreeMap.getElem?_insert]
      split
      · next same =>
          rw [← Std.LawfulEqCmp.eq_of_compare same]
          exact found.symm
      · rfl

end Fleet

/-! ## Refused definitions -/

namespace Site

/-- Makes and publishes the sensor of a definition, with the site that a failure leaves: a sensor
that could not be published ends. -/
def attempt (site : Site) (d : Definition) : Except Failure Sensor × Site :=
  match Sensor.ofDefinition d with
  | .error failure => (.error failure, site)
  | .ok s =>
      match site.register s with
      | .error failure => (.error failure, site.retire s)
      | .ok (s, published) => (.ok s, published)

/-- The causes for which a definition is refused, each with its failure. -/
inductive Unfit (site : Site) (d : Definition) : Failure → Prop where
  | name {failure : Failure} (flaw : Definition.checkName d.name = .error failure) :
      Unfit site d failure
  | unit {failure : Failure} (flaw : Definition.quantityOf d.unit = .error failure) :
      Unfit site d failure
  | bounds {failure : Failure} (flaw : Definition.checkBounds d.min d.max = .error failure) :
      Unfit site d failure
  | thresholds {failure : Failure} (flaw : Thresholds.ofList d.thresholds = .error failure) :
      Unfit site d failure
  | taken {s : Sensor} (made : Sensor.ofDefinition d = .ok s)
      (registered : site.bus.isRegistered s.identity.path = true) :
      Unfit site d (.unpublished s.identity.path "object path already registered")

variable {site : Site} {d : Definition} {failure : Failure}

/-- An attempt makes what is made. -/
theorem create_eq_attempt (site : Site) (d : Definition) :
    site.create d = (site.attempt d).1.map fun s => (s, (site.attempt d).2) := by
  simp only [create, attempt]
  cases Sensor.ofDefinition d with
  | error failure => rfl
  | ok s =>
      simp only [bind, Except.bind]
      cases site.register s <;> rfl

/-- **A definition that is refused leaves no trace**: no path is removed from the bus. -/
theorem attempt_of_error (failed : (site.attempt d).1 = .error failure) :
    (site.attempt d).2 = site := by
  simp only [attempt] at failed ⊢
  cases made : Sensor.ofDefinition d with
  | error failure' => rfl
  | ok s =>
      rw [made] at failed
      dsimp only at failed ⊢
      cases registered : site.register s with
      | ok published =>
          rw [registered] at failed
          cases failed
      | error failure' =>
          obtain ⟨unregistered, -, quantity, thresholds, described⟩ :=
            Sensor.described_of_ofDefinition made
          have nothing : s.retire = [] := by
            rw [Sensor.retire, described.key, unregistered]
            rfl
          dsimp only
          rw [retire, nothing]
          rfl

/-- **There is no other cause.** -/
theorem unfit_of_error (failed : (site.attempt d).1 = .error failure) : site.Unfit d failure := by
  simp only [attempt] at failed
  cases made : Sensor.ofDefinition d with
  | ok s =>
      rw [made] at failed
      dsimp only at failed
      cases taken : site.bus.isRegistered s.identity.path with
      | true =>
          rw [register, Bus.register, if_pos taken] at failed
          cases failed
          exact .taken made taken
      | false =>
          rw [register, Bus.register, taken] at failed
          cases failed
  | error failure' =>
      rw [made] at failed
      cases failed
      simp only [Sensor.ofDefinition] at made
      rcases bind_eq_error made with flaw | ⟨_, -, made⟩
      · exact .name flaw
      rcases bind_eq_error made with flaw | ⟨quantity, -, made⟩
      · exact .unit flaw
      rcases bind_eq_error made with flaw | ⟨_, -, made⟩
      · exact .bounds flaw
      rcases bind_eq_error made with flaw | ⟨thresholds, -, made⟩
      · exact .thresholds flaw
      · cases made

/-- Every cause is enough, though another may be the one that is told. -/
theorem Unfit.refused (unfit : site.Unfit d failure) :
    ∃ failure', (site.attempt d).1 = .error failure' := by
  cases outcome : (site.attempt d).1 with
  | error failure' => exact ⟨failure', rfl⟩
  | ok s =>
      exfalso
      have created := site.create_eq_attempt d
      rw [outcome] at created
      have created := created_of_create created
      obtain ⟨quantity, thresholds, described⟩ := created.made.described
      cases unfit with
      | name flaw => cases described.named.symm.trans flaw
      | unit flaw => cases described.measured.symm.trans flaw
      | bounds flaw => cases described.bounded.symm.trans flaw
      | thresholds flaw => cases described.defined.symm.trans flaw
      | taken made' taken =>
          have path := congrArg (·.identity.path) (Except.ok.inj (created.made.symm.trans made'))
          cases created.free.symm.trans ((congrArg site.bus.isRegistered path).trans taken)

end Site

/-- **What is refused changes nothing.**  A refused operation leaves a sensor with its site, or a
fleet, exactly as it was, and has no effects at all.  A refused definition leaves the site as it
was, so that whoever has its path keeps it.  The causes are those that are listed, and no others. -/
theorem refusals_change_nothing :
    (∀ (i : Installation) (op : Sensor.Op) (failure : Failure),
      let outcome := i.sensor.perform i.site.conditions op
      (outcome.reply = .refused failure ↔
          Sensor.Refused i.site.conditions i.sensor op failure) ∧
        (outcome.reply = .refused failure →
          i.step (.perform op) = i ∧ outcome.effects = [])) ∧
    (∀ (f f' : Fleet) (name : String) (effects : List Sensor.Effect) (failure : Failure),
      (∀ op, f.perform name op = some (f', effects, .refused failure) → f.Spared f' effects) ∧
        ∀ x, f.doWith name (fun c now => AnySensor.write c now x) =
          some (f', effects, .refused failure) → f.Spared f' effects) ∧
    ∀ (site : Site) (d : Definition),
      (site.create d = (site.attempt d).1.map fun s => (s, (site.attempt d).2)) ∧
      (∀ failure, (site.attempt d).1 = .error failure →
        (site.attempt d).2 = site ∧ site.Unfit d failure) ∧
      ∀ failure, site.Unfit d failure → ∃ failure', (site.attempt d).1 = .error failure' := by
  refine ⟨?_, ?_, ?_⟩
  · intro i op failure
    refine ⟨Sensor.reply_eq_refused_iff, ?_⟩
    intro replied
    refine ⟨Installation.step_of_refused replied, ?_⟩
    rw [Sensor.perform_of_refused replied]
    rfl
  · intro f f' name effects failure
    exact ⟨fun op => Fleet.spared_of_refused AnySensor.perform_of_refused,
      fun x => Fleet.spared_of_refused AnySensor.write_of_refused⟩
  · intro site d
    exact ⟨site.create_eq_attempt d,
      fun failure failed => ⟨Site.attempt_of_error failed, Site.unfit_of_error failed⟩,
      fun failure unfit => unfit.refused⟩

/-- A write without leave, a trigger that is not a number, a threshold without a trigger, and a
second sensor at the same path. -/
theorem refusals_change_nothing_sample :
    ∃ i, Installation.make .fresh Installation.sampleDefinition = .ok i ∧
      i.step (.perform (.write 75)) = i ∧
      i.step (.perform (.setTrigger ⟨.warning, .high⟩ Number.nan)) = i ∧
      i.step (.perform (.replaceThresholds [.ofTrigger ⟨.warning, .high⟩ Number.nan])) = i ∧
      (∃ failure, (i.site.attempt Installation.sampleDefinition).1 = .error failure) ∧
      (i.site.attempt Installation.sampleDefinition).2 = i.site := by
  have found : (Installation.make .fresh Installation.sampleDefinition).toOption.any (fun i =>
      !i.site.conditions.access.allows i.sensor.settable &&
        i.site.bus.isRegistered i.sensor.identity.path) = true := by
    decide +kernel
  obtain ⟨i, made, found⟩ := Installation.exists_made found
  simp only [Bool.and_eq_true, Bool.not_eq_true'] at found
  obtain ⟨closed, registered⟩ := found
  obtain ⟨operations, -, definitions⟩ := refusals_change_nothing
  have unchanged : ∀ {op failure}, Sensor.Refused i.site.conditions i.sensor op failure →
      i.step (.perform op) = i := fun {op failure} refused =>
    ((operations i op failure).2 ((operations i op failure).1.2 refused)).1
  have defined := (Installation.make_eq_ok made).1
  obtain ⟨-, traceless, unfit⟩ := definitions i.site Installation.sampleDefinition
  obtain ⟨failure, failed⟩ := unfit _ (.taken defined registered)
  exact ⟨i, made, unchanged (.denied 75 closed), unchanged (.notFinite _ rfl),
    unchanged (.flawed rfl), ⟨failure, failed⟩, (traceless failure failed).1⟩

end SensorMonitor
