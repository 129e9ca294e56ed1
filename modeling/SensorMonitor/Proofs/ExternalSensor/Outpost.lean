/-
# Proofs.ExternalSensor.Outpost -- a sensor that is written from outside, at its site

An outpost is an external sensor with the site at which it is published and the time.  What
comes up there (`Occasion`) is a write, a check of the value, a change of power or access,
time that passes, or upkeep: any operation but a reading, a write that is meant as an
override, and a new hook.

An operation that is not about the hook leaves the hook alone and tells it nothing
(`Sensor.unhooked_perform`), so only writes stamp the time.  Each occasion does one thing to
the external sensor (`external_write`, `external_check`, `external_perform`), and none ever
leaves an override behind, or a number on a sensor that was found stale (`InOrder.run`).
-/
import SensorMonitor.ExternalSensor
import SensorMonitor.Proofs.Sensor.Laws
import SensorMonitor.Proofs.Sensor.Override

namespace SensorMonitor

set_option autoImplicit false

namespace Sensor

/-! ## The hook -/

/-- The sensor may be written as before and has the same hook, and no hook is told. -/
structure Unhooked (s s' : Sensor) (effects : List Effect) : Prop where
  settable : s'.settable = s.settable
  hook : s'.hook = s.hook
  untold : ∀ e ∈ effects, ∀ hook x, e ≠ .tell hook x

theorem Unhooked.refl (s : Sensor) : Unhooked s s [] := ⟨rfl, rfl, List.forall_mem_nil _⟩

theorem quietLaw_unhooked : QuietLaw Unhooked where
  trans first second := by
    refine ⟨second.settable.trans first.settable, second.hook.trans first.hook, ?_⟩
    intro e member
    rcases List.mem_append.1 member with early | late
    · exact first.untold e early
    · exact second.untold e late
  move wiring := ⟨wiring.settable, wiring.hook, List.forall_mem_nil _⟩
  evaluate s x := ⟨rfl, rfl, List.forall_mem_nil _⟩
  announce s p := ⟨rfl, rfl, by simp⟩
  share x key := ⟨rfl, rfl, by simp⟩

/-- **Only a write tells the hook, and only a new hook replaces it.** -/
theorem unhooked_perform (c : Conditions) {op : Op} (quiet : op.isQuiet = true) (s : Sensor) :
    Unhooked s (s.perform c op).sensor (s.perform c op).effects := by
  by_cases plain : op.isPlain = true
  · exact quietLaw_unhooked.perform c plain quiet s
  · cases op with
    | setTrigger slot x =>
        change Unhooked s (s.setTrigger slot x).sensor (s.setTrigger slot x).effects
        obtain ⟨failure, refused⟩ | ⟨thresholds, edited, accepted⟩ := setTrigger_cases slot x s
        · rw [refused]
          exact .refl s
        · rw [accepted]
          exact ⟨rfl, rfl, by
            simp [Outcome.ofAct, Act.editThreshold, Act.publish, Act.forget, Act.change]⟩
    | replaceThresholds ts =>
        change Unhooked s (s.replaceThresholds ts).sensor (s.replaceThresholds ts).effects
        obtain ⟨failure, refused⟩ | same | ⟨abandoned, thresholds, adopted⟩ :=
          replaceThresholds_cases ts s
        · rw [refused]
          exact .refl s
        · rw [same]
          exact .refl s
        · rw [adopted]
          exact quietLaw_unhooked.readings.adoptThresholds _ _ ⟨rfl, rfl, List.forall_mem_nil _⟩
    | attach key => exact ⟨rfl, rfl, by simp [perform, Outcome.ofAct, Act.attach]⟩
    | _ => exact absurd rfl plain

/-! ## Receptive sensors -/

/-- Nobody overrides the sensor, it may be written, and its hook stamps the time of writes. -/
structure Receptive (s : Sensor) : Prop where
  free : s.overridden = false
  rest : s.internal = false
  settable : s.settable = true
  hook : s.hook = some .stamp

section Receptive

variable {s : Sensor}

/-- Whatever is not about the hook leaves a sensor receptive. -/
theorem Receptive.perform (receptive : s.Receptive) (c : Conditions) {op : Op}
    (quiet : op.isQuiet = true) : (s.perform c op).sensor.Receptive := by
  have unhooked := unhooked_perform c quiet s
  obtain ⟨internal, overridden⟩ := control_perform c op receptive.rest
  have unwritten : op.overrides c s = false := by
    cases op with
    | write x => cases quiet
    | _ => rfl
  rw [unwritten, receptive.free, Bool.and_false, Bool.or_false] at overridden
  exact ⟨overridden, internal, unhooked.settable.trans receptive.settable,
    unhooked.hook.trans receptive.hook⟩

/-- **A receptive sensor takes every write**, stamps it, and is receptive again when the override
that the write is has ended. -/
theorem Receptive.write (receptive : s.Receptive) (c : Conditions) (x : Float) :
    (s.perform c (.write x)).reply = .done ∧
      .tell .stamp x ∈ (s.perform c (.write x)).effects ∧
      (s.perform c (.write x)).sensor.value = x ∧
      ({ (s.perform c (.write x)).sensor with overridden := false } : Sensor).Receptive := by
  let checked := (Act.setValue x).andThen Act.checkThresholds s
  have law := quietLaw_unhooked.readings
  obtain ⟨settable, hook, -⟩ : Unhooked s checked.1 checked.2 :=
    law.andThen (law.setValue x) law.checkThresholds s
  have told : (Act.tellHook x checked.1).2 = [.tell .stamp x] := by
    simp only [Act.tellHook]
    rw [hook, receptive.hook]
  have accepted : c.access.allows s.settable = true := by
    rw [receptive.settable]
    rfl
  have written : s.perform c (.write x) =
      ⟨checked.1, checked.2 ++ (Act.tellHook x checked.1).2, .done⟩ := if_pos accepted
  obtain ⟨value, -, internal, -⟩ :=
    write_spec receptive.rest ((overrides_write c x s).trans accepted)
  rw [written] at value internal ⊢
  refine ⟨rfl, ?_, value, rfl, internal, settable.trans receptive.settable,
    hook.trans receptive.hook⟩
  rw [told]
  exact List.mem_append_right _ List.mem_cons_self

end Receptive

/-! ## The value -/

namespace Act

variable {power : PowerStatus} {s : Sensor}

/-- **A lost reading takes the value away and shows just this**, with power or without. -/
theorem feed_nan (free : s.overridden = false) (rest : s.internal = false) :
    (feed power Number.nan s).1.value.isNaN = true ∧
      shown (feed power Number.nan s).2 = (store Number.nan s).2 := by
  have admitted : s.measurement.admits Number.nan = true := admits_of_isNaN _ Number.isNaN_nan
  cases readable : s.isReadable power with
  | false =>
      refine ⟨by rw [(feed_unreadable _ free readable).1, Number.isNaN_nan], ?_⟩
      rw [feed_of_unreadable _ free rest readable, andThen_snd, shown_append,
        (aside_noteAvailable s false).shown, shown_store, noteAvailable_fst]
      rfl
  | true =>
      refine ⟨by rw [(feed_readable _ free readable).1, admitted, if_pos rfl, Number.isNaN_nan], ?_⟩
      rw [shown_feed_of_readable _ free rest readable, admitted, if_pos rfl]

end Act

theorem Op.isQuiet_of_isUpkeep {op : Op} (upkeep : op.isUpkeep = true) : op.isQuiet = true := by
  cases op with
  | write x | setHook hook => cases upkeep
  | _ => rfl

end Sensor

/-! ## Stamps -/

/-- The effect is a stamp. -/
def Sensor.Effect.isStamp : Sensor.Effect → Bool
  | .tell .stamp _ => true
  | _ => false

namespace ExternalSensor

variable (e : ExternalSensor) (now : Nat) {outcome : Sensor.Outcome}

theorem absorb_eq (outcome : Sensor.Outcome) :
    e.absorb now outcome =
      { e with
        sensor := outcome.sensor
        lastWrite :=
          if outcome.effects.any Sensor.Effect.isStamp then some now else e.lastWrite } :=
  rfl

theorem absorb_of_unhooked {s : Sensor}
    (unhooked : Sensor.Unhooked s outcome.sensor outcome.effects) :
    e.absorb now outcome = { e with sensor := outcome.sensor } := by
  have unstamped : outcome.effects.any Sensor.Effect.isStamp = false := by
    refine List.any_eq_false.2 ?_
    intro effect member
    cases effect with
    | tell hook x => exact absurd rfl (unhooked.untold _ member hook x)
    | announce event | share key x | unlist key | keep configuration model t =>
        simp [Sensor.Effect.isStamp]
  rw [absorb_eq, unstamped]
  rfl

theorem absorb_of_stamp {x : Float} (told : .tell .stamp x ∈ outcome.effects) :
    e.absorb now outcome = { e with sensor := outcome.sensor, lastWrite := some now } := by
  have stamped : outcome.effects.any Sensor.Effect.isStamp = true :=
    List.any_eq_true.2 ⟨_, told, rfl⟩
  rw [absorb_eq, stamped]
  rfl

end ExternalSensor

/-! ## Outposts -/

/-- An external sensor, the site at which it is published, and the time. -/
structure Outpost where
  external : ExternalSensor
  site : Site
  now : Nat

/-- What can come up at an outpost. -/
inductive Occasion where
  | pass (ns : Nat)
  | power (status : PowerStatus)
  | access (access : Access)
  | write (x : Float)
  | check
  | perform (op : Sensor.Op)

/-- The occasion is no reading, no override and no new hook. -/
def Occasion.isRegular : Occasion → Bool
  | .perform op => op.isUpkeep
  | _ => true

namespace Outpost

/-- Makes the external sensor of a definition and publishes it at a site. -/
def make (site : Site) (d : Definition) (timeout : Option Nat) (now : Nat) :
    Except Failure Outpost :=
  (site.createExternal d timeout).map fun made => ⟨made.1, made.2, now⟩

/-- One occasion, with the effects carried out. -/
def step (o : Outpost) : Occasion → Outpost
  | .pass ns => { o with now := o.now + ns }
  | .power status =>
      { o with site := { o.site with conditions := { o.site.conditions with power := status } } }
  | .access access =>
      { o with site := { o.site with conditions := { o.site.conditions with access := access } } }
  | .write x =>
      let (e, effects, _) := o.external.write o.site.conditions o.now x
      { o with external := e, site := o.site.absorbAll effects }
  | .check =>
      let (e, effects, _) := o.external.checkTimeout o.site.conditions o.now
      { o with external := e, site := o.site.absorbAll effects }
  | .perform op =>
      let (e, effects, _) := o.external.perform o.site.conditions o.now op
      { o with external := e, site := o.site.absorbAll effects }

/-- One occasion after another. -/
def run (o : Outpost) (cs : List Occasion) : Outpost := cs.foldl step o

/-- The sensor itself. -/
def sensor (o : Outpost) : Sensor := o.external.sensor

/-- The value has not perished. -/
def isViable (o : Outpost) : Bool := o.external.isViable o.now

/-- A check takes the value away now. -/
def expires (o : Outpost) : Bool :=
  (o.external.checkTimeout o.site.conditions o.now).2.2

theorem run_append (o : Outpost) (cs cs' : List Occasion) :
    o.run (cs ++ cs') = (o.run cs).run cs' :=
  List.foldl_append

/-- The last occasion of a run. -/
theorem run_concat (o : Outpost) (cs : List Occasion) (c : Occasion) :
    o.run (cs ++ [c]) = (o.run cs).step c :=
  o.run_append cs [c]

/-- An occasion of a run is the last one, or one of the run before. -/
theorem eq_or_of_concat {cs before after : List Occasion} {c last : Occasion}
    (split : cs ++ [last] = before ++ c :: after) :
    (before = cs ∧ c = last ∧ after = []) ∨
      ∃ rest, after = rest ++ [last] ∧ cs = before ++ c :: rest := by
  obtain rfl | ⟨rest, last', rfl⟩ := after.eq_nil_or_concat
  · obtain ⟨rfl, asked⟩ := List.append_inj' split rfl
    cases asked
    exact Or.inl ⟨rfl, rfl, rfl⟩
  · rw [List.concat_eq_append] at split ⊢
    have split : cs ++ [last] = before ++ c :: rest ++ [last'] := split.trans (by simp)
    obtain ⟨rfl, asked⟩ := List.append_inj' split rfl
    cases asked
    exact Or.inr ⟨rest, rfl, rfl⟩

theorem expires_eq_true_iff (o : Outpost) :
    o.expires = true ↔ o.isViable = false ∧ o.external.stale = false := by
  simp only [expires, ExternalSensor.checkTimeout, isViable]
  cases o.external.isViable o.now <;> cases o.external.stale <;> simp

/-- Where there is nothing to take away, a check does nothing. -/
theorem step_check_of_not_expires {o : Outpost} (idle : o.expires = false) :
    o.step .check = o := by
  rw [← Bool.not_eq_true, expires_eq_true_iff, not_and, isViable, Bool.not_eq_false] at idle
  have spared : (o.external.isViable o.now || o.external.stale) = true := by
    cases viable : o.external.isViable o.now with
    | true => rfl
    | false => exact idle viable
  simp only [step, ExternalSensor.checkTimeout]
  rw [spared]
  rfl

/-! ## What occasions do -/

/-- The sensor is receptive, and one that was found stale has no value. -/
structure InOrder (o : Outpost) : Prop where
  receptive : o.sensor.Receptive
  lost : o.external.stale = true → o.sensor.value.isNaN = true

section Occasions

variable {o : Outpost}

/-- A write is stamped and ends the override that it is. -/
theorem external_write (order : o.InOrder) (x : Float) : (o.step (.write x)).external =
    { o.external with
      sensor := { (o.sensor.perform o.site.conditions (.write x)).sensor with overridden := false }
      lastWrite := some o.now
      stale := false } := by
  obtain ⟨done, told, -, -⟩ := order.receptive.write o.site.conditions x
  have absorbed := o.external.absorb_of_stamp o.now told
  simp only [sensor] at done absorbed
  simp only [step, ExternalSensor.write, ExternalSensor.perform]
  rw [done, absorbed]
  rfl

/-- The check that takes the value away marks it as stale and is a lost reading otherwise. -/
theorem step_check_of_expires (expires : o.expires = true) : o.step .check =
    let fed := o.sensor.perform o.site.conditions (.feed Number.nan)
    { o with
      external := { o.external with sensor := fed.sensor, stale := true }
      site := o.site.absorbAll fed.effects } := by
  have quiet : (Sensor.Op.feed Number.nan).isQuiet = true := rfl
  have fed := ({ o.external with stale := true } : ExternalSensor).absorb_of_unhooked o.now
    (Sensor.unhooked_perform o.site.conditions quiet o.sensor)
  obtain ⟨perished, unmarked⟩ := o.expires_eq_true_iff.1 expires
  simp only [isViable] at perished
  simp only [step, ExternalSensor.checkTimeout]
  rw [perished, unmarked]
  exact congrArg (Outpost.mk · _ _) fed

theorem external_check (expires : o.expires = true) : (o.step .check).external =
    { o.external with
      sensor := (o.sensor.perform o.site.conditions (.feed Number.nan)).sensor
      stale := true } :=
  congrArg external (step_check_of_expires expires)

theorem external_perform {op : Sensor.Op} (quiet : op.isQuiet = true) :
    (o.step (.perform op)).external =
      { o.external with sensor := (o.sensor.perform o.site.conditions op).sensor } :=
  o.external.absorb_of_unhooked o.now (Sensor.unhooked_perform o.site.conditions quiet o.sensor)

/-- **Nothing that comes up puts an outpost out of order.** -/
theorem InOrder.step (order : o.InOrder) {c : Occasion} (regular : c.isRegular = true) :
    (o.step c).InOrder := by
  obtain ⟨receptive, lost⟩ := order
  cases c with
  | pass ns | power status | access access => exact ⟨receptive, lost⟩
  | write x =>
      have after := external_write ⟨receptive, lost⟩ x
      obtain ⟨-, -, -, receptive'⟩ := receptive.write o.site.conditions x
      refine ⟨?_, ?_⟩ <;> simp only [sensor, after]
      · exact receptive'
      · intro stale
        cases stale
  | check =>
      cases expires : o.expires with
      | false =>
          rw [step_check_of_not_expires expires]
          exact ⟨receptive, lost⟩
      | true =>
          have after := external_check expires
          refine ⟨?_, ?_⟩ <;> simp only [sensor, after]
          · exact receptive.perform o.site.conditions rfl
          · exact fun _ => (Sensor.Act.feed_nan receptive.free receptive.rest).1
  | perform op =>
      have quiet := Sensor.Op.isQuiet_of_isUpkeep regular
      have after := external_perform (o := o) quiet
      refine ⟨?_, ?_⟩ <;> simp only [sensor, after]
      · exact receptive.perform o.site.conditions quiet
      · intro stale
        obtain value | value := Sensor.value_perform o.site.conditions regular o.sensor
        · exact (congrArg Float.isNaN value).trans (lost stale)
        · exact value

theorem InOrder.run (order : o.InOrder) {cs : List Occasion}
    (regular : ∀ c ∈ cs, c.isRegular = true) : (o.run cs).InOrder := by
  induction cs generalizing o with
  | nil => exact order
  | cons c cs ih =>
      obtain ⟨here, later⟩ := List.forall_mem_cons.1 regular
      exact ih (order.step here) later

/-! ## The start -/

/-- An outpost that was just made is in order, and its sensor works and was not found stale. -/
theorem make_eq_ok {site : Site} {d : Definition} {timeout : Option Nat} {now : Nat}
    (made : make site d timeout now = .ok o) :
    o.InOrder ∧ o.external.timeout = timeout ∧ o.external.stale = false ∧
      o.sensor.health = .ofLimit (d.errorLimit.getD Health.usualLimit) := by
  simp only [make] at made
  cases created : site.createExternal d timeout with
  | error failure =>
      rw [created] at made
      cases made
  | ok pair =>
      rw [created] at made
      cases made
      obtain ⟨created, hook, perishes, fresh⟩ := Site.created_of_createExternal created
      obtain ⟨free, rest, health⟩ := created.made.start
      obtain ⟨quantity, thresholds, described⟩ := created.made.described
      refine ⟨⟨⟨free, rest, described.settable, hook⟩, ?_⟩, perishes, fresh, health⟩
      intro stale
      cases fresh.symm.trans stale

end Occasions

end Outpost

end SensorMonitor
