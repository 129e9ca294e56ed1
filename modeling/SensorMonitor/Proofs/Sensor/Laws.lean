/-
# Proofs.Sensor.Laws -- what holds of every act made of readings and writes

A law relates a sensor to what becomes of it and to the effects on the way.  It is kept
by acts in a row, and by the few things that acts are made of: something about the sensor
itself moves, its alarms are put to a value, a property is announced at its path, a value
is shown under its key.  Bounds are moved by one operation only: what is kept with them in
place (`ReadingLaw`) is kept by all that readings are made of, and what is kept without
(`QuietLaw`) by that one too.  A hook is set by one operation only, and is told of writes
only.  Whatever keeps these two as well (`Law`) keeps every operation but the three that edit
a trigger, swap definitions or ask for another key (`Law.perform`).
-/
import SensorMonitor.Sensor.Op

namespace SensorMonitor.Sensor

set_option autoImplicit false

/-- The two sensors are published in the same way, written by the same and tell the same hook, and
their thresholds are the same. -/
structure SameWiring (s s' : Sensor) : Prop where
  identity : s'.identity = s.identity
  registered : s'.registered = s.registered
  key : s'.key = s.key
  thresholds : s'.thresholds = s.thresholds
  settable : s'.settable = s.settable
  hook : s'.hook = s.hook

/-- The two sensors have the same bounds. -/
structure SameBounds (s s' : Sensor) : Prop where
  min : s'.measurement.min = s.measurement.min
  max : s'.measurement.max = s.measurement.max

/-- A relation between a sensor, what becomes of it and the effects, which goes through acts in a
row and holds of all that acts are made of which leave the bounds and the hook alone. -/
structure ReadingLaw (R : Sensor → Sensor → List Effect → Prop) : Prop where
  trans : ∀ {s s' s'' : Sensor} {effects effects' : List Effect}, R s s' effects →
    R s' s'' effects' → R s s'' (effects ++ effects')
  move : ∀ {s s' : Sensor}, SameWiring s s' → SameBounds s s' → R s s' []
  evaluate : ∀ (s : Sensor) (x : Float), R s { s with thresholds := s.thresholds.evaluate x } []
  announce : ∀ (s : Sensor) (p : Property), R s s [.announce (.changed s.identity.path p)]
  share : ∀ {s : Sensor} {key : String} (x : Float), s.key = some key → R s s [.share key x]

/-- A relation of this kind that goes through the bounds too. -/
structure QuietLaw (R : Sensor → Sensor → List Effect → Prop) : Prop where
  trans : ∀ {s s' s'' : Sensor} {effects effects' : List Effect}, R s s' effects →
    R s' s'' effects' → R s s'' (effects ++ effects')
  move : ∀ {s s' : Sensor}, SameWiring s s' → R s s' []
  evaluate : ∀ (s : Sensor) (x : Float), R s { s with thresholds := s.thresholds.evaluate x } []
  announce : ∀ (s : Sensor) (p : Property), R s s [.announce (.changed s.identity.path p)]
  share : ∀ {s : Sensor} {key : String} (x : Float), s.key = some key → R s s [.share key x]

/-- A relation that goes through all acts. -/
structure Law (R : Sensor → Sensor → List Effect → Prop) : Prop extends QuietLaw R where
  rewire : ∀ (s : Sensor) (hook : WriteHook), R s { s with hook := some hook } []
  tell : ∀ (s : Sensor) (hook : WriteHook) (x : Float), R s s [.tell hook x]

/-- The act keeps the law, whatever it is done to. -/
abbrev Act.Keeps (R : Sensor → Sensor → List Effect → Prop) (act : Act) : Prop :=
  ∀ s, R s (act s).1 (act s).2

/-- The operation neither edits a trigger nor swaps definitions, and asks for no key. -/
def Op.isPlain : Op → Bool
  | .setTrigger _ _ | .replaceThresholds _ | .attach _ => false
  | _ => true

/-- The operation neither sets a hook nor can tell one. -/
def Op.isQuiet : Op → Bool
  | .write _ | .setHook _ => false
  | _ => true

theorem SameWiring.refl (s : Sensor) : SameWiring s s := ⟨rfl, rfl, rfl, rfl, rfl, rfl⟩

theorem SameBounds.refl (s : Sensor) : SameBounds s s := ⟨rfl, rfl⟩

theorem QuietLaw.readings {R : Sensor → Sensor → List Effect → Prop} (law : QuietLaw R) :
    ReadingLaw R :=
  ⟨law.trans, fun wired _ => law.move wired, law.evaluate, law.announce, law.share⟩

namespace ReadingLaw

variable {R : Sensor → Sensor → List Effect → Prop} (law : ReadingLaw R)

include law

theorem refl (s : Sensor) : R s s [] := law.move (.refl s) (.refl s)

theorem skip : Act.skip.Keeps R := law.refl

theorem andThen {first second : Act} (one : first.Keeps R) (two : second.Keeps R) :
    (first.andThen second).Keeps R :=
  fun s => law.trans (one s) (two _)

theorem change {f : Sensor → Sensor} (kept : ∀ s, SameWiring s (f s) ∧ SameBounds s (f s)) :
    (Act.change f).Keeps R :=
  fun s => law.move (kept s).1 (kept s).2

/-- A change made first, and then an act on what it leaves. -/
theorem after {f : Sensor → Sensor} {act : Act} (first : (Act.change f).Keeps R)
    (then_ : act.Keeps R) : Act.Keeps R fun s => act (f s) :=
  law.andThen first then_

omit law in
theorem ite {p : Sensor → Prop} [DecidablePred p] {yes no : Act} (one : yes.Keeps R)
    (two : no.Keeps R) : Act.Keeps R fun s => if p s then yes s else no s := by
  intro s
  dsimp only
  split
  · exact one s
  · exact two s

theorem publishAll (ps : List Property) : (Act.publishAll ps).Keeps R := by
  intro s
  induction ps with
  | nil => exact law.refl s
  | cons p rest ih => exact law.trans (law.announce s p) ih

theorem publish (p : Property) : (Act.publish p).Keeps R := fun s => law.announce s p

theorem sharing (x : Float) : (Act.share x).Keeps R := by
  intro s
  simp only [Act.share]
  cases key : s.key with
  | none => exact law.refl s
  | some key' => exact law.share x key

/-! ### The value -/

theorem store (x : Float) : (Act.store x).Keeps R :=
  law.andThen (law.andThen (law.change fun _ => ⟨⟨rfl, rfl, rfl, rfl, rfl, rfl⟩, rfl, rfl⟩)
    (law.publish _)) (law.sharing x)

theorem setValue (x : Float) : (Act.setValue x).Keeps R :=
  ite (ite law.skip (law.store x))
    (law.after (law.change fun _ => ⟨⟨rfl, rfl, rfl, rfl, rfl, rfl⟩, rfl, rfl⟩) (law.store x))

theorem setOwnValue (x : Float) : (Act.setOwnValue x).Keeps R :=
  law.andThen (law.andThen (law.change fun _ => ⟨⟨rfl, rfl, rfl, rfl, rfl, rfl⟩, rfl, rfl⟩)
    (law.setValue x)) (law.change fun _ => ⟨⟨rfl, rfl, rfl, rfl, rfl, rfl⟩, rfl, rfl⟩)

theorem publishReading (x : Float) : (Act.publishReading x).Keeps R :=
  ite (law.setOwnValue x) law.skip

/-! ### Thresholds and health -/

theorem checkThresholds : Act.checkThresholds.Keeps R := by
  intro s
  simp only [Act.checkThresholds]
  split
  · exact law.trans (law.evaluate s s.value) (law.publishAll _ _)
  · exact law.skip s

theorem noteFunctional (b : Bool) : (Act.noteFunctional b).Keeps R := by
  intro s
  have noted : R s { s with health := s.health.setFunctional b } [] :=
    law.move ⟨rfl, rfl, rfl, rfl, rfl, rfl⟩ ⟨rfl, rfl⟩
  simp only [Act.noteFunctional]
  split
  · exact noted
  · exact law.trans noted (law.publish (.functional b) _)

theorem noteAvailable (b : Bool) : (Act.noteAvailable b).Keeps R := by
  intro s
  have noted : R s { s with health := s.health.setAvailable b } [] :=
    law.move ⟨rfl, rfl, rfl, rfl, rfl, rfl⟩ ⟨rfl, rfl⟩
  simp only [Act.noteAvailable]
  split
  · exact noted
  · exact law.trans noted (law.publish (.available b) _)

/-! ### Readings -/

theorem recover (x : Float) : (Act.recover x).Keeps R := by
  simp only [Act.recover]
  split
  · exact law.skip
  · exact law.andThen (law.noteFunctional true) (law.noteAvailable true)

theorem feed (power : PowerStatus) (x : Float) : (Act.feed power x).Keeps R := by
  refine ite law.skip (ite ?_ ?_)
  · exact law.andThen (law.andThen (law.andThen (law.publishReading x)
      (law.change fun _ => ⟨⟨rfl, rfl, rfl, rfl, rfl, rfl⟩, rfl, rfl⟩)) law.checkThresholds)
      (law.recover x)
  · exact law.andThen (law.noteAvailable false) (law.publishReading Number.nan)

/-- Losing the value, as far as an act asks for it. -/
theorem lose (power : PowerStatus) (keep : Bool) :
    Act.Keeps R (if keep then Act.skip else .feed power Number.nan) := by
  cases keep with
  | false => exact law.feed power Number.nan
  | true => exact law.skip

theorem markFunctional (power : PowerStatus) (b : Bool) : (Act.markFunctional power b).Keeps R :=
  law.andThen (law.noteFunctional b) (law.lose power b)

theorem countError (power : PowerStatus) : (Act.countError power).Keeps R := by
  have counted : Act.Keeps R (.change fun s => { s with health := s.health.countError }) :=
    law.change fun _ => ⟨⟨rfl, rfl, rfl, rfl, rfl, rfl⟩, rfl, rfl⟩
  intro s
  simp only [Act.countError]
  split
  · cases s.health.errorOutcome with
    | counted errors => exact counted s
    | limitReached => exact law.andThen counted (law.markFunctional power false) s
    | beyondLimit => exact law.skip s
  · exact law.noteAvailable false s

theorem setAvailable (power : PowerStatus) (b : Bool) : (Act.setAvailable power b).Keeps R :=
  ite law.skip (law.andThen (law.noteAvailable b) (law.lose power b))

/-- New definitions keep the law if putting them in place does. -/
theorem adoptThresholds (abandoned : List Slot) (thresholds : Thresholds) {s : Sensor}
    (placed : R s { s with thresholds := thresholds } []) :
    R s (Act.adoptThresholds abandoned thresholds s).1
      (Act.adoptThresholds abandoned thresholds s).2 := by
  have told := law.andThen
    (law.publishAll (abandoned.map fun slot => .alarm slot.alarmProperty false))
    (law.publishAll (thresholds.toList.map fun t => .trigger t.slot.triggerProperty t.trigger))
  have forgot : Act.forget.Keeps R := law.change fun _ => ⟨⟨rfl, rfl, rfl, rfl, rfl, rfl⟩, rfl, rfl⟩
  have all := law.trans placed (law.andThen told forgot { s with thresholds := thresholds })
  exact all

/-! ## Operations -/

/-- **Every plain operation that has nothing to do with bounds or the hook keeps the law.** -/
theorem perform (c : Conditions) {op : Op} (plain : op.isPlain = true) (quiet : op.isQuiet = true)
    (fixed : ∀ min max, op ≠ .setBounds min max) (s : Sensor) :
    R s (s.perform c op).sensor (s.perform c op).effects := by
  cases op with
  | feed x => exact law.feed c.power x s
  | countError => exact law.countError c.power s
  | checkThresholds => exact law.checkThresholds s
  | markFunctional b => exact law.markFunctional c.power b s
  | markAvailable b => exact law.noteAvailable b s
  | setAvailable b => exact law.setAvailable c.power b s
  | setBounds min max => exact absurd rfl (fixed min max)
  | setRaw x | clearOverride | release | participate b =>
      exact law.move ⟨rfl, rfl, rfl, rfl, rfl, rfl⟩ ⟨rfl, rfl⟩
  | setTrigger slot x | replaceThresholds ts | attach key => cases plain
  | write x | setHook hook => cases quiet

end ReadingLaw

namespace QuietLaw

variable {R : Sensor → Sensor → List Effect → Prop} (law : QuietLaw R)

include law

theorem refl (s : Sensor) : R s s [] := law.readings.refl s

theorem change {f : Sensor → Sensor} (kept : ∀ s, SameWiring s (f s)) : (Act.change f).Keeps R :=
  fun s => law.move (kept s)

theorem setMin (x : Float) : (Act.setMin x).Keeps R :=
  ReadingLaw.ite (law.readings.after (law.change fun _ => ⟨rfl, rfl, rfl, rfl, rfl, rfl⟩)
    (law.readings.publish _)) law.readings.skip

theorem setMax (x : Float) : (Act.setMax x).Keeps R :=
  ReadingLaw.ite (law.readings.after (law.change fun _ => ⟨rfl, rfl, rfl, rfl, rfl, rfl⟩)
    (law.readings.publish _)) law.readings.skip

/-- **Every plain operation that has nothing to do with the hook keeps the law.** -/
theorem perform (c : Conditions) {op : Op} (plain : op.isPlain = true) (quiet : op.isQuiet = true)
    (s : Sensor) : R s (s.perform c op).sensor (s.perform c op).effects := by
  cases op with
  | setBounds min max => exact law.readings.andThen (law.setMin min) (law.setMax max) s
  | _ =>
      refine law.readings.perform c plain quiet ?_ s
      intro min max same
      cases same

end QuietLaw

namespace Law

variable {R : Sensor → Sensor → List Effect → Prop} (law : Law R)

include law

theorem tellHook (x : Float) : (Act.tellHook x).Keeps R := by
  intro s
  simp only [Act.tellHook]
  cases s.hook with
  | none => exact law.refl s
  | some hook => exact law.tell s hook x

theorem override (x : Float) : (Act.override x).Keeps R :=
  law.readings.andThen (law.readings.andThen (law.readings.setValue x) law.readings.checkThresholds)
    (law.tellHook x)

/-- **Every plain operation keeps the law.** -/
theorem perform (c : Conditions) {op : Op} (plain : op.isPlain = true) (s : Sensor) :
    R s (s.perform c op).sensor (s.perform c op).effects := by
  cases quiet : op.isQuiet with
  | true => exact law.toQuietLaw.perform c plain quiet s
  | false =>
      cases op with
      | write x =>
          simp only [Sensor.perform, Sensor.write]
          split
          · exact law.override x s
          · exact law.refl s
      | setHook hook => exact law.rewire s hook
      | _ => cases quiet

end Law

end SensorMonitor.Sensor
