/-
# Proofs.Sensor.Moves -- every operation is a chain of moves

A move is a change of a sensor together with all it announces (`Move`): a value is
stored and shown, a value is forgotten, a bound or a flag moves, alarms are put to the
value, a trigger is edited, definitions are adopted, or something changes that the bus
does not show.  Whatever is performed on a sensor is a chain of moves
(`perform_moves`), so that a property of sensors and their events is proved once for
each kind of move and then holds of every operation, in whatever way the operation
calls others.

* `Moves`: chains of moves;
* `perform_moves`: the chain of an operation;
* `WellFormed.perform`: the thresholds stay well-formed.
-/
import SensorMonitor.Proofs.Thresholds
import SensorMonitor.Sensor.Op

namespace SensorMonitor.Sensor

set_option autoImplicit false

/-! ## Announcements -/

/-- The event that an effect puts on the bus. -/
def Effect.event? : Effect → Option Event
  | .announce event => some event
  | _ => none

/-- The events among the effects, in order. -/
def announced (effects : List Effect) : List Event := effects.filterMap Effect.event?

@[simp] theorem announced_append (first second : List Effect) :
    announced (first ++ second) = announced first ++ announced second :=
  List.filterMap_append

/-! ## Acts in a row -/

namespace Act

variable (s : Sensor)

@[simp] theorem andThen_fst (first second : Act) :
    (first.andThen second s).1 = (second (first s).1).1 := rfl

@[simp] theorem andThen_snd (first second : Act) :
    (first.andThen second s).2 = (first s).2 ++ (second (first s).1).2 := rfl

theorem checkThresholds_fst : (checkThresholds s).1 =
    if s.participates then { s with thresholds := s.thresholds.evaluate s.value } else s := by
  simp only [checkThresholds]
  split <;> rfl

@[simp] theorem noteFunctional_fst (b : Bool) :
    (noteFunctional b s).1 = { s with health := s.health.setFunctional b } := by
  simp only [noteFunctional]
  split <;> rfl

@[simp] theorem noteAvailable_fst (b : Bool) :
    (noteAvailable b s).1 = { s with health := s.health.setAvailable b } := by
  simp only [noteAvailable]
  split <;> rfl

/-- A bound moves or stays, and nothing else. -/
theorem setMin_fst (x : Float) : ∃ bound,
    (setMin x s).1 = { s with measurement := { s.measurement with min := bound } } := by
  simp only [setMin]
  split
  · exact ⟨x, rfl⟩
  · exact ⟨s.measurement.min, rfl⟩

theorem setMax_fst (x : Float) : ∃ bound,
    (setMax x s).1 = { s with measurement := { s.measurement with max := bound } } := by
  simp only [setMax]
  split
  · exact ⟨x, rfl⟩
  · exact ⟨s.measurement.max, rfl⟩

end Act

/-! ## Moves -/

/-- The two sensors differ in nothing that the bus shows, nor in their thresholds, their
bands and whether the value is put to the thresholds. -/
structure Alike (s s' : Sensor) : Prop where
  identity : s'.identity = s.identity
  properties : s'.properties = s.properties
  thresholds : s'.thresholds = s.thresholds
  triggerBand : s'.measurement.triggerBand = s.measurement.triggerBand
  publishBand : s'.measurement.publishBand = s.measurement.publishBand
  participates : s'.participates = s.participates

theorem Alike.refl (s : Sensor) : Alike s s := ⟨rfl, rfl, rfl, rfl, rfl, rfl⟩

/-- The operation puts the alarms to the value. -/
def Op.evaluates : Op → Bool
  | .feed _ => true
  | .write _ => true
  | .checkThresholds => true
  | _ => false

/-- One change with its effects, made in the course of an operation. -/
inductive Move (op : Op) (s : Sensor) : List Effect → Sensor → Prop where
  | silent {effects : List Effect} {s' : Sensor} (alike : Alike s s')
      (quiet : announced effects = []) : Move op s effects s'
  | participate {b : Bool} (asked : op = .participate b) :
      Move op s [] { s with participates := b }
  | forget : Move op s [] { s with measurement := s.measurement.forget }
  | store (x : Float) : Move op s (Act.store x s).2 (Act.store x s).1
  | functional (b : Bool) : Move op s (Act.noteFunctional b s).2 (Act.noteFunctional b s).1
  | available (b : Bool) : Move op s (Act.noteAvailable b s).2 (Act.noteAvailable b s).1
  | min (x : Float) : Move op s (Act.setMin x s).2 (Act.setMin x s).1
  | max (x : Float) : Move op s (Act.setMax x s).2 (Act.setMax x s).1
  | evaluate : Move op s (Act.checkThresholds s).2 (Act.checkThresholds s).1
  | edit {slot : Slot} {x : Float} {thresholds : Thresholds} {edited : Threshold}
      (asked : op = .setTrigger slot x)
      (accepted : s.thresholds.setTrigger slot x = .ok (thresholds, edited)) :
      Move op s (Act.editThreshold thresholds edited s).2 (Act.editThreshold thresholds edited s).1
  | adopt {ts : List Threshold} {next thresholds : Thresholds}
      (asked : op = .replaceThresholds ts) (defined : s.definitions ts = .ok next)
      (swapped : s.thresholds.replace? next = some thresholds) :
      Move op s (Act.adoptThresholds (s.thresholds.abandoned next) thresholds s).2
        (Act.adoptThresholds (s.thresholds.abandoned next) thresholds s).1

/-- Moves one after another, with all their effects. -/
inductive Moves (op : Op) : Sensor → List Effect → Sensor → Prop where
  | none (s : Sensor) : Moves op s [] s
  | cons {s s' s'' : Sensor} {effects effects' : List Effect} (move : Move op s effects s')
      (rest : Moves op s' effects' s'') : Moves op s (effects ++ effects') s''

section Chains

variable {op : Op} {s s' s'' : Sensor} {effects effects' : List Effect}

theorem Move.moves (move : Move op s effects s') : Moves op s effects s' := by
  have chain := Moves.cons move (.none s')
  rwa [List.append_nil] at chain

theorem Moves.append (first : Moves op s effects s') (second : Moves op s' effects' s'') :
    Moves op s (effects ++ effects') s'' := by
  induction first with
  | none s => exact second
  | cons move rest ih =>
      rw [List.append_assoc]
      exact .cons move (ih second)

end Chains

/-- What an act does to a sensor is a chain of moves. -/
abbrev IsMoves (op : Op) (act : Act) (s : Sensor) : Prop := Moves op s (act s).2 (act s).1

section Acts

variable {op : Op}

theorem isMoves_skip (s : Sensor) : IsMoves op Act.skip s := .none s

theorem isMoves_andThen {first second : Act} {s : Sensor} (one : IsMoves op first s)
    (two : IsMoves op second (first s).1) : IsMoves op (first.andThen second) s :=
  one.append two

theorem isMoves_silent {act : Act} {s : Sensor} (alike : Alike s (act s).1)
    (quiet : announced (act s).2 = []) : IsMoves op act s :=
  (Move.silent alike quiet).moves

theorem isMoves_setValue (x : Float) (s : Sensor) : IsMoves op (.setValue x) s := by
  simp only [IsMoves, Act.setValue]
  by_cases internal : s.internal = true
  · rw [if_pos internal]
    by_cases overridden : s.overridden = true
    · rw [if_pos overridden]
      exact isMoves_skip s
    · rw [if_neg overridden]
      exact (Move.store x).moves
  · rw [if_neg internal]
    have marked : IsMoves op (.change fun s => { s with overridden := true }) s :=
      isMoves_silent ⟨rfl, rfl, rfl, rfl, rfl, rfl⟩ rfl
    exact isMoves_andThen marked (Move.store x).moves

theorem isMoves_setOwnValue (x : Float) (s : Sensor) : IsMoves op (.setOwnValue x) s :=
  isMoves_andThen
    (isMoves_andThen (isMoves_silent ⟨rfl, rfl, rfl, rfl, rfl, rfl⟩ rfl)
      (isMoves_setValue x _))
    (isMoves_silent ⟨rfl, rfl, rfl, rfl, rfl, rfl⟩ rfl)

theorem isMoves_publishReading (x : Float) (s : Sensor) : IsMoves op (.publishReading x) s := by
  simp only [IsMoves, Act.publishReading]
  split
  · exact isMoves_setOwnValue x s
  · exact isMoves_skip s

theorem isMoves_forget (s : Sensor) : IsMoves op .forget s := Move.forget.moves

theorem isMoves_recover (x : Float) (s : Sensor) : IsMoves op (.recover x) s := by
  simp only [IsMoves, Act.recover]
  split
  · exact isMoves_skip s
  · exact isMoves_andThen (Move.functional true).moves (Move.available true).moves

theorem isMoves_feed (power : PowerStatus) (x : Float) (s : Sensor) :
    IsMoves op (.feed power x) s := by
  simp only [IsMoves, Act.feed]
  split
  · exact isMoves_skip s
  · split
    · refine isMoves_andThen (isMoves_andThen (isMoves_andThen ?_ ?_) ?_) ?_
      · exact isMoves_publishReading x s
      · exact isMoves_silent ⟨rfl, rfl, rfl, rfl, rfl, rfl⟩ rfl
      · exact Move.evaluate.moves
      · exact isMoves_recover x _
    · exact isMoves_andThen (Move.available false).moves (isMoves_publishReading Number.nan _)

/-- Losing the value, as far as an operation asks for it. -/
theorem isMoves_lose (power : PowerStatus) (keep : Bool) (s : Sensor) :
    IsMoves op (if keep then .skip else .feed power Number.nan) s := by
  cases keep with
  | false => exact isMoves_feed power Number.nan s
  | true => exact isMoves_skip s

theorem isMoves_markFunctional (power : PowerStatus) (b : Bool) (s : Sensor) :
    IsMoves op (.markFunctional power b) s :=
  isMoves_andThen (Move.functional b).moves (isMoves_lose power b _)

theorem isMoves_setAvailable (power : PowerStatus) (b : Bool) (s : Sensor) :
    IsMoves op (.setAvailable power b) s := by
  simp only [IsMoves, Act.setAvailable]
  split
  · exact isMoves_skip s
  · exact isMoves_andThen (Move.available b).moves (isMoves_lose power b _)

theorem alike_countError (s : Sensor) : Alike s { s with health := s.health.countError } := by
  refine ⟨rfl, ?_, rfl, rfl, rfl, rfl⟩
  simp only [Health.countError]
  split <;> rfl

theorem isMoves_countError (power : PowerStatus) (s : Sensor) :
    IsMoves op (.countError power) s := by
  have counted : IsMoves op (.change fun s => { s with health := s.health.countError }) s :=
    isMoves_silent (alike_countError s) rfl
  simp only [IsMoves, Act.countError]
  split
  · cases s.health.errorOutcome with
    | counted errors => exact counted
    | limitReached => exact isMoves_andThen counted (isMoves_markFunctional power false _)
    | beyondLimit => exact isMoves_skip s
  · exact (Move.available false).moves

theorem isMoves_override (x : Float) (s : Sensor) : IsMoves op (.override x) s := by
  refine isMoves_andThen (isMoves_andThen (isMoves_setValue x s) Move.evaluate.moves) ?_
  refine isMoves_silent (Alike.refl _) ?_
  simp only [Act.tellHook]
  split <;> rfl

end Acts

/-! ## Operations -/

/-- **Every operation is a chain of moves.** -/
theorem perform_moves (c : Conditions) (op : Op) (s : Sensor) :
    Moves op s (s.perform c op).effects (s.perform c op).sensor := by
  cases op with
  | feed x => exact isMoves_feed c.power x s
  | setRaw x => exact isMoves_silent ⟨rfl, rfl, rfl, rfl, rfl, rfl⟩ rfl
  | countError => exact isMoves_countError c.power s
  | checkThresholds => exact Move.evaluate.moves
  | markFunctional b => exact isMoves_markFunctional c.power b s
  | markAvailable b => exact (Move.available b).moves
  | write x =>
      simp only [perform, Sensor.write]
      split
      · exact isMoves_override x s
      · exact isMoves_skip s
  | clearOverride =>
      have ended : IsMoves .clearOverride (.change fun s => { s with overridden := false }) s :=
        isMoves_silent ⟨rfl, rfl, rfl, rfl, rfl, rfl⟩ rfl
      exact isMoves_andThen ended (isMoves_forget _)
  | release => exact isMoves_silent ⟨rfl, rfl, rfl, rfl, rfl, rfl⟩ rfl
  | setAvailable b => exact isMoves_setAvailable c.power b s
  | setTrigger slot x =>
      simp only [perform, Sensor.setTrigger]
      split
      · exact isMoves_skip s
      · next accepted => exact (Move.edit rfl accepted).moves
  | setBounds min max => exact isMoves_andThen (Move.min min).moves (Move.max max).moves
  | replaceThresholds ts =>
      simp only [perform, Sensor.replaceThresholds]
      split
      · exact isMoves_skip s
      · next defined =>
          split
          · exact isMoves_skip s
          · next swapped => exact (Move.adopt rfl defined swapped).moves
  | participate b => exact (Move.participate rfl).moves
  | attach key => exact isMoves_silent ⟨rfl, rfl, rfl, rfl, rfl, rfl⟩ rfl
  | setHook hook => exact isMoves_silent ⟨rfl, rfl, rfl, rfl, rfl, rfl⟩ rfl

/-! ## Well-formed sensors -/

/-- What is true of a sensor at any time. -/
structure WellFormed (s : Sensor) : Prop where
  thresholds : s.thresholds.WellFormed
  band : 0 ≤ s.measurement.triggerBand

section Moves

variable {op : Op} {s s' : Sensor} {effects : List Effect}

theorem definitions_eq_ok {ts : List Threshold} {next : Thresholds}
    (defined : s.definitions ts = .ok next) :
    ∃ given, Thresholds.ofList ts = .ok given ∧
      next = given.withDefaultHysteresis s.measurement.triggerBand := by
  simp only [definitions] at defined
  cases outcome : Thresholds.ofList ts with
  | error failure =>
      rw [outcome] at defined
      cases defined
  | ok given =>
      rw [outcome] at defined
      cases defined
      exact ⟨given, rfl, rfl⟩

/-- No move touches what never changes, nor the band of the value: bounds that move leave it. -/
theorem Move.lasting (move : Move op s effects s') :
    s'.identity = s.identity ∧ s'.measurement.publishBand = s.measurement.publishBand := by
  cases move with
  | silent alike quiet => exact ⟨alike.identity, alike.publishBand⟩
  | functional b =>
      rw [Act.noteFunctional_fst]
      exact ⟨rfl, rfl⟩
  | available b =>
      rw [Act.noteAvailable_fst]
      exact ⟨rfl, rfl⟩
  | min x =>
      obtain ⟨bound, moved⟩ := Act.setMin_fst s x
      rw [moved]
      exact ⟨rfl, rfl⟩
  | max x =>
      obtain ⟨bound, moved⟩ := Act.setMax_fst s x
      rw [moved]
      exact ⟨rfl, rfl⟩
  | evaluate =>
      rw [Act.checkThresholds_fst]
      split <;> exact ⟨rfl, rfl⟩
  | participate asked | forget | store x | edit asked accepted | adopt asked defined swapped =>
      exact ⟨rfl, rfl⟩

theorem Move.identity (move : Move op s effects s') : s'.identity = s.identity := move.lasting.1

theorem Move.participates (move : Move op s effects s') (steady : op ≠ .participate false)
    (participates : s.participates = true) : s'.participates = true := by
  cases move with
  | silent alike quiet => exact alike.participates.trans participates
  | @participate b asked =>
      cases b with
      | true => rfl
      | false => exact absurd asked steady
  | functional b => rwa [Act.noteFunctional_fst]
  | available b => rwa [Act.noteAvailable_fst]
  | min x =>
      obtain ⟨bound, moved⟩ := Act.setMin_fst s x
      rwa [moved]
  | max x =>
      obtain ⟨bound, moved⟩ := Act.setMax_fst s x
      rwa [moved]
  | evaluate =>
      rw [Act.checkThresholds_fst]
      split <;> exact participates
  | forget | store x | edit asked accepted | adopt asked defined swapped => exact participates

theorem Move.wellFormed (move : Move op s effects s') (wf : s.WellFormed) : s'.WellFormed := by
  cases move with
  | silent alike quiet =>
      exact ⟨alike.thresholds ▸ wf.thresholds, alike.triggerBand ▸ wf.band⟩
  | participate asked | forget | store x => exact ⟨wf.thresholds, wf.band⟩
  | functional b =>
      rw [Act.noteFunctional_fst]
      exact ⟨wf.thresholds, wf.band⟩
  | available b =>
      rw [Act.noteAvailable_fst]
      exact ⟨wf.thresholds, wf.band⟩
  | min x =>
      obtain ⟨bound, moved⟩ := Act.setMin_fst s x
      rw [moved]
      exact ⟨wf.thresholds, wf.band⟩
  | max x =>
      obtain ⟨bound, moved⟩ := Act.setMax_fst s x
      rw [moved]
      exact ⟨wf.thresholds, wf.band⟩
  | evaluate =>
      rw [Act.checkThresholds_fst]
      split
      · exact ⟨wf.thresholds.evaluate s.value, wf.band⟩
      · exact wf
  | edit asked accepted => exact ⟨wf.thresholds.setTrigger accepted, wf.band⟩
  | adopt asked defined swapped =>
      obtain ⟨given, ofList, rfl⟩ := definitions_eq_ok defined
      obtain rfl := Thresholds.replace?_eq_some swapped
      exact ⟨(Thresholds.wellFormed_of_ofList ofList wf.band).inheritAlarms s.thresholds, wf.band⟩

theorem Moves.lasting (moves : Moves op s effects s') :
    s'.identity = s.identity ∧ s'.measurement.publishBand = s.measurement.publishBand := by
  induction moves with
  | none s => exact ⟨rfl, rfl⟩
  | cons move rest ih => exact ⟨ih.1.trans move.lasting.1, ih.2.trans move.lasting.2⟩

theorem Moves.wellFormed (moves : Moves op s effects s') (wf : s.WellFormed) : s'.WellFormed := by
  induction moves with
  | none s => exact wf
  | cons move rest ih => exact ih (move.wellFormed wf)

end Moves

/-- **No operation breaks a well-formed sensor.** -/
theorem WellFormed.perform {s : Sensor} (wf : s.WellFormed) (c : Conditions) (op : Op) :
    (s.perform c op).sensor.WellFormed :=
  (perform_moves c op s).wellFormed wf

theorem perform_identity (c : Conditions) (op : Op) (s : Sensor) :
    (s.perform c op).sensor.identity = s.identity :=
  (perform_moves c op s).lasting.1

theorem perform_publishBand (c : Conditions) (op : Op) (s : Sensor) :
    (s.perform c op).sensor.measurement.publishBand = s.measurement.publishBand :=
  (perform_moves c op s).lasting.2

end SensorMonitor.Sensor
