/-
# Proofs.Roster.Records -- equal records describe equal sensors

Records are compared field by field, numbers as numbers, so that two records that are
equal need not be the same: a zero has two signs.  Making a sensor cannot tell them
apart (`isOk_sensorOf`): each check on the way gives the same verdict on both
(`Agree`), whatever edits are kept for the path.

* `sensorOf`: the sensor of a record, before it is published;
* `isOk_sensorOf`: equal records are both fit to make a sensor of, or neither is.
-/
import SensorMonitor.Proofs.Number.Same
import SensorMonitor.Proofs.Sensor.Installation
import SensorMonitor.Roster

namespace SensorMonitor

set_option autoImplicit false

/-! ## Checks that agree -/

/-- Both succeed, with related results, or both fail. -/
inductive Agree {α β : Type} (related : α → β → Prop) :
    Except Failure α → Except Failure β → Prop where
  | ok {a : α} {b : β} (here : related a b) : Agree related (.ok a) (.ok b)
  | error (failure failure' : Failure) : Agree related (.error failure) (.error failure')

section Agree

variable {α β γ δ : Type} {related : α → β → Prop} {related' : γ → δ → Prop}

theorem Agree.bind {x : Except Failure α} {y : Except Failure β} {f : α → Except Failure γ}
    {g : β → Except Failure δ} (first : Agree related x y)
    (second : ∀ a b, related a b → Agree related' (f a) (g b)) :
    Agree related' (x >>= f) (y >>= g) := by
  cases first with
  | ok here => exact second _ _ here
  | error failure failure' => exact .error failure failure'

theorem Agree.map {x : Except Failure α} {y : Except Failure β} {f : α → γ} {g : β → δ}
    (first : Agree related x y) (second : ∀ a b, related a b → related' (f a) (g b)) :
    Agree related' (x.map f) (y.map g) := by
  cases first with
  | ok here => exact .ok (second _ _ here)
  | error failure failure' => exact .error failure failure'

theorem Agree.isOk {x : Except Failure α} {y : Except Failure β} (agree : Agree related x y) :
    x.isOk = y.isOk := by
  cases agree <;> rfl

theorem Agree.of_isOk {x y : Except Failure α} (same : x.isOk = y.isOk) :
    Agree (fun _ _ => True) x y := by
  cases x <;> cases y <;> first | cases same; done | exact .ok trivial | exact .error _ _

theorem Agree.mapM {as : List α} {bs : List β} {f : α → Except Failure γ}
    {g : β → Except Failure δ} (lists : List.Forall₂ related as bs)
    (each : ∀ a b, related a b → Agree related' (f a) (g b)) :
    Agree (List.Forall₂ related') (as.mapM f) (bs.mapM g) := by
  induction lists with
  | nil => exact .ok .nil
  | cons here _ ih =>
      rw [List.mapM_cons, List.mapM_cons]
      refine (each _ _ here).bind fun c d first => ?_
      exact ih.bind fun cs ds rest => .ok (.cons first rest)

end Agree

/-! ## Definitions that agree -/

/-- The thresholds differ at most in the sign of a zero. -/
structure SameThreshold (t t' : Threshold) : Prop where
  slot : t.slot = t'.slot
  trigger : sameValue t.trigger t'.trigger = true
  hysteresis : sameValue t.hysteresis t'.hysteresis = true

/-- The definitions differ at most in the sign of a zero, as far as they are checked. -/
structure SameDefinition (d d' : Definition) : Prop where
  name : d.name = d'.name
  unit : d.unit = d'.unit
  min : sameValue d.min d'.min = true
  max : sameValue d.max d'.max = true
  thresholds : List.Forall₂ SameThreshold d.thresholds d'.thresholds

theorem valid_congr {t t' : Threshold} (same : SameThreshold t t') :
    Thresholds.valid t = Thresholds.valid t' := by
  have zero := sameValue_refl 0
  have below : decide (t.hysteresis < 0) = decide (t'.hysteresis < 0) :=
    decide_eq_decide.2 (lt_congr same.hysteresis zero)
  simp only [Thresholds.valid, Thresholds.usableHysteresis]
  rw [isFinite_congr same.trigger, isNaN_congr same.hysteresis, isInf_congr same.hysteresis, below]

theorem isOk_ofList {ts ts' : List Threshold} (same : List.Forall₂ SameThreshold ts ts') :
    (Thresholds.ofList ts).isOk = (Thresholds.ofList ts').isOk := by
  have accepted : ∀ ts : List Threshold, (Thresholds.ofList ts).isOk = true ↔
      ts.length ≤ Thresholds.limit ∧ (∀ t ∈ ts, Thresholds.valid t = true) ∧
        (ts.map (·.slot)).Nodup := by
    intro ts
    have defined := Thresholds.ofList_eq_ok_iff ts
    cases outcome : Thresholds.ofList ts with
    | ok out =>
        obtain ⟨short, valid, distinct, -⟩ := (defined out).1 outcome
        exact ⟨fun _ => ⟨short, valid, distinct⟩, fun _ => rfl⟩
    | error failure =>
        refine ⟨nofun, ?_⟩
        rintro ⟨short, valid, distinct⟩
        rw [(defined _).2 ⟨short, valid, distinct, rfl⟩] at outcome
        cases outcome
  have slots : ts.map (·.slot) = ts'.map (·.slot) := by
    induction same with
    | nil => rfl
    | cons here _ ih => rw [List.map_cons, List.map_cons, here.slot, ih]
  have valid : (∀ t ∈ ts, Thresholds.valid t = true) ↔ ∀ t ∈ ts', Thresholds.valid t = true := by
    induction same with
    | nil => exact Iff.rfl
    | cons here _ ih =>
        rw [List.forall_mem_cons, List.forall_mem_cons, valid_congr here,
          ih (List.cons.inj slots).2]
  rw [Bool.eq_iff_iff, accepted, accepted, same.length_eq, valid, slots]

theorem isOk_checkBounds {min min' max max' : Float} (same : sameValue min min' = true)
    (same' : sameValue max max' = true) :
    (Definition.checkBounds min max).isOk = (Definition.checkBounds min' max').isOk := by
  simp only [Definition.checkBounds]
  rw [isFinite_congr same, isFinite_congr same']
  split
  · rfl
  · by_cases le : max ≤ min
    · rw [if_pos le, if_pos ((le_congr same' same).1 le)]
      rfl
    · rw [if_neg le, if_neg fun h => le ((le_congr same' same).2 h)]

theorem isOk_ofDefinition {d d' : Definition} (same : SameDefinition d d') :
    (Sensor.ofDefinition d).isOk = (Sensor.ofDefinition d').isOk := by
  suffices agree : Agree (fun _ _ => True) (Sensor.ofDefinition d) (Sensor.ofDefinition d') from
    agree.isOk
  simp only [Sensor.ofDefinition]
  refine Agree.bind (.of_isOk (by rw [same.name])) fun _ _ _ => ?_
  refine Agree.bind (.of_isOk (by rw [same.unit])) fun _ _ _ => ?_
  refine Agree.bind (.of_isOk (isOk_checkBounds same.min same.max)) fun _ _ _ => ?_
  exact Agree.bind (.of_isOk (isOk_ofList same.thresholds)) fun _ _ _ => .ok trivial

/-! ## Kept edits -/

theorem sameThreshold_applyOne (e : TriggerEdit) {ts ts' : List Threshold}
    (same : List.Forall₂ SameThreshold ts ts') :
    List.Forall₂ SameThreshold (TriggerEdits.applyOne e ts).1 (TriggerEdits.applyOne e ts').1 := by
  induction same with
  | nil => exact .nil
  | cons here rest ih =>
      simp only [TriggerEdits.applyOne]
      rw [here.slot]
      split
      · exact .cons ⟨rfl, sameValue_refl _, here.hysteresis⟩ rest
      · exact .cons here ih

theorem sameThreshold_applyAll (edits : List TriggerEdit) {ts ts' : List Threshold}
    (same : List.Forall₂ SameThreshold ts ts') :
    List.Forall₂ SameThreshold (TriggerEdits.applyAll edits ts).1
      (TriggerEdits.applyAll edits ts').1 := by
  simp only [TriggerEdits.applyAll]
  exact List.foldl_rel
    (r := fun (p p' : List Threshold × Nat) => List.Forall₂ SameThreshold p.1 p'.1) same
    fun e _ _ _ same => sameThreshold_applyOne e same

/-! ## Records that agree -/

theorem beq_fields {a b : SensorRecord} (same : (a == b) = true) :
    a.name = b.name ∧ a.model = b.model ∧ a.unit = b.unit ∧ (a.min == b.min) = true ∧
      (a.max == b.max) = true ∧ (a.thresholds == b.thresholds) = true ∧
      (a.offset == b.offset) = true ∧ (a.scale == b.scale) = true ∧ a.path = b.path := by
  change instBEqSensorRecord.beq a b = true at same
  simp only [instBEqSensorRecord.beq, Bool.and_eq_true, beq_iff_eq] at same
  obtain ⟨name, model, unit, min, max, thresholds, -, -, -, -, offset, scale, path, -⟩ := same
  exact ⟨name, model, unit, min, max, thresholds, offset, scale, path⟩

theorem sameValue_getD {x y : Option Float} (same : (x == y) = true) (otherwise : Float) :
    sameValue (x.getD otherwise) (y.getD otherwise) = true := by
  cases x with
  | none =>
      cases y with
      | none => exact sameValue_refl otherwise
      | some y => cases same
  | some x =>
      cases y with
      | none => cases same
      | some y =>
          have same : (x == y) = true := same
          exact Bool.or_eq_true_iff.2 (Or.inl same)

theorem agree_toThreshold {a b : ThresholdRecord} (same : (a == b) = true) :
    Agree SameThreshold a.toThreshold b.toThreshold := by
  change instBEqThresholdRecord.beq a b = true at same
  simp only [instBEqThresholdRecord.beq, Bool.and_eq_true, beq_iff_eq] at same
  obtain ⟨name, severity, direction, value, hysteresis⟩ := same
  have value : sameValue a.value b.value = true := Bool.or_eq_true_iff.2 (Or.inl value)
  simp only [ThresholdRecord.toThreshold]
  rw [name, severity, direction]
  cases Level.ofSeverity? b.severity with
  | none => exact .error _ _
  | some level =>
      cases Direction.ofComparison? b.direction with
      | none => exact .error _ _
      | some direction =>
          cases band : a.hysteresis with
          | none =>
              cases band' : b.hysteresis with
              | none => exact .ok ⟨rfl, value, sameValue_refl _⟩
              | some h =>
                  rw [band, band'] at hysteresis
                  cases hysteresis
          | some h =>
              cases band' : b.hysteresis with
              | none =>
                  rw [band, band'] at hysteresis
                  cases hysteresis
              | some h' =>
                  rw [band, band'] at hysteresis
                  have hysteresis : (h == h') = true := hysteresis
                  exact .ok ⟨rfl, value, Bool.or_eq_true_iff.2 (Or.inl hysteresis)⟩

theorem forall₂_of_beq {as bs : List ThresholdRecord} (same : (as == bs) = true) :
    List.Forall₂ (fun a b => (a == b) = true) as bs := by
  induction as generalizing bs with
  | nil =>
      cases bs with
      | nil => exact .nil
      | cons b bs => cases same
  | cons a as ih =>
      cases bs with
      | nil => cases same
      | cons b bs =>
          rw [List.cons_beq_cons, Bool.and_eq_true] at same
          exact .cons same.1 (ih same.2)

theorem agree_toDefinition {a b : SensorRecord} (same : (a == b) = true) (path : String) :
    Agree SameDefinition (a.toDefinition path) (b.toDefinition path) := by
  obtain ⟨name, model, unit, min, max, thresholds, -, -, file⟩ := beq_fields same
  have units : a.resolvedUnit = b.resolvedUnit := by
    simp only [SensorRecord.resolvedUnit]
    rw [unit, file]
  simp only [SensorRecord.toDefinition]
  rw [units]
  cases b.resolvedUnit with
  | none => exact .error _ _
  | some resolved =>
      refine Agree.bind (Agree.mapM (forall₂_of_beq thresholds) fun a b same =>
        agree_toThreshold same) fun ts ts' list => ?_
      exact .ok ⟨name, rfl, sameValue_getD min _, sameValue_getD max _, list⟩

namespace Roster

theorem agree_definitionOf (site : Site) {a b : SensorRecord} (same : (a == b) = true)
    (path : String) :
    Agree SameDefinition (definitionOf site path a) (definitionOf site path b) := by
  simp only [definitionOf]
  refine (agree_toDefinition same path).map fun d d' alike => ?_
  cases site.store with
  | none => exact alike
  | some store => exact ⟨alike.name, alike.unit, alike.min, alike.max,
      sameThreshold_applyAll _ alike.thresholds⟩

theorem isOk_ofRecord {a b : SensorRecord} (same : (a == b) = true) :
    (Hwmon.Source.ofRecord a).isOk = (Hwmon.Source.ofRecord b).isOk := by
  obtain ⟨-, -, -, -, -, -, offset, scale, file⟩ := beq_fields same
  have offset : sameValue a.offset b.offset = true := Bool.or_eq_true_iff.2 (Or.inl offset)
  have scale : sameValue a.scale b.scale = true := Bool.or_eq_true_iff.2 (Or.inl scale)
  simp only [Hwmon.Source.ofRecord]
  rw [file, isFinite_congr scale, isFinite_congr offset, beq_congr scale (sameValue_refl 0)]
  cases b.path with
  | none => rfl
  | some path =>
      dsimp only
      cases Hwmon.AttributePath.flaw? path with
      | some flaw => rfl
      | none =>
          dsimp only
          cases !b.scale.isFinite || b.scale == 0 <;> cases b.offset.isFinite <;> rfl

/-! ## The sensor of a record -/

/-- The sensor that is made of a record, before it is published. -/
def sensorOf (site : Site) (path : String) (record : SensorRecord) : Except Failure Sensor := do
  let d ← definitionOf site path record
  if record.isExternal then
    (ExternalSensor.ofDefinition d record.perishesAfter).map (·.sensor)
  else do
    let _ ← Hwmon.Source.ofRecord record
    Sensor.ofDefinition d

/-- **Equal records are both fit to make a sensor of, or neither is.** -/
theorem isOk_sensorOf (site : Site) (path : String) {a b : SensorRecord}
    (same : (a == b) = true) : (sensorOf site path a).isOk = (sensorOf site path b).isOk := by
  suffices agree : Agree (fun _ _ => True) (sensorOf site path a) (sensorOf site path b) from
    agree.isOk
  have external : a.isExternal = b.isExternal := by
    simp only [SensorRecord.isExternal]
    rw [(beq_fields same).2.1]
  simp only [sensorOf]
  refine (agree_definitionOf site same path).bind fun d d' alike => ?_
  have made : Agree (fun _ _ => True) (Sensor.ofDefinition d) (Sensor.ofDefinition d') :=
    .of_isOk (isOk_ofDefinition alike)
  rw [external]
  split
  · have settable : SameDefinition { d with settable := true, mutable := true }
        { d' with settable := true, mutable := true } :=
      ⟨alike.name, alike.unit, alike.min, alike.max, alike.thresholds⟩
    have written := Agree.of_isOk (isOk_ofDefinition settable)
    have wrapped : Agree (fun _ _ : ExternalSensor => True)
        (ExternalSensor.ofDefinition d a.perishesAfter)
        (ExternalSensor.ofDefinition d' b.perishesAfter) := written.map fun _ _ _ => trivial
    exact wrapped.map fun _ _ _ => trivial
  · exact (Agree.of_isOk (isOk_ofRecord same)).bind fun _ _ _ => made

end Roster

end SensorMonitor
