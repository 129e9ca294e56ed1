/-
# Proofs.Thresholds.Defining -- which lists define thresholds, and which thresholds they define

A list defines thresholds exactly if each of them is fit and no slot occurs twice
(`Thresholds.exists_ofList_iff`).  There are eight slots, so that such a list keeps within
the limit by itself.  What it defines are its own thresholds in the order of slots.  There
is only one such order (`Thresholds.Ordered.eq_of_perm`), so the order in which a list is
written does not matter (`Thresholds.ofList_of_perm`).

The thresholds of a sensor start like this, with every hysteresis set, and stay in form
whatever is done to the sensor (`Thresholds.defined_and_kept_in_form`).
-/
import SensorMonitor.Proofs.Sensor.Installation
import SensorMonitor.Proofs.Thresholds.Latching

namespace SensorMonitor

set_option autoImplicit false

/-- By level, and high before low. -/
def Slot.Precedes (a b : Slot) : Prop :=
  a.level.severity < b.level.severity ∨
    a.level = b.level ∧ a.direction = .high ∧ b.direction = .low

/-- The trigger is finite, and the hysteresis is either not set or finite and not negative. -/
def Threshold.Fit (t : Threshold) : Prop :=
  t.trigger.isFinite = true ∧
    (t.hysteresis.isNaN = true ∨ t.hysteresis.isFinite = true ∧ 0 ≤ t.hysteresis)

namespace Thresholds

/-! ## Lists -/

theorem usableHysteresis_iff (h : Float) :
    usableHysteresis h = true ↔ h.isNaN = true ∨ h.isFinite = true ∧ 0 ≤ h := by
  constructor
  · intro usable
    cases unset : h.isNaN with
    | true => exact Or.inl rfl
    | false =>
        have infinite : h.isInf = !h.isFinite := by
          rw [Number.isInf_eq, unset]
          rfl
        refine Or.inr ⟨?_, nonneg_of_usable usable unset⟩
        simp only [usableHysteresis] at usable
        rw [unset, infinite] at usable
        simp_all
  · rintro (unset | ⟨finite, nonneg⟩)
    · simp only [usableHysteresis]
      rw [unset]
      rfl
    · have bounded : h.isInf = false := by
        rw [Number.isInf_eq, finite]
        simp
      simp only [usableHysteresis, bounded, Number.not_lt_of_le nonneg]
      simp

theorem valid_iff_fit (t : Threshold) : valid t = true ↔ t.Fit := by
  rw [valid, Bool.and_eq_true, usableHysteresis_iff]
  rfl

/-- There are not more thresholds than slots. -/
theorem length_le_limit {ts : List Threshold} (distinct : (ts.map (·.slot)).Nodup) :
    ts.length ≤ limit := by
  have within : ts.map (·.slot) ⊆ Slot.all := fun slot _ => Slot.mem_all slot
  have bounded := (distinct.subperm within).length_le
  rwa [List.length_map] at bounded

/-- **A list defines thresholds** if each of them is fit and no slot occurs twice. -/
theorem exists_ofList_iff (ts : List Threshold) :
    (∃ out, ofList ts = .ok out) ↔ (∀ t ∈ ts, t.Fit) ∧ (ts.map (·.slot)).Nodup := by
  constructor
  · rintro ⟨out, defined⟩
    obtain ⟨-, allValid, distinct, -⟩ := (ofList_eq_ok_iff ts out).1 defined
    exact ⟨fun t member => (valid_iff_fit t).1 (allValid t member), distinct⟩
  · rintro ⟨fit, distinct⟩
    refine ⟨⟨sort ts⟩, (ofList_eq_ok_iff ts _).2 ⟨length_le_limit distinct, ?_, distinct, rfl⟩⟩
    exact fun t member => (valid_iff_fit t).2 (fit t member)

/-- Slots in order leave no choice of the order. -/
theorem Ordered.eq_of_perm {a b : Thresholds} (ordered : a.Ordered) (ordered' : b.Ordered)
    (perm : a.toList.Perm b.toList) : a = b := by
  have asymm : ∀ t t' : Threshold, t ∈ a.toList → t' ∈ b.toList → t.slot.rank < t'.slot.rank →
      t'.slot.rank < t.slot.rank → t = t' := by
    intro t t' _ _ lt gt
    omega
  have same : a.toList = b.toList := perm.eq_of_pairwise asymm ordered ordered'
  cases a
  cases b
  exact congrArg _ same

section Defined

variable {ts : List Threshold} {out : Thresholds} (defined : ofList ts = .ok out)

include defined

/-- A list defines its own thresholds. -/
theorem perm_of_ofList : out.toList.Perm ts := by
  obtain ⟨-, -, -, rfl⟩ := (ofList_eq_ok_iff ts out).1 defined
  exact List.mergeSort_perm ts _

theorem ordered_of_ofList : out.Ordered := (usable_of_ofList defined).ordered

/-- **The order in which a list is written does not matter.** -/
theorem ofList_of_perm {ts' : List Threshold} (perm : ts.Perm ts') : ofList ts' = .ok out := by
  obtain ⟨fit, distinct⟩ := (exists_ofList_iff ts).1 ⟨out, defined⟩
  have accepted : ∃ out', ofList ts' = .ok out' := by
    refine (exists_ofList_iff ts').2 ⟨fun t member => fit t (perm.mem_iff.2 member), ?_⟩
    exact (perm.map (·.slot)).nodup_iff.1 distinct
  obtain ⟨out', defined'⟩ := accepted
  have alike : out.toList.Perm out'.toList :=
    ((perm_of_ofList defined).trans perm).trans (perm_of_ofList defined').symm
  rw [(ordered_of_ofList defined).eq_of_perm (ordered_of_ofList defined') alike]
  exact defined'

end Defined

/-! ## Sensors -/

/-- In the order of slots without a slot twice, at most eight, and each with a finite trigger and
a hysteresis that is set and not negative. -/
structure InForm (ts : Thresholds) : Prop where
  ascending : ts.toList.Pairwise fun a b => a.slot.Precedes b.slot
  distinct : (ts.toList.map (·.slot)).Nodup
  atMost : ts.size ≤ 8
  each : ∀ t ∈ ts.toList,
    t.trigger.isFinite = true ∧ t.hysteresis.isNaN = false ∧ ¬ t.hysteresis < 0

theorem Ordered.precedes {ts : Thresholds} (ordered : ts.Ordered) :
    ts.toList.Pairwise fun a b => a.slot.Precedes b.slot :=
  ordered.imp fun lt => (Slot.rank_lt_iff _ _).1 lt

theorem WellFormed.inForm {ts : Thresholds} (wf : ts.WellFormed) : ts.InForm := by
  refine ⟨wf.ordered.precedes, wf.ordered.nodup, length_le_limit wf.ordered.nodup, ?_⟩
  intro t member
  obtain ⟨finite, nonneg⟩ := wf.sound t member
  exact ⟨finite, ((Number.le_iff _ _).1 nonneg).2.1, Number.not_lt_of_le nonneg⟩

/-- **Lists define thresholds in order, and sensors keep them in form.**  A list is accepted
exactly if all its thresholds are fit and no slot occurs twice, which leaves at most eight of
them.  It then defines its own thresholds by level, high before low, and so does the same list in
any other order.  And after any run the thresholds of a sensor are in form. -/
theorem defined_and_kept_in_form :
    (∀ ts, (∃ out, ofList ts = .ok out) ↔ (∀ t ∈ ts, t.Fit) ∧ (ts.map (·.slot)).Nodup) ∧
    (∀ ts : List Threshold, (ts.map (·.slot)).Nodup → ts.length ≤ 8) ∧
    (∀ ts out, ofList ts = .ok out →
      out.toList.Perm ts ∧ out.toList.Pairwise (fun a b => a.slot.Precedes b.slot) ∧
        ∀ ts', ts.Perm ts' → ofList ts' = .ok out) ∧
    ∀ site d i hs, Installation.make site d = .ok i →
      (i.run hs).sensor.thresholds.InForm := by
  refine ⟨exists_ofList_iff, fun ts => length_le_limit, ?_, ?_⟩
  · intro ts out defined
    exact ⟨perm_of_ofList defined, (ordered_of_ofList defined).precedes,
      fun ts' perm => ofList_of_perm defined perm⟩
  · intro site d i hs made
    have start := (Installation.make_eq_ok made).1.fresh
    exact (Installation.run_wellFormed start.wellFormed hs).1.thresholds.inForm

/-- Two thresholds that are given out of order, and the other way round; and a sensor with a
raised alarm whose thresholds are replaced. -/
theorem defined_and_kept_in_form_sample :
    (twoSided.map (·.slot)).Nodup ∧ twoSided.length ≤ 8 ∧
    (∃ out, ofList twoSided = .ok out ∧ out.toList.Perm twoSided ∧
      out.toList.Pairwise (fun a b => a.slot.Precedes b.slot) ∧
      ofList twoSided.reverse = .ok out) ∧
    ∃ i, Installation.make .fresh Installation.sampleDefinition = .ok i ∧
      (i.run Installation.sampleRun).sensor.thresholds.InForm := by
  obtain ⟨accepted, short, ordered, kept⟩ := defined_and_kept_in_form
  have distinct : (twoSided.map (·.slot)).Nodup := by decide
  have fit : ∀ t ∈ twoSided, t.Fit := fun t member =>
    (valid_iff_fit t).1 ((by decide : ∀ t ∈ twoSided, valid t = true) t member)
  obtain ⟨out, defined⟩ := (accepted twoSided).2 ⟨fit, distinct⟩
  obtain ⟨perm, ascending, alike⟩ := ordered twoSided out defined
  obtain ⟨i, made⟩ := Installation.exists_sample
  exact ⟨distinct, short twoSided distinct,
    ⟨out, defined, perm, ascending, alike _ (List.reverse_perm twoSided).symm⟩,
    i, made, kept .fresh Installation.sampleDefinition i Installation.sampleRun made⟩

end Thresholds

end SensorMonitor
