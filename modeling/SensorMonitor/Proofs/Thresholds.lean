/-
# Proofs.Thresholds -- what is always true of the thresholds of a sensor

The thresholds that a list defines have distinct slots in ascending order, finite
triggers and a hysteresis that is not negative (`WellFormed`).  Every operation on
thresholds keeps that, and is described by what it does at one slot (`get?_evaluate`,
`get?_setTrigger`, `get?_inheritAlarms`).

* `ofList_eq_ok_iff`: which lists define thresholds;
* `Threshold.not_raises_of_clears`: no reading both raises and clears an alarm;
* `Threshold.evaluate_agrees`: after a reading that is a number, the alarm agrees
  with it.
-/
import SensorMonitor.Proofs.Number.Order
import SensorMonitor.Thresholds

namespace SensorMonitor

set_option autoImplicit false

/-! ## One threshold -/

namespace Threshold

/-- The trigger is finite, and the hysteresis is set and not negative. -/
structure Sound (t : Threshold) : Prop where
  finite : t.trigger.isFinite = true
  nonneg : 0 ≤ t.hysteresis

/-- The trigger is finite, and the band that is in force, set or not, is not negative. -/
structure Usable (t : Threshold) : Prop where
  finite : t.trigger.isFinite = true
  nonneg : 0 ≤ t.band

/-- The alarm is raised where the reading raises it and clear where the reading clears
it; in between it is either. -/
structure Agrees (t : Threshold) (x : Float) : Prop where
  raised : t.raises x = true → t.active = true
  cleared : t.clears x = true → t.active = false

theorem Sound.band_eq {t : Threshold} (sound : t.Sound) : t.band = t.hysteresis := by
  have number : t.hysteresis.isNaN = false := ((Number.le_iff _ _).1 sound.nonneg).2.1
  rw [band, number]
  rfl

theorem Sound.usable {t : Threshold} (sound : t.Sound) : t.Usable :=
  ⟨sound.finite, sound.band_eq ▸ sound.nonneg⟩

/-- **No reading both raises and clears an alarm.** -/
theorem not_raises_of_clears {t : Threshold} {x : Float} (usable : t.Usable)
    (clears : t.clears x = true) : t.raises x = false := by
  obtain ⟨finite, nonneg⟩ := usable
  by_contra raised
  rw [Bool.not_eq_false] at raised
  simp only [Threshold.clears] at clears
  simp only [raises] at raised
  cases direction : t.slot.direction with
  | high =>
      simp only [direction, decide_eq_true_eq] at clears raised
      have far := Number.lt_of_lt_of_le raised clears
      exact Number.lt_irrefl _ (Number.lt_of_lt_of_le far (Number.sub_le_self finite nonneg))
  | low =>
      simp only [direction, decide_eq_true_eq] at clears raised
      have far := Number.lt_of_le_of_lt clears raised
      exact Number.lt_irrefl _ (Number.lt_of_le_of_lt (Number.le_add_self finite nonneg) far)

/-- A number leaves an alarm that agrees with it, whatever the alarm was. -/
theorem evaluate_agrees {t : Threshold} {x : Float} (sound : t.Sound) (number : x.isNaN = false) :
    (t.evaluate x).Agrees x := by
  have after : (t.evaluate x).active = if t.active then !t.clears x else t.raises x := by
    rw [evaluate, latch, number]
    rfl
  constructor
  · intro raised
    have raised : t.raises x = true := raised
    rw [after]
    cases active : t.active with
    | false => exact raised
    | true =>
        cases clears : t.clears x with
        | false => rfl
        | true =>
            rw [not_raises_of_clears sound.usable clears] at raised
            cases raised
  · intro cleared
    have cleared : t.clears x = true := cleared
    rw [after]
    cases active : t.active with
    | false => exact not_raises_of_clears sound.usable cleared
    | true => simp [cleared]

/-- An alarm that agrees with a reading stays as it is. -/
theorem Agrees.latch_eq {t : Threshold} {x : Float} (agrees : t.Agrees x) :
    t.latch x = t.active := by
  obtain ⟨raised, cleared⟩ := agrees
  rw [latch]
  split
  · rfl
  · cases active : t.active with
    | true =>
        cases clears : t.clears x with
        | true => exact absurd (cleared clears) (by rw [active]; decide)
        | false => rfl
    | false =>
        cases raises : t.raises x with
        | true => exact absurd (raised raises) (by rw [active]; decide)
        | false => rfl

end Threshold

namespace Thresholds

/-! ## Lists that define thresholds -/

/-- The threshold alone has no flaw. -/
def valid (t : Threshold) : Bool := t.trigger.isFinite && usableHysteresis t.hysteresis

theorem flaw?_eq_none_iff (seen : List Threshold) (t : Threshold) :
    flaw? seen t = none ↔ valid t = true ∧ ∀ other ∈ seen, other.slot ≠ t.slot := by
  simp only [flaw?, valid]
  split
  · next infinite => simp_all
  · next finite =>
      split
      · next unusable => simp_all
      · next usable =>
          split
          · next repeated => simp_all
          · next fresh => simp_all

theorem check_eq_ok_iff (seen ts : List Threshold) :
    check seen ts = .ok () ↔ (∀ t ∈ ts, valid t = true) ∧ (ts.map (·.slot)).Nodup ∧
      ∀ t ∈ ts, ∀ other ∈ seen, other.slot ≠ t.slot := by
  induction ts generalizing seen with
  | nil => simp [check]
  | cons t rest ih =>
      rw [check]
      cases flaw : flaw? seen t with
      | some flaw =>
          have broken := (flaw?_eq_none_iff seen t).not.1 (by rw [flaw]; simp)
          constructor
          · intro ok
            cases ok
          · rintro ⟨allValid, -, apart⟩
            exact absurd ⟨allValid t (by simp), apart t (by simp)⟩ broken
      | none =>
          obtain ⟨valid, apart⟩ := (flaw?_eq_none_iff seen t).1 flaw
          simp only [ih, List.forall_mem_cons, List.map_cons, List.nodup_cons, List.mem_append,
            List.mem_singleton, List.mem_map]
          constructor
          · rintro ⟨restValid, distinct, restApart⟩
            refine ⟨⟨valid, restValid⟩, ⟨?_, distinct⟩, apart, ?_⟩
            · rintro ⟨other, member, same⟩
              exact restApart other member t (Or.inr rfl) same.symm
            · intro other member before present
              exact restApart other member before (Or.inl present)
          · rintro ⟨⟨-, restValid⟩, ⟨fresh, distinct⟩, -, restApart⟩
            refine ⟨restValid, distinct, ?_⟩
            rintro other member before (present | rfl)
            · exact restApart other member before present
            · intro same
              exact fresh ⟨other, member, same.symm⟩

/-- **A list defines thresholds when each of them is valid and no slot occurs twice.** -/
theorem ofList_eq_ok_iff (ts : List Threshold) (out : Thresholds) :
    ofList ts = .ok out ↔
      ts.length ≤ limit ∧ (∀ t ∈ ts, valid t = true) ∧ (ts.map (·.slot)).Nodup ∧
        out = ⟨sort ts⟩ := by
  have checked := check_eq_ok_iff [] ts
  simp only [ofList]
  by_cases long : limit < ts.length
  · rw [if_pos long]
    constructor
    · intro ok
      cases ok
    · rintro ⟨short, -⟩
      omega
  · rw [if_neg long]
    cases outcome : check [] ts with
    | error failure =>
        rw [outcome] at checked
        constructor
        · intro ok
          cases ok
        · rintro ⟨-, valid, distinct, -⟩
          cases checked.2 ⟨valid, distinct, by simp⟩
    | ok done =>
        obtain ⟨valid, distinct, -⟩ := checked.1 outcome
        constructor
        · intro ok
          cases ok
          exact ⟨by omega, valid, distinct, rfl⟩
        · rintro ⟨-, -, -, rfl⟩
          rfl

/-! ## Looking up a slot -/

/-- Slots are distinct and in ascending order. -/
def Ordered (ts : Thresholds) : Prop :=
  ts.toList.Pairwise fun a b => a.slot.rank < b.slot.rank

/-- The alarm of a slot; one without a threshold is clear. -/
def alarm (ts : Thresholds) (slot : Slot) : Bool := (ts.get? slot).any (·.active)

theorem Ordered.nodup {ts : Thresholds} (ordered : ts.Ordered) :
    (ts.toList.map (·.slot)).Nodup := by
  refine List.pairwise_map.2 (ordered.imp ?_)
  intro a b lt same
  rw [same] at lt
  exact lt.false

theorem get?_slot {ts : Thresholds} {slot : Slot} {t : Threshold} (found : ts.get? slot = some t) :
    t ∈ ts.toList ∧ t.slot = slot := by
  refine ⟨List.mem_of_find?_eq_some found, ?_⟩
  simpa using List.find?_some found

theorem get?_eq_some_iff {ts : Thresholds} (ordered : ts.Ordered) (slot : Slot) (t : Threshold) :
    ts.get? slot = some t ↔ t ∈ ts.toList ∧ t.slot = slot := by
  constructor
  · exact get?_slot
  · rintro ⟨member, rfl⟩
    simp only [get?]
    simp only [Ordered] at ordered
    generalize ts.toList = list at ordered member
    induction list with
    | nil => cases member
    | cons first rest ih =>
        obtain ⟨below, restOrdered⟩ := List.pairwise_cons.1 ordered
        rcases List.mem_cons.1 member with rfl | later
        · simp
        · have apart : first.slot ≠ t.slot := fun same =>
            absurd (below t later) (by rw [same]; omega)
          rw [List.find?_cons_of_neg (by simpa using apart)]
          exact ih restOrdered later

theorem Ordered.alarm_eq {ts : Thresholds} {t : Threshold} (ordered : ts.Ordered)
    (member : t ∈ ts.toList) : ts.alarm t.slot = t.active := by
  rw [alarm, (get?_eq_some_iff ordered t.slot t).2 ⟨member, rfl⟩]
  rfl

theorem get?_eq_none_iff (ts : Thresholds) (slot : Slot) :
    ts.get? slot = none ↔ ∀ t ∈ ts.toList, t.slot ≠ slot := by
  simp only [get?]
  simp

/-- A change that keeps every slot is seen at each slot alone. -/
theorem get?_map (list : List Threshold) (f : Threshold → Threshold)
    (keeps : ∀ t, (f t).slot = t.slot) (slot : Slot) :
    get? ⟨list.map f⟩ slot = (get? ⟨list⟩ slot).map f := by
  simp only [get?]
  simp only [List.find?_map]
  congr 2
  funext t
  simp [keeps]

theorem ordered_map {list : List Threshold} (f : Threshold → Threshold)
    (keeps : ∀ t, (f t).slot = t.slot) (ordered : Ordered ⟨list⟩) : Ordered ⟨list.map f⟩ := by
  unfold Ordered at ordered ⊢
  rw [List.pairwise_map]
  simpa only [keeps] using ordered

/-! ## Well-formed thresholds -/

/-- What is true of the thresholds of a sensor at any time. -/
structure WellFormed (ts : Thresholds) : Prop where
  ordered : ts.Ordered
  sound : ∀ t ∈ ts.toList, t.Sound

theorem ordered_sort {ts : List Threshold} (distinct : (ts.map (·.slot)).Nodup) :
    Ordered ⟨sort ts⟩ := by
  have ascending : (sort ts).Pairwise fun a b => a.slot.rank ≤ b.slot.rank := by
    let le : Threshold → Threshold → Bool := fun a b => a.slot.rank ≤ b.slot.rank
    have trans : ∀ a b c, le a b = true → le b c = true → le a c = true := by
      intro a b c
      simp only [le, decide_eq_true_eq]
      omega
    have total : ∀ a b, (le a b || le b a) = true := by
      intro a b
      simp only [le, Bool.or_eq_true, decide_eq_true_eq]
      omega
    have sorted := List.pairwise_mergeSort trans total ts
    simp only [sort]
    simpa only [le, decide_eq_true_eq] using sorted
  have apart : (sort ts).Pairwise fun a b => a.slot ≠ b.slot := by
    have moved := (List.mergeSort_perm ts fun a b => a.slot.rank ≤ b.slot.rank).map (·.slot)
    exact List.pairwise_map.1 (moved.nodup_iff.2 distinct)
  simp only [Ordered]
  refine (ascending.and apart).imp ?_
  rintro a b ⟨le, ne⟩
  exact lt_of_le_of_ne le fun same => ne (Slot.rank_injective same)

theorem nonneg_of_usable {h : Float} (usable : usableHysteresis h = true)
    (number : h.isNaN = false) : 0 ≤ h := by
  rw [usableHysteresis, number, Bool.false_or, Bool.not_eq_true', Bool.or_eq_false_iff] at usable
  have notBelow : ¬ h < 0 := by simpa using usable.1
  rw [Number.lt_iff] at notBelow
  rw [Number.le_iff]
  have zero : Float.isNaN 0 = false := rfl
  exact ⟨zero, number, not_lt.1 fun lt => notBelow ⟨number, zero, lt⟩⟩

/-- **What a list defines is well-formed once every hysteresis is set.** -/
theorem wellFormed_of_ofList {ts : List Threshold} {out : Thresholds} {h : Float}
    (defined : ofList ts = .ok out) (nonneg : 0 ≤ h) :
    (out.withDefaultHysteresis h).WellFormed := by
  obtain ⟨-, allValid, distinct, rfl⟩ := (ofList_eq_ok_iff ts out).1 defined
  refine ⟨ordered_map _ ?_ (ordered_sort distinct), ?_⟩
  · intro t
    split <;> rfl
  · intro t member
    obtain ⟨given, present, rfl⟩ := List.mem_map.1 member
    have present : given ∈ ts := (List.mergeSort_perm ts _).mem_iff.1 present
    have valid : given.trigger.isFinite = true ∧ usableHysteresis given.hysteresis = true := by
      have := allValid given present
      rwa [Thresholds.valid, Bool.and_eq_true] at this
    cases unset : given.hysteresis.isNaN with
    | true => exact ⟨valid.1, by simpa [unset] using nonneg⟩
    | false => exact ⟨valid.1, by simpa [unset] using nonneg_of_usable valid.2 unset⟩

theorem clear_of_ofList {ts : List Threshold} {out : Thresholds} {h : Float}
    (defined : ofList ts = .ok out) (clear : ∀ t ∈ ts, t.active = false) :
    ∀ t ∈ (out.withDefaultHysteresis h).toList, t.active = false := by
  obtain ⟨-, -, -, rfl⟩ := (ofList_eq_ok_iff ts out).1 defined
  intro t member
  obtain ⟨given, present, rfl⟩ := List.mem_map.1 member
  have present : given ∈ ts := (List.mergeSort_perm ts _).mem_iff.1 present
  have := clear given present
  split <;> exact this

/-! ## A reading -/

@[simp] theorem get?_evaluate (ts : Thresholds) (x : Float) (slot : Slot) :
    (ts.evaluate x).get? slot = (ts.get? slot).map (·.evaluate x) :=
  get?_map ts.toList (·.evaluate x) (fun _ => rfl) slot

theorem WellFormed.evaluate {ts : Thresholds} (wf : ts.WellFormed) (x : Float) :
    (ts.evaluate x).WellFormed := by
  refine ⟨ordered_map _ (fun _ => rfl) wf.ordered, ?_⟩
  intro t member
  obtain ⟨before, present, rfl⟩ := List.mem_map.1 member
  exact ⟨(wf.sound before present).finite, (wf.sound before present).nonneg⟩

/-- A reading that every alarm already answers changes nothing. -/
theorem evaluate_of_steady {ts : Thresholds} {x : Float}
    (steady : ∀ t ∈ ts.toList, t.latch x = t.active) : ts.evaluate x = ts := by
  have same : ts.toList.map (·.evaluate x) = ts.toList := by
    conv_rhs => rw [← List.map_id ts.toList]
    refine List.map_congr_left fun t member => ?_
    rw [Threshold.evaluate, steady t member]
    rfl
  rw [evaluate, same]

theorem edges_of_steady {ts : Thresholds} {x : Float}
    (steady : ∀ t ∈ ts.toList, t.latch x = t.active) : ts.edges x = [] := by
  refine List.filterMap_eq_nil_iff.2 ?_
  intro t member
  rw [Threshold.edge?, if_pos (steady t member)]

theorem evaluate_of_isNaN (ts : Thresholds) {x : Float} (lost : x.isNaN = true) :
    ts.evaluate x = ts :=
  evaluate_of_steady fun t _ => t.latch_of_isNaN x lost

/-! ## A trigger -/

theorem setTrigger_eq_ok {ts next : Thresholds} {slot : Slot} {x : Float} {edited : Threshold}
    (accepted : ts.setTrigger slot x = .ok (next, edited)) :
    x.isFinite = true ∧ ∃ t, ts.get? slot = some t ∧ edited = { t with trigger := x } ∧
      next = ⟨ts.toList.map fun t => if t.slot = slot then { t with trigger := x } else t⟩ := by
  simp only [setTrigger] at accepted
  split at accepted
  · cases accepted
  · next finite =>
      cases found : ts.get? slot with
      | none =>
          rw [found] at accepted
          cases accepted
      | some t =>
          rw [found] at accepted
          cases accepted
          exact ⟨by simpa using finite, t, rfl, rfl, rfl⟩

theorem get?_setTrigger {ts next : Thresholds} {slot : Slot} {x : Float} {edited : Threshold}
    (accepted : ts.setTrigger slot x = .ok (next, edited)) (other : Slot) :
    next.get? other =
      (ts.get? other).map fun t => if other = slot then { t with trigger := x } else t := by
  obtain ⟨-, t, -, -, rfl⟩ := setTrigger_eq_ok accepted
  rw [get?_map _ _ (by intro t; split <;> rfl)]
  cases found : ts.get? other with
  | none => rfl
  | some t =>
      obtain ⟨-, rfl⟩ := get?_slot found
      rfl

theorem WellFormed.setTrigger {ts next : Thresholds} {slot : Slot} {x : Float}
    {edited : Threshold} (wf : ts.WellFormed)
    (accepted : ts.setTrigger slot x = .ok (next, edited)) : next.WellFormed := by
  obtain ⟨finite, t, -, -, rfl⟩ := setTrigger_eq_ok accepted
  refine ⟨ordered_map _ (by intro t; split <;> rfl) wf.ordered, ?_⟩
  intro t member
  obtain ⟨before, present, rfl⟩ := List.mem_map.1 member
  have sound := wf.sound before present
  split
  · exact ⟨finite, sound.nonneg⟩
  · exact sound

/-! ## New definitions -/

@[simp] theorem get?_inheritAlarms (old new : Thresholds) (slot : Slot) :
    (old.inheritAlarms new).get? slot = (new.get? slot).map fun t =>
      match old.get? slot with
      | some before => { t with active := before.active }
      | none => t := by
  simp only [inheritAlarms]
  rw [get?_map _ _ (by intro t; split <;> rfl)]
  cases found : new.get? slot with
  | none => rfl
  | some t =>
      obtain ⟨-, rfl⟩ := get?_slot found
      rfl

theorem WellFormed.inheritAlarms {new : Thresholds} (old : Thresholds) (wf : new.WellFormed) :
    (old.inheritAlarms new).WellFormed := by
  refine ⟨ordered_map _ (by intro t; split <;> rfl) wf.ordered, ?_⟩
  intro t member
  obtain ⟨before, present, rfl⟩ := List.mem_map.1 member
  have sound := wf.sound before present
  split
  · exact ⟨sound.finite, sound.nonneg⟩
  · exact sound

theorem replace?_eq_some {old new next : Thresholds} (swapped : old.replace? new = some next) :
    next = old.inheritAlarms new := by
  simp only [replace?] at swapped
  split at swapped
  · cases swapped
  · exact (Option.some.inj swapped).symm

theorem mem_abandoned_iff {old : Thresholds} (ordered : old.Ordered) (new : Thresholds)
    (slot : Slot) : slot ∈ old.abandoned new ↔ old.alarm slot = true ∧ new.get? slot = none := by
  simp only [abandoned, alarm]
  simp only [List.mem_map, List.mem_filter, Bool.and_eq_true, Option.isNone_iff_eq_none,
    Option.any_eq_true]
  constructor
  · rintro ⟨t, ⟨member, active, gone⟩, rfl⟩
    exact ⟨⟨t, (get?_eq_some_iff ordered _ t).2 ⟨member, rfl⟩, active⟩, gone⟩
  · rintro ⟨⟨t, found, active⟩, gone⟩
    obtain ⟨member, rfl⟩ := get?_slot found
    exact ⟨t, ⟨member, active, gone⟩, rfl⟩

end Thresholds

end SensorMonitor
