/-
# Proofs.Sensor.Triggers -- what moves a trigger

Only an accepted edit and new definitions move a trigger; every other operation leaves all
of them where they are and asks for nothing to be kept (`steady_perform`).  An edit is
either refused, and then nothing happens at all, or it moves the trigger of its own slot
and asks for just this to be kept (`setTrigger_spec`).  A sensor that was just made has
the triggers of its definition (`MadeOf.triggers`).
-/
import SensorMonitor.Proofs.Sensor.Installation
import SensorMonitor.Proofs.Sensor.Laws

namespace SensorMonitor

set_option autoImplicit false

/-! ## The trigger of a slot -/

namespace Thresholds

/-- The trigger of the threshold of a slot. -/
def trigger? (ts : Thresholds) (slot : Slot) : Option Float := (ts.get? slot).map (·.trigger)

theorem trigger?_evaluate (ts : Thresholds) (x : Float) (slot : Slot) :
    (ts.evaluate x).trigger? slot = ts.trigger? slot := by
  unfold trigger?
  rw [get?_evaluate, Option.map_map]
  rfl

theorem trigger?_setTrigger {ts next : Thresholds} {slot : Slot} {x : Float} {edited : Threshold}
    (accepted : ts.setTrigger slot x = .ok (next, edited)) (other : Slot) :
    next.trigger? other = if other = slot then some x else ts.trigger? other := by
  unfold trigger?
  rw [get?_setTrigger accepted]
  by_cases here : other = slot
  · obtain ⟨-, t, found, -, -⟩ := setTrigger_eq_ok accepted
    rw [if_pos here, here, found]
    simp
  · simp [here]

/-- Where the slots of a list differ, what it defines has the triggers of the list. -/
theorem trigger?_of_ofList {ts : List Threshold} {out : Thresholds}
    (defined : ofList ts = .ok out) (h : Float) {t : Threshold} (member : t ∈ ts) :
    (out.withDefaultHysteresis h).trigger? t.slot = some t.trigger := by
  obtain ⟨-, -, distinct, rfl⟩ := (ofList_eq_ok_iff ts out).1 defined
  have sorted : t ∈ sort ts := (List.mergeSort_perm ts _).mem_iff.2 member
  have found : get? ⟨sort ts⟩ t.slot = some t :=
    (get?_eq_some_iff (ordered_sort distinct) t.slot t).2 ⟨sorted, rfl⟩
  unfold trigger? withDefaultHysteresis
  rw [get?_map _ _ (by intro t; split <;> rfl), found]
  simp only [Option.map_some]
  split <;> rfl

end Thresholds

namespace Sensor

/-- A sensor that was just made has the triggers of its definition, under its configuration path. -/
theorem MadeOf.triggers {d : Definition} {s : Sensor} (made : s.MadeOf d) :
    s.identity.configuration = d.configuration ∧ (d.thresholds.map (·.slot)).Nodup ∧
      ∀ t ∈ d.thresholds, s.thresholds.trigger? t.slot = some t.trigger := by
  obtain ⟨quantity, thresholds, described⟩ := made.described
  refine ⟨congrArg Identity.configuration described.identity,
    ((Thresholds.ofList_eq_ok_iff _ _).1 described.defined).2.2.1, ?_⟩
  intro t member
  rw [described.thresholds]
  exact Thresholds.trigger?_of_ofList described.defined _ member

/-! ## Operations -/

/-- The triggers of the sensor stay where they are, and nothing is to be kept. -/
structure Steady (s s' : Sensor) (effects : List Effect) : Prop where
  configuration : s'.identity.configuration = s.identity.configuration
  triggers : ∀ slot, s'.thresholds.trigger? slot = s.thresholds.trigger? slot
  keepsNone : ∀ e ∈ effects, ∀ configuration model t, e ≠ .keep configuration model t

theorem Steady.refl (s : Sensor) : Steady s s [] := ⟨rfl, fun _ => rfl, List.forall_mem_nil _⟩

theorem law_steady : Law Steady where
  trans first second := by
    refine ⟨second.configuration.trans first.configuration,
      fun slot => (second.triggers slot).trans (first.triggers slot), ?_⟩
    intro e member
    rcases List.mem_append.1 member with early | late
    · exact first.keepsNone e early
    · exact second.keepsNone e late
  move wiring := ⟨by rw [wiring.identity], fun _ => by rw [wiring.thresholds],
    List.forall_mem_nil _⟩
  evaluate s x := ⟨rfl, s.thresholds.trigger?_evaluate x, List.forall_mem_nil _⟩
  announce s p := ⟨rfl, fun _ => rfl, by simp⟩
  share x key := ⟨rfl, fun _ => rfl, by simp⟩
  rewire _ _ := ⟨rfl, fun _ => rfl, List.forall_mem_nil _⟩
  tell s hook x := ⟨rfl, fun _ => rfl, by simp⟩

/-- **Only an edit and new definitions move a trigger.** -/
theorem steady_perform (c : Conditions) {op : Op} (s : Sensor)
    (unedited : ∀ slot x, op ≠ .setTrigger slot x) (unswapped : ∀ ts, op ≠ .replaceThresholds ts) :
    Steady s (s.perform c op).sensor (s.perform c op).effects := by
  by_cases plain : op.isPlain = true
  · exact law_steady.perform c plain s
  · cases op with
    | setTrigger slot x => exact absurd rfl (unedited slot x)
    | replaceThresholds ts => exact absurd rfl (unswapped ts)
    | attach key =>
        refine ⟨rfl, fun _ => rfl, ?_⟩
        simp [perform, Outcome.ofAct, Act.attach]
    | _ => exact absurd rfl plain

/-- What an edit of a trigger comes to. -/
inductive Edited (s : Sensor) (slot : Slot) (x : Float) : Outcome → Prop where
  | refused (failure : Failure) : Edited s slot x ⟨s, [], .refused failure⟩
  | accepted {s' : Sensor} {t : Threshold} {event : Event} (named : t.slot = slot)
      (moved : t.trigger = x) (identity : s'.identity = s.identity)
      (triggers : ∀ other, s'.thresholds.trigger? other =
        if other = slot then some x else s.thresholds.trigger? other) :
      Edited s slot x
        ⟨s', [.keep s.identity.configuration s.identity.model t, .announce event], .done⟩

/-- **An edit is refused and nothing happens, or it moves one trigger and has it kept.** -/
theorem setTrigger_spec (c : Conditions) (slot : Slot) (x : Float) (s : Sensor) :
    Edited s slot x (s.perform c (.setTrigger slot x)) := by
  simp only [perform, setTrigger]
  cases outcome : s.thresholds.setTrigger slot x with
  | error failure => exact .refused failure
  | ok pair =>
      obtain ⟨next, edited⟩ := pair
      obtain ⟨-, t, found, rfl, -⟩ := Thresholds.setTrigger_eq_ok outcome
      exact .accepted (Thresholds.get?_slot found).2 rfl rfl
        (Thresholds.trigger?_setTrigger outcome)

end Sensor

end SensorMonitor
