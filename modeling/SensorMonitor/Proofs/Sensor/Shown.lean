/-
# Proofs.Sensor.Shown -- what effects show of a value

A value is shown on the bus, as a change of the property, and to the peers, under a key of
the directory.  Of the effects of an act only these matter to what can be seen of values
(`shown`): the values at a path of the log and the directory of the site depend on nothing
else (`values_absorbAll`, `directory_absorbAll`).
-/
import SensorMonitor.Proofs.Sensor.Installation

namespace SensorMonitor

set_option autoImplicit false

namespace Sensor

/-! ## What is shown of a value -/

/-- The effect shows a value, on the bus or to the peers, or takes it from the peers. -/
def Effect.shows : Effect → Bool
  | .announce (.changed _ (.value _)) => true
  | .share _ _ => true
  | .unlist _ => true
  | _ => false

/-- What is shown of a value, in order. -/
def shown (effects : List Effect) : List Effect := effects.filter Effect.shows

@[simp] theorem shown_append (first second : List Effect) :
    shown (first ++ second) = shown first ++ shown second :=
  List.filter_append ..

end Sensor

/-! ## At a site -/

/-- The value that an event shows at a path. -/
def Event.valueAt? (path : String) : Event → Option Float
  | .changed other (.value x) => if other = path then some x else none
  | _ => none

theorem Bus.values_eq (bus : Bus) (path : String) :
    bus.values path = bus.log.toList.filterMap (Event.valueAt? path) := by
  simp only [values, changes]
  rw [List.filterMap_filterMap]
  congr 1
  funext event
  cases event with
  | changed other p =>
      by_cases here : other = path <;> cases p <;>
        simp [changeAt?, Event.valueAt?, Property.name, here]
  | registered other p | removed other => rfl

/-- The event shows a value. -/
def Event.isValue : Event → Bool
  | .changed _ (.value _) => true
  | _ => false

/-- The events among what is shown of a value. -/
theorem Sensor.announced_shown (effects : List Sensor.Effect) :
    Sensor.announced (Sensor.shown effects) = (Sensor.announced effects).filter Event.isValue := by
  simp only [Sensor.announced, Sensor.shown]
  rw [List.filterMap_filter, List.filter_filterMap]
  congr 1
  funext e
  cases e with
  | announce event =>
      cases event with
      | changed other p => cases p <;> rfl
      | registered other p | removed other => rfl
  | share key x | unlist key | keep configuration model t | tell hook x => rfl

namespace Site

/-- What the log shows at a path depends on what is shown of a value only. -/
theorem values_absorbAll (site : Site) (effects : List Sensor.Effect) (path : String) :
    (site.absorbAll effects).bus.values path = site.bus.values path ++
      (Sensor.announced (Sensor.shown effects)).filterMap (Event.valueAt? path) := by
  have told : (Sensor.announced effects).filterMap (Event.valueAt? path) =
      (Sensor.announced (Sensor.shown effects)).filterMap (Event.valueAt? path) := by
    rw [Sensor.announced_shown, List.filterMap_filter]
    congr 1
    funext event
    cases event with
    | changed other p => cases p <;> rfl
    | registered other p | removed other => rfl
  rw [Bus.values_eq, Bus.values_eq, log_absorbAll, List.filterMap_append, told]

theorem directory_absorbAll (site : Site) {effects : List Sensor.Effect}
    (mute : Sensor.shown effects = []) :
    (site.absorbAll effects).directory = site.directory := by
  induction effects generalizing site with
  | nil => rfl
  | cons e rest ih =>
      obtain ⟨here, later⟩ := List.forall_mem_cons.1 (List.filter_eq_nil_iff.1 mute)
      have further : site.absorbAll (e :: rest) = (site.absorb e).absorbAll rest := rfl
      rw [further, ih _ (List.filter_eq_nil_iff.2 later)]
      cases e with
      | keep configuration model t =>
          simp only [absorb, keep]
          cases site.store <;> rfl
      | share key x | unlist key => exact absurd rfl here
      | announce event | tell hook x => rfl

end Site

end SensorMonitor
