/-
# Threshold -- one alarm with its trigger and hysteresis

A high alarm is raised above its trigger and cleared at or below the trigger less
the hysteresis; a low alarm is raised below its trigger and cleared at or above the
trigger plus the hysteresis.  In between it stays as it is, and a lost reading
leaves it as it is.
-/
import SensorMonitor.Event
import SensorMonitor.Number.Binary64

namespace SensorMonitor

set_option autoImplicit false

/-- A threshold.  The hysteresis is NaN while it is not set. -/
structure Threshold where
  slot : Slot
  trigger : Float
  hysteresis : Float
  active : Bool
  deriving DecidableEq

/-- A change of an alarm, with the reading that made it and the trigger it passed. -/
structure AlarmEdge where
  slot : Slot
  raised : Bool
  reading : Float
  trigger : Float
  deriving DecidableEq

namespace Threshold

/-- A threshold with its alarm clear and without a hysteresis of its own. -/
def ofTrigger (slot : Slot) (trigger : Float) : Threshold := ⟨slot, trigger, Number.nan, false⟩

/-- A threshold with its alarm clear. -/
def ofBand (slot : Slot) (trigger hysteresis : Float) : Threshold :=
  ⟨slot, trigger, hysteresis, false⟩

/-- The hysteresis, zero while it is not set. -/
def band (t : Threshold) : Float := if t.hysteresis.isNaN then 0 else t.hysteresis

/-- The reading raises the alarm. -/
def raises (t : Threshold) (x : Float) : Bool :=
  match t.slot.direction with
  | .high => t.trigger < x
  | .low => x < t.trigger

/-- The reading clears the alarm. -/
def clears (t : Threshold) (x : Float) : Bool :=
  match t.slot.direction with
  | .high => x ≤ t.trigger - t.band
  | .low => t.trigger + t.band ≤ x

/-- The alarm after a reading. -/
def latch (t : Threshold) (x : Float) : Bool :=
  if x.isNaN then t.active
  else if t.active then !t.clears x
  else t.raises x

/-- The threshold after a reading. -/
def evaluate (t : Threshold) (x : Float) : Threshold := { t with active := t.latch x }

/-- The change that a reading makes. -/
def edge? (t : Threshold) (x : Float) : Option AlarmEdge :=
  if t.latch x = t.active then none else some ⟨t.slot, t.latch x, x, t.trigger⟩

/-- The two thresholds agree, alarms apart; unset hystereses agree. -/
def sameDefinition (a b : Threshold) : Bool :=
  a.slot = b.slot && a.trigger == b.trigger &&
    (a.hysteresis == b.hysteresis || (a.hysteresis.isNaN && b.hysteresis.isNaN))

/-- The threshold as the bus shows it. -/
def view (t : Threshold) : ThresholdView := ⟨t.slot, t.trigger, t.active⟩

theorem latch_of_isNaN (t : Threshold) (x : Float) (h : x.isNaN = true) : t.latch x = t.active := by
  unfold latch
  rw [if_pos h]

theorem edge?_eq_some_iff (t : Threshold) (x : Float) (e : AlarmEdge) :
    t.edge? x = some e ↔ t.latch x ≠ t.active ∧ e = ⟨t.slot, t.latch x, x, t.trigger⟩ := by
  unfold edge?
  split <;> simp_all [eq_comm]

end Threshold

end SensorMonitor
