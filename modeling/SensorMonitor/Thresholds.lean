/-
# Thresholds -- the thresholds of a sensor

At most one threshold a slot, in the order of slots.  A reading is put to each of
them alone.  A whole new set of definitions can be swapped in, in which a slot that
stays keeps its alarm.
-/
import SensorMonitor.Failure
import SensorMonitor.Threshold

namespace SensorMonitor

set_option autoImplicit false

/-- The thresholds of a sensor. -/
structure Thresholds where
  toList : List Threshold
  deriving DecidableEq

namespace Thresholds

/-- The most thresholds that a sensor may have, one for each slot. -/
def limit : Nat := 8

def empty : Thresholds := ⟨[]⟩

def size (ts : Thresholds) : Nat := ts.toList.length

/-- The hysteresis is not set or is a finite number that is not negative. -/
def usableHysteresis (h : Float) : Bool := h.isNaN || !(h < 0 || h.isInf)

/-- The first flaw of a threshold that comes after those `seen`. -/
def flaw? (seen : List Threshold) (t : Threshold) : Option ThresholdFlaw :=
  if !t.trigger.isFinite then some .triggerNotFinite
  else if !usableHysteresis t.hysteresis then some .hysteresisNotUsable
  else if seen.any fun other => other.slot = t.slot then some .repeated
  else none

/-- Checks each threshold in turn against those before it. -/
def check (seen : List Threshold) : List Threshold → Except Failure Unit
  | [] => .ok ()
  | t :: rest =>
      match flaw? seen t with
      | some flaw => .error (.threshold t.slot.triggerProperty flaw)
      | none => check (seen ++ [t]) rest

/-- The thresholds in the order of slots. -/
def sort (ts : List Threshold) : List Threshold :=
  ts.mergeSort fun a b => a.slot.rank ≤ b.slot.rank

/-- Takes a list of thresholds that has no flaw. -/
def ofList (ts : List Threshold) : Except Failure Thresholds :=
  if limit < ts.length then .error (.setting (.tooManyThresholds ts.length limit))
  else
    match check [] ts with
    | .error failure => .error failure
    | .ok () => .ok ⟨sort ts⟩

/-- Gives every threshold without a hysteresis this one. -/
def withDefaultHysteresis (ts : Thresholds) (h : Float) : Thresholds :=
  ⟨ts.toList.map fun t => if t.hysteresis.isNaN then { t with hysteresis := h } else t⟩

/-- The thresholds after a reading. -/
def evaluate (ts : Thresholds) (x : Float) : Thresholds := ⟨ts.toList.map (·.evaluate x)⟩

/-- The changes that a reading makes, in the order of slots. -/
def edges (ts : Thresholds) (x : Float) : List AlarmEdge := ts.toList.filterMap (·.edge? x)

/-- The threshold of a slot. -/
def get? (ts : Thresholds) (slot : Slot) : Option Threshold :=
  ts.toList.find? fun t => t.slot = slot

/-- Changes the trigger of the threshold of a slot. -/
def setTrigger (ts : Thresholds) (slot : Slot) (x : Float) :
    Except Failure (Thresholds × Threshold) :=
  if !x.isFinite then .error (.threshold slot.triggerProperty .triggerNotFinite)
  else
    match ts.get? slot with
    | none => .error (.threshold slot.triggerProperty .notDefined)
    | some t =>
        let update := fun t : Threshold => if t.slot = slot then { t with trigger := x } else t
        .ok (⟨ts.toList.map update⟩, { t with trigger := x })

/-- The definitions agree one by one. -/
def sameDefinitions (a b : Thresholds) : Bool :=
  a.size = b.size && (a.toList.zip b.toList).all fun pair => pair.1.sameDefinition pair.2

/-- The new definitions, with the alarms of the old in the slots that stay. -/
def inheritAlarms (old new : Thresholds) : Thresholds :=
  ⟨new.toList.map fun t =>
    match old.get? t.slot with
    | some before => { t with active := before.active }
    | none => t⟩

/-- Swaps in new definitions; `none` if they are the old ones. -/
def replace? (old new : Thresholds) : Option Thresholds :=
  if old.sameDefinitions new then none else some (old.inheritAlarms new)

/-- The slots with a raised alarm that the new definitions give up. -/
def abandoned (old new : Thresholds) : List Slot :=
  (old.toList.filter fun t => t.active && (new.get? t.slot).isNone).map (·.slot)

/-- An alarm of this level or above is raised. -/
def anyAlarmFrom (ts : Thresholds) (level : Level) : Bool :=
  ts.toList.any fun t => level.severity ≤ t.slot.level.severity && t.active

/-- The thresholds as the bus shows them. -/
def views (ts : Thresholds) : List ThresholdView := ts.toList.map (·.view)

end Thresholds

end SensorMonitor
