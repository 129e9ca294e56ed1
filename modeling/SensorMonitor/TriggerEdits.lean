/-
# TriggerEdits -- triggers that were changed while running

Under every configuration path stands a list of edits, each with the severity and the
direction of a threshold as they are written in the configuration.  A new edit takes
the place of those for the same severity and direction and goes to the end.  Applied
to thresholds in the order of the list, the last matching edit decides.
-/
import SensorMonitor.Threshold
import Std.Data.TreeMap

namespace SensorMonitor

set_option autoImplicit false

/-- A changed trigger.  Severity and direction are as written; they may name no slot. -/
structure TriggerEdit where
  model : String
  severity : Nat
  direction : String
  value : Float
  deriving DecidableEq

namespace TriggerEdit

/-- The edit that brings a threshold to its present trigger. -/
def ofThreshold (model : String) (t : Threshold) : TriggerEdit :=
  ⟨model, t.slot.level.severity, t.slot.direction.comparison, t.trigger⟩

/-- The slot that the edit is for, if it names one. -/
def slot? (e : TriggerEdit) : Option Slot := do
  let level ← Level.ofSeverity? e.severity
  let direction ← Direction.ofComparison? e.direction
  some ⟨level, direction⟩

/-- The edits are for the same severity and direction. -/
def sameTarget (a b : TriggerEdit) : Bool := a.severity = b.severity && a.direction = b.direction

theorem slot?_ofThreshold (model : String) (t : Threshold) :
    (ofThreshold model t).slot? = some t.slot := by
  simp [ofThreshold, slot?, Level.ofSeverity?_severity, Direction.ofComparison?_comparison]

end TriggerEdit

/-- The edits under their configuration paths. -/
structure TriggerEdits where
  entries : Std.TreeMap String (List TriggerEdit)

namespace TriggerEdits

def empty : TriggerEdits := ⟨∅⟩

/-- The edits under a configuration path. -/
def under (edits : TriggerEdits) (path : String) : List TriggerEdit := edits.entries[path]?.getD []

/-- A list of edits with one more. -/
def put (edits : List TriggerEdit) (e : TriggerEdit) : List TriggerEdit :=
  (edits.filter fun other => !other.sameTarget e) ++ [e]

/-- Adds an edit under a configuration path. -/
def upsert (edits : TriggerEdits) (path : String) (e : TriggerEdit) : TriggerEdits :=
  ⟨edits.entries.insert path (put (edits.under path) e)⟩

/-- Changes the first threshold that an edit is for; tells whether there is one. -/
def applyOne (e : TriggerEdit) : List Threshold → List Threshold × Bool
  | [] => ([], false)
  | t :: rest =>
      if e.slot? = some t.slot then ({ t with trigger := e.value } :: rest, true)
      else
        let (rest, found) := applyOne e rest
        (t :: rest, found)

/-- Applies edits one after another and counts those that found their threshold. -/
def applyAll (edits : List TriggerEdit) (ts : List Threshold) : List Threshold × Nat :=
  edits.foldl (fun (ts, count) e =>
    let (ts, found) := applyOne e ts
    (ts, if found then count + 1 else count)) (ts, 0)

/-- Applies the edits under a configuration path. -/
def apply (edits : TriggerEdits) (path : String) (ts : List Threshold) : List Threshold × Nat :=
  applyAll (edits.under path) ts

/-- The number of all edits. -/
def size (edits : TriggerEdits) : Nat :=
  edits.entries.foldl (fun count _ list => count + list.length) 0

/-- Paths and edits, by ascending path. -/
def toList (edits : TriggerEdits) : List (String × List TriggerEdit) := edits.entries.toList

theorem under_upsert (edits : TriggerEdits) (path other : String) (e : TriggerEdit) :
    (edits.upsert path e).under other =
      if path = other then put (edits.under path) e else edits.under other := by
  unfold upsert under
  simp only [Std.TreeMap.getElem?_insert]
  by_cases h : path = other <;> simp [h]

end TriggerEdits

end SensorMonitor
