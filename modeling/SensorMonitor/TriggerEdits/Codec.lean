/-
# TriggerEdits.Codec -- edits as a document

The document has one member, the object of the lists of edits under their
configuration paths.  It may be missing, and then there are no edits.
-/
import SensorMonitor.Json.Decode
import SensorMonitor.Json.Reader
import SensorMonitor.Json.Writer
import SensorMonitor.TriggerEdits

namespace SensorMonitor

set_option autoImplicit false

open Json (Fields)

namespace TriggerEdit

def encode (e : TriggerEdit) : Json :=
  .ofMembers [("Type", .text e.model), ("Severity", .nat e.severity),
    ("Direction", .text e.direction), ("Value", .float e.value)]

/-- The largest severity that can be written. -/
def largestSeverity : Nat := 255

def decode? (j : Json) : Option TriggerEdit := do
  let fields ← Fields.of? ["Type", "Severity", "Direction", "Value"] j
  let model ← fields.required "Type" Json.text?
  let severity ← fields.required "Severity" (Json.natUpTo? largestSeverity)
  let direction ← fields.required "Direction" Json.text?
  let value ← fields.required "Value" Json.float?
  some ⟨model, severity, direction, value⟩

end TriggerEdit

namespace TriggerEdits

def encode (edits : TriggerEdits) : Json :=
  let entries := edits.toList.map fun (path, list) => (path, .array (list.map TriggerEdit.encode))
  .ofMembers [("sensors", .ofMembers entries)]

/-- The text that is kept, one item a line. -/
def toText (edits : TriggerEdits) : String := edits.encode.pretty

def decodeEntries? (j : Json) : Option TriggerEdits := do
  let members ← j.members?
  let entries ← members.mapM fun (path, list) => do
    let items ← Json.items? list
    let edits ← items.mapM TriggerEdit.decode?
    some (path, edits)
  some ⟨entries.foldl (fun all (path, edits) => all.insert path edits) ∅⟩

def decode? (j : Json) : Option TriggerEdits := do
  let fields ← Fields.of? ["sensors"] j
  fields.defaulted "sensors" empty decodeEntries?

/-- The edits that a text writes. -/
def ofText? (text : String) : Option TriggerEdits := (Json.parse? text).bind decode?

end TriggerEdits

end SensorMonitor
