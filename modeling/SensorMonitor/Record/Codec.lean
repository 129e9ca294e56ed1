/-
# Record.Codec -- the configuration as a document

The configuration is an object of records under their configuration paths; of a path
that occurs more than once the last record counts.  A record is written with its
fields in a fixed order, those that are absent left out.
-/
import SensorMonitor.Files
import SensorMonitor.Json.Decode
import SensorMonitor.Json.Reader
import SensorMonitor.Json.Writer
import SensorMonitor.Record
import Std.Data.TreeMap

namespace SensorMonitor

set_option autoImplicit false

open Json (Source Fields)

/-- The records by ascending configuration path. -/
abbrev Configuration := Std.TreeMap String SensorRecord

namespace ThresholdRecord

def fieldNames : List String := ["Name", "Severity", "Direction", "Value", "Hysteresis"]

def decode? (j : Json) : Option ThresholdRecord := do
  let fields ← Fields.of? fieldNames j
  let name ← fields.optional "Name" Json.text?
  let severity ← fields.required "Severity" (Json.natUpTo? Json.largestSignificand)
  let direction ← fields.required "Direction" Json.text?
  let value ← fields.required "Value" Json.float?
  let hysteresis ← fields.optional "Hysteresis" Json.float?
  some ⟨name, severity, direction, value, hysteresis⟩

def encode (r : ThresholdRecord) : Json :=
  .ofMembers (Json.optionalMember "Name" .text r.name
    ++ [("Severity", .nat r.severity), ("Direction", .text r.direction), ("Value", .float r.value)]
    ++ Json.optionalMember "Hysteresis" .float r.hysteresis)

end ThresholdRecord

namespace SensorRecord

def fieldNames : List String :=
  ["Name", "Type", "Units", "MinReading", "MaxReading", "Thresholds", "Mutable", "Settable",
    "PowerState", "PollRate", "Offset", "Scale", "Path", "Timeout", "ErrorThreshold",
    "Instrumentation"]

/-- The model where none is given. -/
def usualModel : String := "Hwmon"

def decodeThresholds? (j : Json) : Option (List ThresholdRecord) :=
  (Json.items? j).bind (·.mapM ThresholdRecord.decode?)

def decodePower? (source : Source) (j : Json) : Option PowerNeed :=
  (j.variant? source).bind PowerNeed.ofName?

def decode? (source : Source) (j : Json) : Option SensorRecord := do
  let fields ← Fields.of? fieldNames j
  let name ← fields.required "Name" Json.text?
  let model ← fields.defaulted "Type" usualModel Json.text?
  let unit ← fields.optional "Units" Json.text?
  let min ← fields.optional "MinReading" Json.float?
  let max ← fields.optional "MaxReading" Json.float?
  let thresholds ← fields.defaulted "Thresholds" [] decodeThresholds?
  let mutable ← fields.defaulted "Mutable" false Json.bool?
  let settable ← fields.defaulted "Settable" false Json.bool?
  let power ← fields.defaulted "PowerState" .always (decodePower? source.inner)
  let pollRate ← fields.optional "PollRate" Json.float?
  let offset ← fields.defaulted "Offset" 0 Json.float?
  let scale ← fields.defaulted "Scale" 1 Json.float?
  let path ← fields.optional "Path" Json.text?
  let timeout ← fields.optional "Timeout" Json.float?
  let errorLimit ← fields.optional "ErrorThreshold" (Json.natUpTo? Json.largestSignificand)
  let statistics ← fields.defaulted "Instrumentation" false Json.bool?
  some ⟨name, model, unit, min, max, thresholds, mutable, settable, power, pollRate, offset, scale,
    path, timeout, errorLimit, statistics⟩

def encode (r : SensorRecord) : Json :=
  .ofMembers ([("Name", .text r.name), ("Type", .text r.model)]
    ++ Json.optionalMember "Units" .text r.unit
    ++ Json.optionalMember "MinReading" .float r.min
    ++ Json.optionalMember "MaxReading" .float r.max
    ++ [("Thresholds", .array (r.thresholds.map ThresholdRecord.encode)),
      ("Mutable", .bool r.mutable), ("Settable", .bool r.settable),
      ("PowerState", .text r.power.name)]
    ++ Json.optionalMember "PollRate" .float r.pollRate
    ++ [("Offset", .float r.offset), ("Scale", .float r.scale)]
    ++ Json.optionalMember "Path" .text r.path
    ++ Json.optionalMember "Timeout" .float r.timeout
    ++ Json.optionalMember "ErrorThreshold" .nat r.errorLimit
    ++ [("Instrumentation", .bool r.statistics)])

/-- The text of a record. -/
def toText (r : SensorRecord) : String := r.encode.compact

/-- The record that a text writes. -/
def ofText? (text : String) : Option SensorRecord :=
  (Json.parse? text).bind (decode? (.text 0))

end SensorRecord

namespace Configuration

/-- The largest configuration file, in bytes. -/
def sizeLimit : Nat := 4 * 1024 * 1024

def decode? (source : Source) (j : Json) : Option Configuration := do
  let members ← j.members?
  let records ← members.mapM fun (path, record) =>
    (SensorRecord.decode? source.inner record).map fun record => (path, record)
  some (records.foldl (fun all (path, record) => all.insert path record) ∅)

/-- Reads a configuration file. -/
def load (files : Files) (path : String) : Except Failure Configuration := do
  let text ← files.readTextUpTo path sizeLimit
  match (Json.parse? text).bind (decode? (.text 0)) with
  | some configuration => .ok configuration
  | none => .error .badDocument

end Configuration

end SensorMonitor
