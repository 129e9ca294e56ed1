/-
# Event.Codec -- events as documents

`encode` writes an event, `decode?` reads what it wrote and every other spelling
that means the same: other keys, another order, a record as an array.  Fields of a
variant always stand under keys.  NaN and the infinities are written as `null`,
which is no number, so an event with one of them is not read back.
-/
import SensorMonitor.Event
import SensorMonitor.Json.Decode
import SensorMonitor.Json.Reader
import SensorMonitor.Json.Writer

namespace SensorMonitor

set_option autoImplicit false

open Json (Source Fields Tagged Tagging)

/-! ## Writing -/

namespace Event

def encodeThreshold (t : ThresholdView) : Json :=
  .ofMembers [("level", .text t.slot.level.name), ("direction", .text t.slot.direction.name),
    ("value", .float t.trigger), ("alarm", .bool t.alarm)]

def encodeAssociation (a : Association) : Json :=
  .ofMembers [("forward", .text a.forward), ("reverse", .text a.reverse),
    ("endpoint", .text a.endpoint)]

def encodeProperties (p : Properties) : Json :=
  .ofMembers ([("unit", .text p.unit), ("value", .float p.value), ("max_value", .float p.max),
    ("min_value", .float p.min), ("thresholds", .array (p.thresholds.map encodeThreshold)),
    ("available", .bool p.available), ("functional", .bool p.functional)]
    ++ Json.optionalMember "mutable" .bool p.mutable
    ++ Json.optionalMember "association" encodeAssociation p.association)

/-- A tag and its content. -/
def encodeProperty : Property → Json
  | .value x => tagged "Value" (.float x)
  | .max x => tagged "MaxValue" (.float x)
  | .min x => tagged "MinValue" (.float x)
  | .trigger name x => tagged "Threshold" (.ofMembers [("name", .text name), ("value", .float x)])
  | .alarm name raised =>
      tagged "Alarm" (.ofMembers [("name", .text name), ("asserted", .bool raised)])
  | .available b => tagged "Available" (.bool b)
  | .functional b => tagged "Functional" (.bool b)
where
  tagged (tag : String) (content : Json) : Json :=
    .ofMembers [("property", .text tag), ("value", content)]

/-- The tag and the content of an event. -/
def members : Event → List (String × Json)
  | .registered path properties =>
      [("event", .text "Registered"),
        ("data", .ofMembers [("path", .text path), ("properties", encodeProperties properties)])]
  | .changed path property =>
      [("event", .text "PropertyChanged"),
        ("data", .ofMembers [("path", .text path), ("property", encodeProperty property)])]
  | .removed path =>
      [("event", .text "Removed"), ("data", .ofMembers [("path", .text path)])]

def encode (e : Event) : Json := .ofMembers e.members

/-- The text of an event. -/
def toText (e : Event) : String := e.encode.compact

/-! ## Reading -/

def decodeLevel? (source : Source) (j : Json) : Option Level :=
  (j.variant? source).bind Level.ofName?

def decodeDirection? (source : Source) (j : Json) : Option Direction :=
  (j.variant? source).bind Direction.ofName?

def decodeThreshold? (source : Source) (j : Json) : Option ThresholdView := do
  let fields ← Fields.of? ["level", "direction", "value", "alarm"] j
  let level ← fields.required "level" (decodeLevel? source)
  let direction ← fields.required "direction" (decodeDirection? source)
  let trigger ← fields.required "value" Json.float?
  let alarm ← fields.required "alarm" Json.bool?
  some ⟨⟨level, direction⟩, trigger, alarm⟩

def decodeAssociation? (j : Json) : Option Association := do
  let fields ← Fields.of? ["forward", "reverse", "endpoint"] j
  let forward ← fields.required "forward" Json.text?
  let reverse ← fields.required "reverse" Json.text?
  let endpoint ← fields.required "endpoint" Json.text?
  some ⟨forward, reverse, endpoint⟩

def propertiesFields : List String :=
  ["unit", "value", "max_value", "min_value", "thresholds", "available", "functional", "mutable",
    "association"]

def decodeProperties? (source : Source) (j : Json) : Option Properties := do
  let fields ← Fields.of? propertiesFields j
  let unit ← fields.required "unit" Json.text?
  let value ← fields.required "value" Json.float?
  let max ← fields.required "max_value" Json.float?
  let min ← fields.required "min_value" Json.float?
  let thresholds ← fields.required "thresholds" fun items =>
    (Json.items? items).bind (·.mapM (decodeThreshold? source))
  let available ← fields.required "available" Json.bool?
  let functional ← fields.required "functional" Json.bool?
  let mutable ← fields.nullable "mutable" Json.bool?
  let association ← fields.nullable "association" decodeAssociation?
  some ⟨unit, value, max, min, thresholds, available, functional, mutable, association⟩

/-- The property with a tag, from its content. -/
def propertyOfTag? (tag : String) (content : Json) : Option Property :=
  match tag with
  | "Value" => (Json.float? content).map .value
  | "MaxValue" => (Json.float? content).map .max
  | "MinValue" => (Json.float? content).map .min
  | "Threshold" => do
      let fields ← Fields.ofObject? ["name", "value"] content
      let name ← fields.required "name" Json.text?
      let x ← fields.required "value" Json.float?
      some (.trigger name x)
  | "Alarm" => do
      let fields ← Fields.ofObject? ["name", "asserted"] content
      let name ← fields.required "name" Json.text?
      let raised ← fields.required "asserted" Json.bool?
      some (.alarm name raised)
  | "Available" => (Json.bool? content).map .available
  | "Functional" => (Json.bool? content).map .functional
  | _ => none

def propertyTagging : Tagging :=
  ⟨"property", "value",
    ["Value", "MaxValue", "MinValue", "Threshold", "Alarm", "Available", "Functional"]⟩

def decodeProperty? (source : Source) (j : Json) : Option Property :=
  (propertyTagging.read? source j).bind fun t => propertyOfTag? t.tag t.content

/-- The event with a tag, from its content. -/
def ofTagged? (t : Tagged) : Option Event :=
  match t.tag with
  | "Registered" => do
      let fields ← Fields.ofObject? ["path", "properties"] t.content
      let path ← fields.required "path" Json.text?
      let properties ← fields.required "properties" (decodeProperties? t.source)
      some (.registered path properties)
  | "PropertyChanged" => do
      let fields ← Fields.ofObject? ["path", "property"] t.content
      let path ← fields.required "path" Json.text?
      let property ← fields.required "property" (decodeProperty? t.source.inner)
      some (.changed path property)
  | "Removed" => do
      let fields ← Fields.ofObject? ["path"] t.content
      let path ← fields.required "path" Json.text?
      some (.removed path)
  | _ => none

def tagging : Tagging := ⟨"event", "data", ["Registered", "PropertyChanged", "Removed"]⟩

def decode? (source : Source) (j : Json) : Option Event :=
  (tagging.read? source j).bind ofTagged?

/-- The event that a text writes. -/
def ofText? (text : String) : Option Event :=
  (Json.parse? text).bind (decode? (.text 0))

end Event

namespace NumberedEvent

/-- The number stands beside the tag and the content of the event. -/
def encode (e : NumberedEvent) : Json := .ofMembers (("seq", .nat e.seq) :: e.event.members)

/-- The text of a numbered event. -/
def toText (e : NumberedEvent) : String := e.encode.compact

/-- All members beside the number are copied before the event is looked for among them. -/
def decode? (j : Json) : Option NumberedEvent := do
  let members ← j.members?
  let (numbers, others) := members.partition fun member => member.1 = "seq"
  let seq ← match numbers with
    | [(_, n)] => n.natUpTo? Json.largestSignificand
    | _ => none
  if others.all fun member => member.2.copyable (Json.deepest - 1) then
    let event ← (Event.tagging.ofMembers? .copy others).bind Event.ofTagged?
    some ⟨seq, event⟩
  else none

/-- The numbered event that a text writes. -/
def ofText? (text : String) : Option NumberedEvent := (Json.parse? text).bind decode?

end NumberedEvent

end SensorMonitor
