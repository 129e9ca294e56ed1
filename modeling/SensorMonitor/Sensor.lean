/-
# Sensor -- a sensor and what can be done to it

A sensor is a value.  What can be done to it is an act: it gives the sensor
afterwards and the effects, in order, on everything around it (`Sensor.Effect`).
Acts in a row are joined by `Act.andThen`.

A reading goes through the power condition, the publish filter and the thresholds,
and a number shows that the sensor works.  The setter of the value is shared by the
sensor itself and by writes from outside.  The sensor raises `internal` around its
own use; a use with the flag down is an override, and while an override is in force
the sensor's own uses do nothing.  An override lasts until it is cleared.
-/
import SensorMonitor.Access
import SensorMonitor.Definition
import SensorMonitor.Health
import SensorMonitor.Measurement
import SensorMonitor.Tally

namespace SensorMonitor

set_option autoImplicit false

/-- What never changes about a sensor. -/
structure Identity where
  name : String
  configuration : String
  model : String
  quantity : Quantity
  path : String
  power : PowerNeed
  deriving DecidableEq

/-- Who is told about a write from outside: the clock of a perishable value, or a
listener known by a tag. -/
inductive WriteHook where
  | stamp
  | listener (tag : String)
  deriving DecidableEq

/-- A sensor, and whether it is registered on the bus. -/
structure Sensor where
  identity : Identity
  measurement : Measurement
  thresholds : Thresholds
  health : Health
  overridden : Bool
  internal : Bool
  mutable : Bool
  settable : Bool
  participates : Bool
  tally : Option Tally
  hook : Option WriteHook
  key : Option String
  registered : Bool
  deriving DecidableEq

namespace Sensor

/-! ## Making -/

/-- The sensor that a definition describes, before it is published. -/
def ofDefinition (d : Definition) : Except Failure Sensor := do
  Definition.checkName d.name
  let quantity ← Definition.quantityOf d.unit
  Definition.checkBounds d.min d.max
  let measurement := Measurement.ofRange d.min d.max
  let thresholds ← Thresholds.ofList d.thresholds
  let name := ObjectPath.escape d.name
  return {
    identity :=
      { name := name
        configuration := d.configuration
        model := d.model
        quantity := quantity
        path := ObjectPath.ofName quantity.segment name
        power := d.power }
    measurement := measurement
    thresholds := thresholds.withDefaultHysteresis measurement.triggerBand
    health := Health.ofLimit (d.errorLimit.getD Health.usualLimit)
    overridden := false
    internal := false
    mutable := d.mutable
    settable := d.settable
    participates := true
    tally := if d.statistics then some Tally.empty else none
    hook := none
    key := none
    registered := false }

/-! ## Looking -/

/-- The value as last published, or NaN when it was lost or forgotten. -/
def value (s : Sensor) : Float := s.measurement.value

/-- The power condition of the sensor holds. -/
def isReadable (s : Sensor) (power : PowerStatus) : Bool := s.identity.power.isMet power

/-- All properties as the bus shows them. -/
def properties (s : Sensor) : Properties :=
  { unit := s.identity.quantity.unit
    value := s.value
    max := s.measurement.max
    min := s.measurement.min
    thresholds := s.thresholds.views
    available := s.health.available
    functional := s.health.functional
    mutable := if s.mutable then some true else none
    association := some (Association.inventory s.identity.configuration) }

/-! ## Effects and acts -/

/-- What an act asks of the surroundings: an event on the bus, a value for peers under
a key, the key to be dropped, an edited threshold to be kept, a hook to be told. -/
inductive Effect where
  | announce (event : Event)
  | share (key : String) (x : Float)
  | unlist (key : String)
  | keep (configuration model : String) (threshold : Threshold)
  | tell (hook : WriteHook) (x : Float)
  deriving DecidableEq

/-- What can be done to a sensor. -/
abbrev Act := Sensor → Sensor × List Effect

namespace Act

/-- Nothing. -/
def skip : Act := fun s => (s, [])

/-- One act and then another. -/
def andThen (first second : Act) : Act := fun s =>
  let (s, before) := first s
  let (s, after) := second s
  (s, before ++ after)

/-- A change without effects. -/
def change (f : Sensor → Sensor) : Act := fun s => (f s, [])

/-- Announces a property of the sensor. -/
def publish (property : Property) : Act := fun s =>
  (s, [.announce (.changed s.identity.path property)])

/-- Announces properties one after another. -/
def publishAll (properties : List Property) : Act := fun s =>
  (s, properties.map fun property => .announce (.changed s.identity.path property))

/-! ## The value -/

/-- Shows a value to the peers, if the sensor has a key among them. -/
def share (x : Float) : Act := fun s =>
  (s, match s.key with
    | some key => [.share key x]
    | none => [])

/-- Stores a value and shows it everywhere. -/
def store (x : Float) : Act :=
  change (fun s => { s with measurement := s.measurement.withValue x })
    |>.andThen (publish (.value x))
    |>.andThen (share x)

/-- The setter of the value.  With the flag `internal` down it is an override. -/
def setValue (x : Float) : Act := fun s =>
  if s.internal then
    if s.overridden then skip s else store x s
  else store x { s with overridden := true }

/-- The sensor's own use of the setter. -/
def setOwnValue (x : Float) : Act :=
  change (fun s => { s with internal := true })
    |>.andThen (setValue x)
    |>.andThen (change fun s => { s with internal := false })

/-- Publishes a reading that is news. -/
def publishReading (x : Float) : Act := fun s =>
  if s.measurement.admits x then setOwnValue x s else skip s

/-- Forgets the value, so that the next reading is news. -/
def forget : Act := change fun s => { s with measurement := s.measurement.forget }

/-- Keeps the undecoded reading. -/
def setRaw (x : Float) : Act := change fun s => { s with measurement := s.measurement.withRaw x }

/-! ## Thresholds and health -/

/-- The property that tells a change of an alarm. -/
def alarmOf (edge : AlarmEdge) : Property := .alarm edge.slot.alarmProperty edge.raised

/-- Puts the value to the thresholds. -/
def checkThresholds : Act := fun s =>
  if s.participates then
    publishAll ((s.thresholds.edges s.value).map alarmOf)
      { s with thresholds := s.thresholds.evaluate s.value }
  else skip s

/-- Takes note of whether the sensor works. -/
def noteFunctional (b : Bool) : Act := fun s =>
  let act := if s.health.functional = b then skip else publish (.functional b)
  act { s with health := s.health.setFunctional b }

/-- Takes note of whether the sensor is available. -/
def noteAvailable (b : Bool) : Act := fun s =>
  let act := if s.health.available = b then skip else publish (.available b)
  act { s with health := s.health.setAvailable b }

/-- Counts a reading in the statistics. -/
def record (x : Float) : Act := change fun s => { s with tally := s.tally.map (·.record x) }

/-! ## Readings -/

/-- A number shows that the sensor works. -/
def recover (x : Float) : Act :=
  if x.isNaN then skip else (noteFunctional true).andThen (noteAvailable true)

/-- Takes a reading, NaN for none.  An override is deaf to readings; without power the
sensor is unavailable and its value lost, whatever the reading. -/
def feed (power : PowerStatus) (x : Float) : Act := fun s =>
  if s.overridden then skip s
  else if s.isReadable power then
    (publishReading x
      |>.andThen (record x)
      |>.andThen checkThresholds
      |>.andThen (recover x)) s
  else ((noteAvailable false).andThen (publishReading Number.nan)) s

/-- Declares that the sensor works or not; one that does not loses its value. -/
def markFunctional (power : PowerStatus) (b : Bool) : Act :=
  (noteFunctional b).andThen (if b then skip else feed power Number.nan)

/-- Counts a failed read.  The one that reaches the limit declares the sensor broken. -/
def countError (power : PowerStatus) : Act := fun s =>
  if s.isReadable power then
    let counted := change fun s => { s with health := s.health.countError }
    match s.health.errorOutcome with
    | .counted _ => counted s
    | .limitReached => (counted.andThen (markFunctional power false)) s
    | .beyondLimit => skip s
  else noteAvailable false s

/-! ## Writes from outside -/

/-- Tells the hook about a write. -/
def tellHook (x : Float) : Act := fun s =>
  (s, match s.hook with
    | some hook => [.tell hook x]
    | none => [])

/-- An accepted write of the value. -/
def override (x : Float) : Act :=
  (setValue x).andThen checkThresholds |>.andThen (tellHook x)

/-- Ends an override; the next reading is news. -/
def clearOverride : Act := (change fun s => { s with overridden := false }).andThen forget

/-- Ends an override and keeps the written value. -/
def release : Act := change fun s => { s with overridden := false }

/-- A write of the availability; going unavailable loses the value. -/
def setAvailable (power : PowerStatus) (b : Bool) : Act := fun s =>
  if s.health.available = b then skip s
  else ((noteAvailable b).andThen (if b then skip else feed power Number.nan)) s

/-! ## Range, thresholds and wiring -/

/-- Moves the lower bound if that is news. -/
def setMin (x : Float) : Act := fun s =>
  if Measurement.isNews s.measurement.min x s.measurement.publishBand then
    publish (.min x) { s with measurement := { s.measurement with min := x } }
  else skip s

/-- Moves the upper bound if that is news. -/
def setMax (x : Float) : Act := fun s =>
  if Measurement.isNews s.measurement.max x s.measurement.publishBand then
    publish (.max x) { s with measurement := { s.measurement with max := x } }
  else skip s

/-- Moves both bounds. -/
def setBounds (min max : Float) : Act := (setMin min).andThen (setMax max)

/-- An edited threshold: it is kept, announced, and put to the next reading. -/
def editThreshold (thresholds : Thresholds) (edited : Threshold) : Act := fun s =>
  let keep : Act := fun s => (s, [.keep s.identity.configuration s.identity.model edited])
  (keep
    |>.andThen (publish (.trigger edited.slot.triggerProperty edited.trigger))
    |>.andThen forget) { s with thresholds := thresholds }

/-- New definitions of thresholds: alarms that are given up are cleared on the bus, then
all triggers are announced. -/
def adoptThresholds (abandoned : List Slot) (thresholds : Thresholds) : Act := fun s =>
  (publishAll (abandoned.map fun slot => .alarm slot.alarmProperty false)
    |>.andThen (publishAll (thresholds.toList.map fun t =>
      .trigger t.slot.triggerProperty t.trigger))
    |>.andThen forget) { s with thresholds := thresholds }

/-- Shows the value to the peers under a key from now on. -/
def attach (key : String) : Act := fun s =>
  ({ s with key := some key }, [.share key s.value])

end Act

/-- What the end of a sensor asks of its surroundings; its path is free again if it was
registered there. -/
def retire (s : Sensor) : List Effect :=
  (match s.key with
    | some key => [.unlist key]
    | none => []) ++ if s.registered then [.announce (.removed s.identity.path)] else []

end Sensor

end SensorMonitor
