/-
# Event -- what the bus tells about a sensor

A sensor is registered with all its properties, changes them one at a time and is
removed.  Alarm and trigger properties go by name, so that an event can also speak
of a property that no slot has.
-/
import SensorMonitor.ObjectPath
import SensorMonitor.Slot

namespace SensorMonitor

set_option autoImplicit false

/-- A threshold as the bus shows it. -/
structure ThresholdView where
  slot : Slot
  trigger : Float
  alarm : Bool
  deriving DecidableEq

/-- All properties of a sensor.  `mutable` is there only for a sensor whose value may
be written. -/
structure Properties where
  unit : String
  value : Float
  max : Float
  min : Float
  thresholds : List ThresholdView
  available : Bool
  functional : Bool
  mutable : Option Bool
  association : Option Association
  deriving DecidableEq

/-- One property with its new value. -/
inductive Property where
  | value (x : Float)
  | max (x : Float)
  | min (x : Float)
  | trigger (name : String) (x : Float)
  | alarm (name : String) (raised : Bool)
  | available (b : Bool)
  | functional (b : Bool)
  deriving DecidableEq

namespace Property

/-- The name of the property on the bus. -/
def name : Property → String
  | .value _ => "Value"
  | .max _ => "MaxValue"
  | .min _ => "MinValue"
  | .trigger property _ => property
  | .alarm property _ => property
  | .available _ => "Available"
  | .functional _ => "Functional"

/-- The interface of values, which also holds properties that no slot has. -/
def valueInterface : String := "xyz.openbmc_project.Sensor.Value"

/-- The interface of the slot's level, if there is a slot. -/
def interfaceOf (slot : Option Slot) : String :=
  match slot with
  | some slot => slot.level.interface
  | none => valueInterface

/-- The bus interface that holds the property. -/
def interface : Property → String
  | .value _ => valueInterface
  | .max _ => valueInterface
  | .min _ => valueInterface
  | .trigger property _ => interfaceOf (Slot.ofTriggerProperty? property)
  | .alarm property _ => interfaceOf (Slot.ofAlarmProperty? property)
  | .available _ => "xyz.openbmc_project.State.Decorator.Availability"
  | .functional _ => "xyz.openbmc_project.State.Decorator.OperationalStatus"

end Property

/-- What happens to the object at a path. -/
inductive Event where
  | registered (path : String) (properties : Properties)
  | changed (path : String) (property : Property)
  | removed (path : String)
  deriving DecidableEq

/-- The path that the event is about. -/
def Event.path : Event → String
  | .registered path _ => path
  | .changed path _ => path
  | .removed path => path

/-- An event with its place in the sequence of all events. -/
structure NumberedEvent where
  seq : Nat
  event : Event
  deriving DecidableEq

end SensorMonitor
