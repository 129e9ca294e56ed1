/-
# Record -- a sensor as configured

The configuration holds a record for every sensor.  Most of a record may be left
out: the units follow from the name of the attribute file, the bounds from the
units, and times that make no sense are replaced.  `toDefinition` is the sensor that
the record describes.
-/
import SensorMonitor.Definition
import SensorMonitor.Files.Path
import SensorMonitor.Hwmon.AttributeName
import SensorMonitor.Number.Binary64

namespace SensorMonitor

set_option autoImplicit false

/-- A threshold as configured: severity and direction are still as written. -/
structure ThresholdRecord where
  name : Option String
  severity : Nat
  direction : String
  value : Float
  hysteresis : Option Float
  deriving BEq, DecidableEq

/-- A sensor as configured.  Times are in seconds. -/
structure SensorRecord where
  name : String
  model : String
  unit : Option String
  min : Option Float
  max : Option Float
  thresholds : List ThresholdRecord
  mutable : Bool
  settable : Bool
  power : PowerNeed
  pollRate : Option Float
  offset : Float
  scale : Float
  path : Option String
  timeout : Option Float
  errorLimit : Option Nat
  statistics : Bool
  deriving BEq, DecidableEq

/-- The threshold that a record describes. -/
def ThresholdRecord.toThreshold (r : ThresholdRecord) : Except Failure Threshold :=
  let label := r.name.getD "threshold"
  match Level.ofSeverity? r.severity with
  | none => .error (.threshold label (.unknownSeverity r.severity))
  | some level =>
      match Direction.ofComparison? r.direction with
      | none => .error (.threshold label (.unknownDirection r.direction))
      | some direction =>
          match r.hysteresis with
          | some hysteresis => .ok (.ofBand ⟨level, direction⟩ r.value hysteresis)
          | none => .ok (.ofTrigger ⟨level, direction⟩ r.value)

namespace SensorRecord

/-- The model of a sensor that is written from outside. -/
def externalModel : String := "ExternalSensor"

/-- The sensor is written from outside. -/
def isExternal (r : SensorRecord) : Bool := r.model = externalModel

/-- The units as configured, or those of the attribute file. -/
def resolvedUnit (r : SensorRecord) : Option String :=
  match r.unit with
  | some unit => some unit
  | none =>
      ((r.path.bind fun path => (Files.Path.ofText path).fileName?).bind
        Hwmon.AttributeName.quantity?).map (·.unit)

/-- The bounds as configured, or the usual ones for a unit. -/
def bounds (r : SensorRecord) (unit : String) : Float × Float :=
  let (min, max) := Quantity.rangeOfUnit unit
  (r.min.getD min, r.max.getD max)

/-! ## Times -/

/-- A positive time below a day, in nanoseconds, a half going to the even one. -/
def nanoseconds? (seconds : Float) : Option Nat :=
  if 0 < seconds && seconds < 86400 then
    (Number.magnitude? seconds).map fun m =>
      let scaled := Number.scaleRatio (m.significand * 1000000000) 1 (-m.exponent)
      Number.nearestEven scaled.1 scaled.2
  else none

/-- The time between reads where none that makes sense is configured. -/
def usualInterval : Nat := 500000000

/-- The shortest time between reads. -/
def shortestInterval : Nat := 50000000

/-- The time between reads. -/
def interval (r : SensorRecord) : Nat :=
  match r.pollRate.bind nanoseconds? with
  | some ns => Nat.max ns shortestInterval
  | none => usualInterval

/-- How long a written value stays valid, if it perishes. -/
def perishesAfter (r : SensorRecord) : Option Nat := r.timeout.bind nanoseconds?

/-! ## The sensor -/

/-- The sensor that the record under a configuration path describes. -/
def toDefinition (r : SensorRecord) (configuration : String) : Except Failure Definition :=
  match r.resolvedUnit with
  | none => .error (.setting (.unitsUnknown r.name))
  | some unit => do
      let (min, max) := r.bounds unit
      let thresholds ← r.thresholds.mapM (·.toThreshold)
      return {
        name := r.name
        configuration := configuration
        model := r.model
        unit := unit
        min := min
        max := max
        thresholds := thresholds
        mutable := r.mutable || r.isExternal
        settable := r.settable || r.isExternal
        power := r.power
        errorLimit := r.errorLimit
        statistics := r.statistics }

end SensorRecord

end SensorMonitor
