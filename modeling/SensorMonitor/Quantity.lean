/-
# Quantity -- what a sensor measures

Every quantity has one unit, in which its sensors are configured, one segment of
the object path, under which they are published, and a usual range of readings.
-/

namespace SensorMonitor

set_option autoImplicit false

/-- The quantities that may be published. -/
inductive Quantity where
  | temperature
  | voltage
  | current
  | power
  | fanSpeed
  | utilization
  | pressure
  | airflow
  | energy
  deriving DecidableEq, Repr

namespace Quantity

def all : List Quantity :=
  [.temperature, .voltage, .current, .power, .fanSpeed, .utilization, .pressure, .airflow, .energy]

/-- The unit of its readings. -/
def unit : Quantity → String
  | .temperature => "DegreesC"
  | .voltage => "Volts"
  | .current => "Amperes"
  | .power => "Watts"
  | .fanSpeed => "RPMS"
  | .utilization => "Percent"
  | .pressure => "Pascals"
  | .airflow => "CFM"
  | .energy => "Joules"

/-- The segment of the object path. -/
def segment : Quantity → String
  | .temperature => "temperature"
  | .voltage => "voltage"
  | .current => "current"
  | .power => "power"
  | .fanSpeed => "fan_tach"
  | .utilization => "utilization"
  | .pressure => "pressure"
  | .airflow => "airflow"
  | .energy => "energy"

def ofUnit? (s : String) : Option Quantity := all.find? (·.unit = s)

def ofSegment? (s : String) : Option Quantity := all.find? (·.segment = s)

/-- The quantity that an attribute of the hardware monitor measures, by its kind. -/
def ofAttributeKind? : String → Option Quantity
  | "temp" => some .temperature
  | "in" => some .voltage
  | "curr" => some .current
  | "power" => some .power
  | "fan" => some .fanSpeed
  | "humidity" => some .utilization
  | "pressure" => some .pressure
  | "energy" => some .energy
  | _ => none

/-- The lowest and the highest usual reading. -/
def range : Quantity → Float × Float
  | .temperature => (-128, 127)
  | .voltage => (0, 255)
  | .current => (0, 255)
  | .power => (0, 511)
  | .fanSpeed => (0, 25000)
  | .utilization => (0, 100)
  | .pressure => (30000, 120000)
  | .airflow => (0, 255)
  | .energy => (0, 255)

/-- The usual range for a unit, also for one that may not be published. -/
def rangeOfUnit (s : String) : Float × Float :=
  match ofUnit? s with
  | some quantity => quantity.range
  | none => (0, 255)

theorem ofUnit?_unit (q : Quantity) : ofUnit? q.unit = some q := by
  cases q <;> decide

theorem ofSegment?_segment (q : Quantity) : ofSegment? q.segment = some q := by
  cases q <;> decide

end Quantity

end SensorMonitor
