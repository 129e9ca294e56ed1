/-
# Definition -- what is said about a sensor before it exists

A definition names a sensor, what it measures, its range, its thresholds and how it
is to be treated.  It is checked whole before the sensor appears anywhere: the name,
then the unit, then the bounds (and then the thresholds, by `Thresholds.ofList`).
-/
import SensorMonitor.Power
import SensorMonitor.Quantity
import SensorMonitor.Text.Blank
import SensorMonitor.Thresholds

namespace SensorMonitor

set_option autoImplicit false

/-- The description of a sensor.  Without an error limit of its own it takes the
usual one. -/
structure Definition where
  name : String
  configuration : String
  model : String
  unit : String
  min : Float
  max : Float
  thresholds : List Threshold
  mutable : Bool
  settable : Bool
  power : PowerNeed
  errorLimit : Option Nat
  statistics : Bool
  deriving DecidableEq

namespace Definition

/-- The most bytes that a name may have. -/
def nameLimit : Nat := 128

/-- The character is a control character. -/
def isControl (c : Char) : Bool := c.toNat < 0x20 || (0x7F ≤ c.toNat && c.toNat < 0xA0)

/-- A name is not blank, not too long and free of control characters. -/
def checkName (name : String) : Except Failure Unit :=
  if (Text.trimBlanks name.toList).isEmpty then .error (.name .empty)
  else if nameLimit < name.utf8ByteSize then .error (.name (.tooLong name nameLimit))
  else if name.toList.any isControl then .error (.name (.controlCharacter name))
  else .ok ()

/-- The quantity of a unit that may be published. -/
def quantityOf (unit : String) : Except Failure Quantity :=
  match Quantity.ofUnit? unit with
  | some quantity => .ok quantity
  | none => .error (.units unit)

/-- Bounds are finite and enclose more than one value. -/
def checkBounds (min max : Float) : Except Failure Unit :=
  if !min.isFinite || !max.isFinite then .error (.setting .boundsNotFinite)
  else if max ≤ min then .error (.setting (.boundsNotAscending min max))
  else .ok ()

end Definition

end SensorMonitor
