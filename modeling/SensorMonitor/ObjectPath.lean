/-
# ObjectPath -- where a sensor stands on the bus

The path of a sensor is made of a fixed root, the segment of what it measures and
its name, in which everything but ASCII letters, digits and the underscore is
replaced.  An association ties the sensor to the inventory item whose
configuration describes it.
-/

namespace SensorMonitor

set_option autoImplicit false

namespace ObjectPath

/-- The root of all sensors. -/
def root : String := "/xyz/openbmc_project/sensors/"

/-- The character may stand in an element of a path. -/
def isElementChar (c : Char) : Bool := c.isAlphanum || c = '_'

/-- The name as an element of a path. -/
def escape (name : String) : String :=
  String.ofList (name.toList.map fun c => if isElementChar c then c else '_')

/-- The path of a sensor. -/
def ofName (segment name : String) : String := root ++ segment ++ "/" ++ escape name

/-- The characters before the last slash, if there is one. -/
def beforeLastSlash? (cs : List Char) : Option (List Char) :=
  match cs.reverse.dropWhile (· ≠ '/') with
  | [] => none
  | _ :: before => some before.reverse

end ObjectPath

/-- A tie between two objects: its name from either side, and the far object. -/
structure Association where
  forward : String
  reverse : String
  endpoint : String
  deriving DecidableEq

namespace Association

/-- The tie from a sensor to the item that holds its configuration: what stands
before the last slash of the configuration path. -/
def inventory (configurationPath : String) : Association :=
  { forward := "inventory"
    reverse := "sensors"
    endpoint :=
      match ObjectPath.beforeLastSlash? configurationPath.toList with
      | none => ""
      | some [] => "/"
      | some before => String.ofList before }

end Association

end SensorMonitor
